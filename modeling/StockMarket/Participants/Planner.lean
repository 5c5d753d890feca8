import Mathlib.Data.List.Sort
import StockMarket.Library.Decimal
import StockMarket.Library.Dict
import StockMarket.Participants.Events

/-! The planner, which resolves the reactions to each news event once. -/

namespace StockMarket

/--
Random generators by their seeds, and the digest that seeds are made of.

Nothing is assumed about what they return.
-/
structure RandomSource (G : Type) where
  digest : String → Nat
  ofSeed : Nat → G
  randint : G → Int → Int → Int × G
  randrange : G → Int → Int × G
  chooseFirst : G → Bool × G

/-- Division that rounds up, for positive divisors. -/
def ceilDiv (value divisor : Int) : Int := (value + divisor - 1) / divisor

/-- How many candidates react, at least one unless nobody may. -/
def activationCount (candidateCount activationRatioBps : Int) : Int :=
  if candidateCount = 0 ∨ activationRatioBps = 0 then 0
  -- The share is rounded to the nearest count, and one at least reacts.
  else min candidateCount
    (max 1 ((candidateCount * activationRatioBps + basisPoints / 2) / basisPoints))

/-- What a seed is made of: texts and numbers. -/
inductive SeedPart where
  | text (value : CodePoints)
  | number (value : Int)

/-- A part as a text; a number of too many digits is not written. -/
def SeedPart.written : SeedPart → Except ValueError CodePoints
  | .text value => .ok value
  | .number value =>
    if isUnwritable value then
      .error ⟨"Exceeds the limit (4300 digits) for integer string conversion"⟩
    else .ok (codePoints (toString value))

namespace RandomSource

variable {G : Type}

/-- A seed that depends on nothing but its parts, which are written, joined, and encoded. -/
def stableSeed (source : RandomSource G) (parts : List SeedPart) : Except ValueError Nat := do
  let texts ← parts.mapM SeedPart.written
  -- A lone surrogate cannot be encoded as UTF-8.
  match CodePoints.toString? (List.intercalate [0x1f] texts) with
  | some payload => return source.digest payload
  | none => throw ⟨"surrogates not allowed"⟩

/-- The seed of an event's own draws. -/
def eventSeed (source : RandomSource G) (event : NewsShockEvent) : Except ValueError Nat :=
  source.stableSeed [.number event.seed, .text event.eventId, .text (codePoints "event")]

/-- The rank of a candidate among those who may react. -/
def activationKey (source : RandomSource G) (event : NewsShockEvent)
    (candidate : ReactionCandidate) : Except ValueError Nat :=
  source.stableSeed [.number event.seed, .text event.eventId, .text (codePoints "activation"),
    .text (codePoints candidate.userId), .number candidate.seed]

/-- The seed of a candidate's own draws. -/
def reactionSeed (source : RandomSource G) (event : NewsShockEvent)
    (candidate : ReactionCandidate) : Except ValueError Nat :=
  source.stableSeed [.number event.seed, .text event.eventId, .text (codePoints "reaction"),
    .text (codePoints candidate.userId), .number candidate.seed]

/-- Draw a number of values, one after the other. -/
def draws {α : Type} (draw : G → α × G) : Nat → G → List α × G
  | 0, random => ([], random)
  | count + 1, random =>
    let (value, random) := draw random
    let (values, random) := draws draw count random
    (value :: values, random)

/-- The chance that an order buys; a panic without a direction takes one at random. -/
def buyProbability (source : RandomSource G) (event : NewsShockEvent) (preset : ReactionPreset)
    (random : G) : Int :=
  match event.directionHint with
  | .buy => preset.directionalBuyProbabilityBps
  | .sell => basisPoints - preset.directionalBuyProbabilityBps
  | .mixed => basisPoints / 2
  | .none =>
    -- A panic picks one direction for all of its orders.
    if event.preset = .marketPanic then
      if (source.chooseFirst random).1 then preset.directionalBuyProbabilityBps
      else basisPoints - preset.directionalBuyProbabilityBps
    else preset.defaultBuyProbabilityBps

/-- The orders of one candidate, when it reacts. -/
def resolveCandidate (source : RandomSource G) (tickIntervalMs : Int) (event : NewsShockEvent)
    (preset : ReactionPreset) (candidate : ReactionCandidate) (activated : Bool)
    (buyProbabilityBps eventStartTick : Int) : Except ValueError ResolvedReactionPlan := do
  let ownInterval ← ticksForInterval candidate.intervalSeconds tickIntervalMs
  -- A candidate that does not react gets a plan without orders.
  if ¬ activated then
    ResolvedReactionPlan.create candidate.userId candidate.symbol false none ownInterval
      buyProbabilityBps [] [] [] []
  else
    let random := source.ofSeed (← source.reactionSeed event candidate)
    -- The draws come in the order of the source, each from the state of the one before.
    let (reactionAfterMs, random) :=
      source.randint random preset.reactionDelayMsMin preset.reactionDelayMsMax
    let (orderCount, random) := source.randint random preset.orderCountMin preset.orderCountMax
    let (drawnInterval, random) :=
      source.randint random preset.orderIntervalTicksMin preset.orderIntervalTicksMax
    -- A trader never acts more often than its own interval allows.
    let orderIntervalTicks := max ownInterval drawnInterval
    let firstOrderTick := eventStartTick + ceilDiv reactionAfterMs tickIntervalMs
    let count := orderCount.toNat
    let (chances, random) := draws (fun random => source.randrange random basisPoints) count random
    let sides := chances.map fun chance =>
      if chance < buyProbabilityBps then OrderSide.buy else OrderSide.sell
    let (quantities, _) := draws
      (fun random => source.randint random candidate.quantityMin candidate.quantityMax) count random
    ResolvedReactionPlan.create candidate.userId candidate.symbol true (some reactionAfterMs)
      orderIntervalTicks buyProbabilityBps sides quantities
      (List.replicate count candidate.orderTtlSeconds)
      ((List.range count).map fun (index : Nat) => firstOrderTick + index * orderIntervalTicks)

/-- The reactions of all candidates that trade the symbol of an event. -/
def resolve (source : RandomSource G) (tickIntervalMs : Int) (event : NewsShockEvent)
    (candidates : List ReactionCandidate) : Except ValueError ResolvedEventPlan := do
  if ¬ (candidates.map ReactionCandidate.userId).Nodup then
    throw ⟨"reaction candidate user_ids must be unique"⟩
  let eligible := (candidates.filter fun candidate => candidate.symbol = event.symbol).insertionSort
    fun first second => first.userId ≤ second.userId
  let preset := event.preset.definition
  -- The event's own draws are the ratio and perhaps the direction.
  let random := source.ofSeed (← source.eventSeed event)
  let (activationRatioBps, random) :=
    source.randint random preset.activationRatioBpsMin preset.activationRatioBpsMax
  let activatedCount := activationCount eligible.length activationRatioBps
  -- The keys of all are made before any two are compared.
  let keyed ← eligible.mapM fun candidate =>
    return (← source.activationKey event candidate, candidate)
  let ranked := (keyed.insertionSort fun first second => first.1 ≤ second.1).map Prod.snd
  let activatedIds := (ranked.take activatedCount.toNat).map ReactionCandidate.userId
  -- The direction of a panic is drawn after the ratio.
  let buyProbabilityBps := source.buyProbability event preset random
  let eventStartTick := ceilDiv event.startsAfterMs tickIntervalMs
  let reactions ← eligible.mapM fun candidate =>
    source.resolveCandidate tickIntervalMs event preset candidate
      (candidate.userId ∈ activatedIds) buyProbabilityBps eventStartTick
  ResolvedEventPlan.create event presetVersion tickIntervalMs activationRatioBps
    preset.maxSchedulerLagMs reactions

end RandomSource

/-- A planner remembers the events that it has resolved. -/
structure ReactionPlanner where
  tickIntervalMs : Int
  processedEvents : Dict CodePoints NewsShockEvent
  tickIntervalMs_pos : 1 ≤ tickIntervalMs

/-- Resolve an event the first time; the same event again gives nothing, another one is refused. -/
def ReactionPlanner.planOnce {G : Type} (planner : ReactionPlanner) (source : RandomSource G)
    (event : NewsShockEvent) (candidates : List ReactionCandidate) :
    ReactionPlanner × Except ValueError (Option ResolvedEventPlan) :=
  match planner.processedEvents.get? event.eventId with
  | some previous =>
    if previous ≠ event then
      (planner, .error ⟨"event_id was already used with a different payload"⟩)
    else (planner, .ok none)
  | none =>
    match source.resolve planner.tickIntervalMs event candidates with
    | .error error => (planner, .error error)
    -- Only an event with a plan is remembered.
    | .ok plan =>
      ({ planner with processedEvents := planner.processedEvents.set event.eventId event },
        .ok (some plan))

end StockMarket
