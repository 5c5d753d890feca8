import StockMarket.Library.Json
import StockMarket.Participants.Types

/-! News events, the presets of how traders react to them, and the plans of their reactions. -/

namespace StockMarket

/-- The basis points of a whole. -/
def basisPoints : Int := 10000

/-- The version of the presets. -/
def presetVersion : String := "1"

/-- How large an event is. -/
inductive EventPreset where
  | minorNews
  | breakingNews
  | marketPanic
  | mixedReaction
  | rumor
  deriving DecidableEq

/-- Which way an event moves its symbol. -/
inductive DirectionHint where
  | buy
  | sell
  | mixed
  | none
  deriving DecidableEq

/-- The directions by their names. -/
def directionHints : List (String × DirectionHint) :=
  [("BUY", .buy), ("SELL", .sell), ("MIXED", .mixed), ("NONE", .none)]

/--
A news event whose fields have passed the checks made on construction.

The id may come from the escapes of a scenario, and so may have halves of surrogate pairs.
-/
structure NewsShockEvent where
  eventId : CodePoints
  symbol : String
  startsAfterMs : Int
  preset : EventPreset
  directionHint : DirectionHint
  label : String
  source : String
  seed : Int
  eventId_present : eventId.isBlank = false
  symbol_present : isBlank symbol = false
  source_present : isBlank source = false
  startsAfterMs_nonneg : 0 ≤ startsAfterMs

/-- What an event says: its texts, and everything else. -/
def NewsShockEvent.fields (event : NewsShockEvent) :
    (CodePoints × String × String × String) × Int × EventPreset × DirectionHint × Int :=
  ((event.eventId, event.symbol, event.label, event.source), event.startsAfterMs, event.preset,
    event.directionHint, event.seed)

/-- Events that say the same are the same. -/
theorem NewsShockEvent.fields_injective : Function.Injective NewsShockEvent.fields := by
  intro first second same
  cases first
  cases second
  simp only [fields, Prod.mk.injEq] at same
  obtain ⟨⟨rfl, rfl, rfl, rfl⟩, rfl, rfl, rfl, rfl⟩ := same
  rfl

/-- Events are compared by what they say. -/
instance : DecidableEq NewsShockEvent := NewsShockEvent.fields_injective.decidableEq

/-- Construct an event, or name the first check that fails. -/
def NewsShockEvent.create (eventId : CodePoints) (symbol : String) (startsAfterMs : Int)
    (preset : EventPreset) (directionHint : DirectionHint) (label source : String) (seed : Int) :
    Except ValueError NewsShockEvent :=
  if named : eventId.isBlank = false ∧ isBlank symbol = false then
    if sourced : isBlank source = false then
      if starts : 0 ≤ startsAfterMs then
        .ok ⟨eventId, symbol, startsAfterMs, preset, directionHint, label, source, seed, named.1,
          named.2, sourced, starts⟩
      else .error ⟨"starts_after_ms must not be negative"⟩
    else .error ⟨"source must not be blank"⟩
  else .error ⟨"event_id and symbol must not be blank"⟩

/-- What a planner knows of a trader that may react. -/
structure ReactionCandidate where
  userId : String
  symbol : String
  quantityMin : Int
  quantityMax : Int
  orderTtlSeconds : Int
  intervalSeconds : Int
  seed : Int
  userId_present : isBlank userId = false
  symbol_present : isBlank symbol = false
  quantityMin_pos : 1 ≤ quantityMin
  quantity_range : quantityMin ≤ quantityMax
  orderTtlSeconds_pos : 1 ≤ orderTtlSeconds
  intervalSeconds_pos : 1 ≤ intervalSeconds

/-- The numbers that a preset stands for. -/
structure ReactionPreset where
  activationRatioBpsMin : Int
  activationRatioBpsMax : Int
  reactionDelayMsMin : Int
  reactionDelayMsMax : Int
  orderCountMin : Int
  orderCountMax : Int
  orderIntervalTicksMin : Int
  orderIntervalTicksMax : Int
  defaultBuyProbabilityBps : Int
  directionalBuyProbabilityBps : Int
  maxSchedulerLagMs : Int

/-- The checks on a preset. -/
structure ReactionPreset.Valid (preset : ReactionPreset) : Prop where
  activationRatio : 0 ≤ preset.activationRatioBpsMin ∧
    preset.activationRatioBpsMin ≤ preset.activationRatioBpsMax ∧
    preset.activationRatioBpsMax ≤ basisPoints
  reactionDelay : 0 ≤ preset.reactionDelayMsMin ∧
    preset.reactionDelayMsMin ≤ preset.reactionDelayMsMax
  orderCount : 1 ≤ preset.orderCountMin ∧ preset.orderCountMin ≤ preset.orderCountMax
  orderInterval : 1 ≤ preset.orderIntervalTicksMin ∧
    preset.orderIntervalTicksMin ≤ preset.orderIntervalTicksMax
  defaultBuyProbability : 0 ≤ preset.defaultBuyProbabilityBps ∧
    preset.defaultBuyProbabilityBps ≤ basisPoints
  directionalBuyProbability : basisPoints / 2 ≤ preset.directionalBuyProbabilityBps ∧
    preset.directionalBuyProbabilityBps ≤ basisPoints
  maxSchedulerLag : 1 ≤ preset.maxSchedulerLagMs

/-- The definitions of the presets. -/
def EventPreset.definition : EventPreset → ReactionPreset
  | .minorNews => ⟨1000, 3000, 10000, 60000, 1, 2, 2, 5, 5000, 7000, 5000⟩
  | .breakingNews => ⟨4000, 8000, 0, 20000, 1, 4, 1, 3, 5000, 8000, 2000⟩
  | .marketPanic => ⟨7000, 10000, 0, 3000, 2, 6, 1, 2, 5000, 9000, 1000⟩
  | .mixedReaction => ⟨4000, 8000, 0, 20000, 1, 4, 1, 3, 5000, 5000, 2000⟩
  | .rumor => ⟨1500, 5000, 10000, 120000, 1, 3, 2, 6, 5000, 6500, 5000⟩

/-- Every preset passes its own checks. -/
theorem EventPreset.definition_valid (preset : EventPreset) : preset.definition.Valid := by
  cases preset <;> exact ⟨by decide, by decide, by decide, by decide, by decide, by decide,
    by decide⟩

/-- The reaction of one trader: its orders, by side, quantity, lifetime, and tick. -/
structure ResolvedReactionPlan where
  userId : String
  symbol : String
  activated : Bool
  reactionAfterMs : Option Int
  orderIntervalTicks : Int
  buyProbabilityBps : Int
  sides : List OrderSide
  quantities : List Int
  ttlSeconds : List Int
  orderTickOffsets : List Int
  userId_present : isBlank userId = false
  symbol_present : isBlank symbol = false
  orderIntervalTicks_pos : 1 ≤ orderIntervalTicks
  buyProbability_bps : 0 ≤ buyProbabilityBps ∧ buyProbabilityBps ≤ basisPoints
  lengths : quantities.length = sides.length ∧ ttlSeconds.length = sides.length ∧
    orderTickOffsets.length = sides.length
  activated_orders : activated = true ↔ sides ≠ []
  activated_time : activated = true ↔ reactionAfterMs.isSome = true
  reactionAfterMs_nonneg : ∀ after ∈ reactionAfterMs, 0 ≤ after
  quantities_pos : ∀ quantity ∈ quantities, 1 ≤ quantity
  ttlSeconds_pos : ∀ ttl ∈ ttlSeconds, 1 ≤ ttl
  orderTickOffsets_nonneg : ∀ tick ∈ orderTickOffsets, 0 ≤ tick
  orderTickOffsets_ordered : orderTickOffsets.Pairwise (· ≤ ·)

/-- How many orders a plan has. -/
def ResolvedReactionPlan.orderCount (plan : ResolvedReactionPlan) : Nat := plan.sides.length

/-- Construct the plan of one trader, or name the first check that fails. -/
def ResolvedReactionPlan.create (userId symbol : String) (activated : Bool)
    (reactionAfterMs : Option Int) (orderIntervalTicks buyProbabilityBps : Int)
    (sides : List OrderSide) (quantities ttlSeconds orderTickOffsets : List Int) :
    Except ValueError ResolvedReactionPlan :=
  if named : isBlank userId = false ∧ isBlank symbol = false then
    if interval : 1 ≤ orderIntervalTicks then
      if chance : 0 ≤ buyProbabilityBps ∧ buyProbabilityBps ≤ basisPoints then
        if lengths : quantities.length = sides.length ∧ ttlSeconds.length = sides.length ∧
            orderTickOffsets.length = sides.length then
          if orders : activated = true ↔ sides ≠ [] then
            if time : activated = true ↔ reactionAfterMs.isSome = true then
              if after : ∀ after ∈ reactionAfterMs, 0 ≤ after then
                if sized : ∀ quantity ∈ quantities, 1 ≤ quantity then
                  if lived : ∀ ttl ∈ ttlSeconds, 1 ≤ ttl then
                    if ticked : ∀ tick ∈ orderTickOffsets, 0 ≤ tick then
                      if ordered : orderTickOffsets.Pairwise (· ≤ ·) then
                        .ok ⟨userId, symbol, activated, reactionAfterMs, orderIntervalTicks,
                          buyProbabilityBps, sides, quantities, ttlSeconds, orderTickOffsets,
                          named.1, named.2, interval, chance, lengths, orders, time, after, sized,
                          lived, ticked, ordered⟩
                      else .error ⟨"reaction tick offsets must be ordered"⟩
                    else .error ⟨"reaction tick offsets must be non-negative integers"⟩
                  else .error ⟨"reaction TTLs must be positive integers"⟩
                else .error ⟨"reaction quantities must be positive integers"⟩
              else .error ⟨"reaction_after_ms must not be negative"⟩
            else .error ⟨"reaction time must exist only for activated plans"⟩
          else .error ⟨"activated plans must contain at least one order"⟩
        else .error ⟨"reaction order sequences must have equal lengths"⟩
      else .error ⟨"buy_probability_bps must be between 0 and 10000"⟩
    else .error ⟨"order_interval_ticks must be positive"⟩
  else .error ⟨"user_id and symbol must not be blank"⟩

/-- The reactions of all traders to one event. -/
structure ResolvedEventPlan where
  event : NewsShockEvent
  presetVersion : String
  tickIntervalMs : Int
  activationRatioBps : Int
  maxSchedulerLagMs : Int
  reactions : List ResolvedReactionPlan
  presetVersion_present : isBlank presetVersion = false
  tickIntervalMs_pos : 1 ≤ tickIntervalMs
  activationRatio_bps : 0 ≤ activationRatioBps ∧ activationRatioBps ≤ basisPoints
  maxSchedulerLagMs_pos : 1 ≤ maxSchedulerLagMs
  userIds_unique : (reactions.map ResolvedReactionPlan.userId).Nodup
  symbols_match : ∀ reaction ∈ reactions, reaction.symbol = event.symbol

/-- Construct the plan of an event, or name the first check that fails. -/
def ResolvedEventPlan.create (event : NewsShockEvent) (presetVersion : String)
    (tickIntervalMs activationRatioBps maxSchedulerLagMs : Int)
    (reactions : List ResolvedReactionPlan) : Except ValueError ResolvedEventPlan :=
  if versioned : isBlank presetVersion = false then
    if interval : 1 ≤ tickIntervalMs then
      if ratio : 0 ≤ activationRatioBps ∧ activationRatioBps ≤ basisPoints then
        if lag : 1 ≤ maxSchedulerLagMs then
          if unique : (reactions.map ResolvedReactionPlan.userId).Nodup then
            if same : ∀ reaction ∈ reactions, reaction.symbol = event.symbol then
              .ok ⟨event, presetVersion, tickIntervalMs, activationRatioBps, maxSchedulerLagMs,
                reactions, versioned, interval, ratio, lag, unique, same⟩
            else .error ⟨"reaction plan symbol must match event symbol"⟩
          else .error ⟨"reaction plan user_ids must be unique"⟩
        else .error ⟨"max_scheduler_lag_ms must be positive"⟩
      else .error ⟨"activation_ratio_bps must be between 0 and 10000"⟩
    else .error ⟨"tick_interval_ms must be positive"⟩
  else .error ⟨"preset_version must not be blank"⟩

end StockMarket
