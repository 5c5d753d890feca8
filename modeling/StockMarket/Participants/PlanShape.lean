import Mathlib.Tactic.Ring
import StockMarket.Library.Outcome
import StockMarket.Library.Sorted
import StockMarket.Participants.EventReactive
import StockMarket.Participants.PlannerLaws

/-! The plan of every new event passes all checks, and its orders are on time. -/

namespace StockMarket

/-- Draws are within the ranges that they are asked for. -/
structure RandomSource.Sound {G : Type} (source : RandomSource G) : Prop where
  randint_range : ∀ random least most, least ≤ most →
    least ≤ (source.randint random least most).1 ∧ (source.randint random least most).1 ≤ most
  randrange_range : ∀ random count, 0 < count →
    0 ≤ (source.randrange random count).1 ∧ (source.randrange random count).1 < count

section Ticks

variable {value divisor : Int}

/-- Rounding up reaches the value, and overshoots it by less than one divisor. -/
theorem ceilDiv_spec (value : Int) (positive : 1 ≤ divisor) : value ≤ ceilDiv value divisor * divisor ∧
    ceilDiv value divisor * divisor < value + divisor := by
  -- The quotient of the value raised by one divisor less one is the one rounded up.
  have below := Int.ediv_mul_le (value + divisor - 1) (by omega : divisor ≠ 0)
  have above := Int.lt_ediv_add_one_mul_self (value + divisor - 1) (by omega : 0 < divisor)
  rw [Int.add_mul, Int.one_mul] at above
  unfold ceilDiv
  constructor <;> omega

/-- Rounding up keeps what is not negative. -/
theorem ceilDiv_nonneg (positive : 1 ≤ divisor) (start : 0 ≤ value) : 0 ≤ ceilDiv value divisor :=
  Int.ediv_nonneg (by omega) (by omega)

/-- A number of divisors stays below a value exactly when it is less than the rounded quotient. -/
theorem lt_ceilDiv_iff (positive : 1 ≤ divisor) (count value : Int) :
    count < ceilDiv value divisor ↔ count * divisor < value := by
  -- The quotient covers the value, and one divisor less does not.
  obtain ⟨covers, close⟩ := ceilDiv_spec value positive
  constructor
  · intro less
    have reached : (count + 1) * divisor ≤ ceilDiv value divisor * divisor :=
      Int.mul_le_mul_of_nonneg_right (by omega) (by omega)
    rw [Int.add_mul] at reached
    omega
  · exact fun below => Int.lt_of_mul_lt_mul_right (below.trans_le covers) (by omega)

/-- An interval in ticks covers the interval in seconds. -/
theorem ticksForInterval_spec {intervalSeconds tickIntervalMs : Int} (seconds : 1 ≤ intervalSeconds)
    (positive : 1 ≤ tickIntervalMs) : ∃ ticks,
      ticksForInterval intervalSeconds tickIntervalMs = .ok ticks ∧ 1 ≤ ticks ∧
        intervalSeconds * 1000 ≤ ticks * tickIntervalMs := by
  have covers := (ceilDiv_spec (intervalSeconds * 1000) positive).1
  -- Even a short interval takes a whole tick.
  have more : ceilDiv (intervalSeconds * 1000) tickIntervalMs ≤
      max 1 (ceilDiv (intervalSeconds * 1000) tickIntervalMs) := le_max_right _ _
  refine ⟨max 1 (ceilDiv (intervalSeconds * 1000) tickIntervalMs), ?_, le_max_left _ _, ?_⟩
  · rw [ticksForInterval, if_neg (by omega), if_neg (by omega)]
    rfl
  · exact covers.trans (Int.mul_le_mul_of_nonneg_right more (by omega))

end Ticks

namespace RandomSource

variable {G : Type}

/-- As many values are drawn as asked for. -/
@[simp] theorem length_draws {α : Type} (draw : G → α × G) (count : Nat) (random : G) :
    (draws draw count random).1.length = count := by
  induction count generalizing random with
  | zero => rfl
  | succ count ih => simp [draws, ih]

/-- What holds of every draw holds of all values that are drawn. -/
theorem draws_forall {α : Type} {draw : G → α × G} {holds : α → Prop}
    (each : ∀ random, holds (draw random).1) (count : Nat) (random : G) :
    ∀ value ∈ (draws draw count random).1, holds value := by
  -- The induction is on how many draws are left, with the generator that they begin with.
  induction count generalizing random with
  | zero => exact fun value member => absurd member List.not_mem_nil
  | succ count ih =>
    intro value member
    rcases List.mem_cons.mp member with rfl | later
    · exact each random
    · exact ih _ value later

end RandomSource

/-- The reaction of a trader that reacts, after some delay. -/
structure OnSchedule (tickIntervalMs : Int) (event : NewsShockEvent) (candidate : ReactionCandidate)
    (reaction : ResolvedReactionPlan) (delay : Int) : Prop where
  delay_eq : reaction.reactionAfterMs = some delay
  delay_range : event.preset.definition.reactionDelayMsMin ≤ delay ∧
    delay ≤ event.preset.definition.reactionDelayMsMax
  count_range : event.preset.definition.orderCountMin ≤ reaction.orderCount ∧
    reaction.orderCount ≤ event.preset.definition.orderCountMax
  offsets_eq : reaction.orderTickOffsets = (List.range reaction.orderCount).map
    fun (index : Nat) => ceilDiv event.startsAfterMs tickIntervalMs + ceilDiv delay tickIntervalMs +
      index * reaction.orderIntervalTicks
  interval_covers : candidate.intervalSeconds * 1000 ≤ reaction.orderIntervalTicks * tickIntervalMs
  quantity_range : ∀ quantity ∈ reaction.quantities,
    candidate.quantityMin ≤ quantity ∧ quantity ≤ candidate.quantityMax

/-- The reaction of a candidate: its own, and on schedule when it reacts. -/
structure ReactionOf (tickIntervalMs : Int) (event : NewsShockEvent) (activated : Bool)
    (candidate : ReactionCandidate) (reaction : ResolvedReactionPlan) : Prop where
  userId_eq : reaction.userId = candidate.userId
  symbol_eq : reaction.symbol = candidate.symbol
  activated_eq : reaction.activated = activated
  active : reaction.activated = true →
    ∃ delay, OnSchedule tickIntervalMs event candidate reaction delay

section Candidates

variable {G : Type} {source : RandomSource G} {tickIntervalMs : Int} {event : NewsShockEvent}

/-- The chance to buy is a number of basis points. -/
theorem buyProbability_range (source : RandomSource G) (event : NewsShockEvent)
    {preset : ReactionPreset} (valid : preset.Valid) (random : G) :
    0 ≤ source.buyProbability event preset random ∧
      source.buyProbability event preset random ≤ basisPoints := by
  -- The chances of the preset are within the range, whichever way the hint goes.
  obtain ⟨less, more⟩ := valid.directionalBuyProbability
  have range := valid.defaultBuyProbability
  unfold RandomSource.buyProbability
  simp only [basisPoints] at *
  split
  · omega
  · omega
  · omega
  · split_ifs <;> omega

/-- A candidate that does not react has a plan without orders. -/
theorem resolveCandidate_dormant (source : RandomSource G) (positive : 1 ≤ tickIntervalMs)
    (event : NewsShockEvent) (preset : ReactionPreset) (candidate : ReactionCandidate)
    {chance : Int} (chance_range : 0 ≤ chance ∧ chance ≤ basisPoints) (start : Int) :
    ∃ reaction, source.resolveCandidate tickIntervalMs event preset candidate false chance start =
      .ok reaction ∧ ReactionOf tickIntervalMs event false candidate reaction := by
  obtain ⟨ticks, counted, least, _⟩ :=
    ticksForInterval_spec candidate.intervalSeconds_pos positive
  have made : ∃ reaction, ResolvedReactionPlan.create candidate.userId candidate.symbol false none
      ticks chance [] [] [] [] = .ok reaction ∧ reaction.userId = candidate.userId ∧
        reaction.symbol = candidate.symbol ∧ reaction.activated = false := by
    -- Without orders, all the checks on orders hold.
    unfold ResolvedReactionPlan.create
    rw [dif_pos ⟨candidate.userId_present, candidate.symbol_present⟩, dif_pos least,
      dif_pos chance_range, dif_pos (by simp), dif_pos (by simp), dif_pos (by simp),
      dif_pos (by simp), dif_pos (by simp), dif_pos (by simp), dif_pos (by simp),
      dif_pos List.Pairwise.nil]
    exact ⟨_, rfl, rfl, rfl, rfl⟩
  obtain ⟨reaction, made, same, traded, dormant⟩ := made
  refine ⟨reaction, ?_, same, traded, dormant, fun active => ?_⟩
  · simp only [RandomSource.resolveCandidate, counted, Bind.bind, Except.bind]
    exact made
  · rw [dormant] at active
    exact absurd active Bool.false_ne_true

/-- The plan that is made of draws within their ranges passes its checks, and is on schedule. -/
theorem create_active (positive : 1 ≤ tickIntervalMs) (event : NewsShockEvent)
    (candidate : ReactionCandidate) {ticks delay orderCount drawnInterval chance : Int}
    (least : 1 ≤ ticks) (covers : candidate.intervalSeconds * 1000 ≤ ticks * tickIntervalMs)
    (delay_range : event.preset.definition.reactionDelayMsMin ≤ delay ∧
      delay ≤ event.preset.definition.reactionDelayMsMax)
    (count_range : event.preset.definition.orderCountMin ≤ orderCount ∧
      orderCount ≤ event.preset.definition.orderCountMax)
    (chance_range : 0 ≤ chance ∧ chance ≤ basisPoints) {sides : List OrderSide}
    {quantities : List Int} (sides_length : sides.length = orderCount.toNat)
    (quantities_length : quantities.length = orderCount.toNat)
    (sized : ∀ quantity ∈ quantities,
      candidate.quantityMin ≤ quantity ∧ quantity ≤ candidate.quantityMax) :
    ∃ reaction, ResolvedReactionPlan.create candidate.userId candidate.symbol true (some delay)
        (max ticks drawnInterval) chance sides quantities
        (List.replicate orderCount.toNat candidate.orderTtlSeconds)
        ((List.range orderCount.toNat).map fun (index : Nat) =>
          ceilDiv event.startsAfterMs tickIntervalMs + ceilDiv delay tickIntervalMs +
            index * max ticks drawnInterval) = .ok reaction ∧
      ReactionOf tickIntervalMs event true candidate reaction := by
  have valid := event.preset.definition_valid
  have delay_nonneg : 0 ≤ delay := valid.reactionDelay.1.trans delay_range.1
  -- A preset asks for one order at least.
  have some_order : orderCount.toNat ≠ 0 := by
    have := valid.orderCount.1
    omega
  have present : sides ≠ [] := by
    intro empty
    rw [empty] at sides_length
    exact some_order sides_length.symm
  -- No tick is before the start of the simulation.
  have first_nonneg : 0 ≤ ceilDiv event.startsAfterMs tickIntervalMs +
      ceilDiv delay tickIntervalMs :=
    Int.add_nonneg (ceilDiv_nonneg positive event.startsAfterMs_nonneg)
      (ceilDiv_nonneg positive delay_nonneg)
  generalize starts : ceilDiv event.startsAfterMs tickIntervalMs + ceilDiv delay tickIntervalMs =
    first at first_nonneg
  have longer : ticks ≤ max ticks drawnInterval := le_max_left _ _
  generalize max ticks drawnInterval = interval at longer
  have ticked : ∀ tick ∈ (List.range orderCount.toNat).map fun (index : Nat) =>
      first + index * interval, 0 ≤ tick := by
    intro tick member
    obtain ⟨index, _, rfl⟩ := List.mem_map.mp member
    exact Int.add_nonneg first_nonneg (Int.mul_nonneg (Int.natCast_nonneg index) (by omega))
  -- One order comes after the other, an interval or more apart.
  have ordered : ((List.range orderCount.toNat).map fun (index : Nat) =>
      first + index * interval).Pairwise (· ≤ ·) := by
    rw [List.pairwise_map]
    refine List.pairwise_lt_range.imp fun {before after} less => ?_
    have spaced : (before : Int) * interval ≤ after * interval :=
      Int.mul_le_mul_of_nonneg_right (by omega) (by omega)
    omega
  have lived : ∀ ttl ∈ List.replicate orderCount.toNat candidate.orderTtlSeconds, 1 ≤ ttl := by
    intro ttl member
    rw [List.eq_of_mem_replicate member]
    exact candidate.orderTtlSeconds_pos
  -- All checks are passed, one after the other.
  unfold ResolvedReactionPlan.create
  rw [dif_pos ⟨candidate.userId_present, candidate.symbol_present⟩, dif_pos (least.trans longer),
    dif_pos chance_range, dif_pos (by simp [sides_length, quantities_length]),
    dif_pos (by simp [present]), dif_pos (by simp), dif_pos (by simpa using delay_nonneg),
    dif_pos fun quantity member => candidate.quantityMin_pos.trans (sized quantity member).1,
    dif_pos lived, dif_pos ticked, dif_pos ordered]
  refine ⟨_, rfl, rfl, rfl, rfl, fun _ => ⟨delay, rfl, delay_range, ?_, ?_, ?_, sized⟩⟩
  · -- The plan has as many orders as were drawn.
    have counted : ((sides.length : Nat) : Int) = orderCount := by
      have := valid.orderCount.1
      omega
    exact counted.symm ▸ count_range
  · rw [starts]
    exact congrArg (fun length => (List.range length).map fun (index : Nat) =>
      first + index * interval) sides_length.symm
  · exact covers.trans (Int.mul_le_mul_of_nonneg_right longer (by omega))

/-- A candidate that reacts has a plan on schedule. -/
theorem resolveCandidate_active (sound : source.Sound) (positive : 1 ≤ tickIntervalMs)
    (event : NewsShockEvent) (candidate : ReactionCandidate) {seed : Nat}
    (seeded : source.reactionSeed event candidate = .ok seed) {chance : Int}
    (chance_range : 0 ≤ chance ∧ chance ≤ basisPoints) :
    ∃ reaction, source.resolveCandidate tickIntervalMs event event.preset.definition candidate true
        chance (ceilDiv event.startsAfterMs tickIntervalMs) = .ok reaction ∧
      ReactionOf tickIntervalMs event true candidate reaction := by
  have valid := event.preset.definition_valid
  -- The interval in seconds is some number of ticks.
  obtain ⟨ticks, counted, least, covers⟩ :=
    ticksForInterval_spec candidate.intervalSeconds_pos positive
  simp only [RandomSource.resolveCandidate, counted, seeded, Bind.bind, Except.bind,
    not_true_eq_false, if_false]
  -- The draws are made in the order delay, count, interval, sides, quantities.
  exact create_active positive event candidate least covers
    (sound.randint_range _ _ _ valid.reactionDelay.2) (sound.randint_range _ _ _ valid.orderCount.2)
    chance_range (by rw [List.length_map, RandomSource.length_draws])
    (RandomSource.length_draws _ _ _)
    (RandomSource.draws_forall
      (fun random => sound.randint_range random _ _ candidate.quantity_range) _ _)

end Candidates

/-- The candidates that trade the symbol of an event, in the order of their ids. -/
def NewsShockEvent.eligible (event : NewsShockEvent) (candidates : List ReactionCandidate) :
    List ReactionCandidate :=
  (candidates.filter fun candidate => candidate.symbol = event.symbol).insertionSort
    fun first second => first.userId ≤ second.userId

/-- The candidates of the symbol are eligible. -/
theorem mem_eligible {event : NewsShockEvent} {candidates : List ReactionCandidate}
    {candidate : ReactionCandidate} : candidate ∈ event.eligible candidates ↔
      candidate ∈ candidates ∧ candidate.symbol = event.symbol := by
  rw [NewsShockEvent.eligible, (List.perm_insertionSort _ _).mem_iff, List.mem_filter,
    decide_eq_true_eq]

namespace RandomSource

variable {G : Type} (source : RandomSource G) (event : NewsShockEvent)

/-- The seed that is made; nothing is drawn where none is. -/
def seedOf (made : Except ValueError Nat) : Nat := made.toOption.getD 0

/-- The first draw of an event decides how many of its candidates react. -/
def activationRatio : Int × G :=
  source.randint (source.ofSeed (seedOf (source.eventSeed event)))
    event.preset.definition.activationRatioBpsMin event.preset.definition.activationRatioBpsMax

/-- The candidates that react are those with the lowest ranks. -/
def activatedIds (eligible : List ReactionCandidate) : List String :=
  ((eligible.insertionSort fun first second =>
    seedOf (source.activationKey event first) ≤ seedOf (source.activationKey event second)).take
      (activationCount eligible.length (source.activationRatio event).1).toNat).map
        ReactionCandidate.userId

/-- The reaction of one eligible candidate. -/
def reactionOf (tickIntervalMs : Int) (eligible : List ReactionCandidate)
    (candidate : ReactionCandidate) : Except ValueError ResolvedReactionPlan :=
  source.resolveCandidate tickIntervalMs event event.preset.definition candidate
    (candidate.userId ∈ source.activatedIds event eligible)
    (source.buyProbability event event.preset.definition (source.activationRatio event).2)
    (ceilDiv event.startsAfterMs tickIntervalMs)

variable {source event} {candidates : List ReactionCandidate}

/-- A seed that can be made is the one that is drawn with. -/
theorem seedOf_eq {made : Except ValueError Nat} (succeeds : ∃ seed, made = .ok seed) :
    made = .ok (seedOf made) := by
  obtain ⟨seed, rfl⟩ := succeeds
  rfl

/-- The seed of an event is made of its number and its id. -/
theorem eventSeed_ok_iff : (∃ seed, source.eventSeed event = .ok seed) ↔
    isUnwritable event.seed = false ∧ event.eventId.isEncodable = true := by
  rw [eventSeed, stableSeed_ok_iff]
  simp [SeedPart.isWritable, CodePoints.isEncodable_codePoints]

/-- The key of a candidate takes its own number as well. -/
theorem activationKey_ok_iff {candidate : ReactionCandidate} :
    (∃ seed, source.activationKey event candidate = .ok seed) ↔
      isUnwritable event.seed = false ∧ event.eventId.isEncodable = true ∧
        isUnwritable candidate.seed = false := by
  rw [activationKey, stableSeed_ok_iff]
  simp [SeedPart.isWritable, CodePoints.isEncodable_codePoints]

/-- The seed of a candidate's draws takes the same numbers as its key. -/
theorem reactionSeed_ok_iff {candidate : ReactionCandidate} :
    (∃ seed, source.reactionSeed event candidate = .ok seed) ↔
      isUnwritable event.seed = false ∧ event.eventId.isEncodable = true ∧
        isUnwritable candidate.seed = false := by
  rw [reactionSeed, stableSeed_ok_iff]
  simp [SeedPart.isWritable, CodePoints.isEncodable_codePoints]

/-- An event is resolved only when its seeds can be made. -/
theorem seedable_of_resolve {tickIntervalMs : Int} {plan : ResolvedEventPlan}
    (resolved : source.resolve tickIntervalMs event candidates = .ok plan) :
    event.Seedable candidates := by
  unfold RandomSource.resolve at resolved
  split_ifs at resolved
  · obtain ⟨seed, seeded, resolved⟩ := Outcome.bind_eq_ok resolved
    obtain ⟨keyed, mapped, _⟩ := Outcome.bind_eq_ok resolved
    obtain ⟨short, whole⟩ := eventSeed_ok_iff.mp ⟨seed, seeded⟩
    refine ⟨whole, short, fun candidate inside traded => ?_⟩
    -- The key of every candidate of the symbol was made.
    obtain ⟨_, _, made⟩ := Outcome.exists_right (Outcome.mapM_eq_ok_iff.mp mapped)
      (mem_eligible.mpr ⟨inside, traded⟩)
    obtain ⟨key, ranked, _⟩ := Outcome.bind_eq_ok made
    exact (activationKey_ok_iff.mp ⟨key, ranked⟩).2.2
  · obtain ⟨_, thrown, _⟩ := Outcome.bind_eq_ok resolved
    cases thrown

/-- Candidates with distinct users are resolved one by one, when their seeds can be made. -/
theorem resolve_eq (tickIntervalMs : Int)
    (unique : (candidates.map ReactionCandidate.userId).Nodup)
    (seedable : event.Seedable candidates) :
    source.resolve tickIntervalMs event candidates =
      ((event.eligible candidates).mapM
        (source.reactionOf event tickIntervalMs (event.eligible candidates)) >>=
          ResolvedEventPlan.create event presetVersion tickIntervalMs
            (source.activationRatio event).1 event.preset.definition.maxSchedulerLagMs) := by
  have seeded := seedOf_eq (source.eventSeed_ok_iff.mpr
    ⟨seedable.seed_writable, seedable.eventId_encodable⟩)
  -- The keys are made for all candidates, and sorting by them ranks the candidates.
  have keyed : ((event.eligible candidates).mapM fun candidate =>
      return (← source.activationKey event candidate, candidate)) =
        .ok ((event.eligible candidates).map fun candidate =>
          (seedOf (source.activationKey event candidate), candidate)) := by
    refine Outcome.mapM_eq_map fun candidate member => ?_
    obtain ⟨inside, traded⟩ := mem_eligible.mp member
    exact Outcome.bind_ok (seedOf_eq (activationKey_ok_iff.mpr ⟨seedable.seed_writable,
      seedable.eventId_encodable, seedable.seeds_writable candidate inside traded⟩))
  -- Sorting pairs by their keys is sorting the candidates by theirs.
  have ranked : (((event.eligible candidates).map fun candidate =>
      (seedOf (source.activationKey event candidate), candidate)).insertionSort
        fun first second => first.1 ≤ second.1).map Prod.snd =
      (event.eligible candidates).insertionSort fun first second =>
        seedOf (source.activationKey event first) ≤ seedOf (source.activationKey event second) := by
    rw [← List.map_insertionSort (fun first second : ReactionCandidate =>
      seedOf (source.activationKey event first) ≤ seedOf (source.activationKey event second))
      (fun first second : Nat × ReactionCandidate => first.1 ≤ second.1) _ _
      fun _ _ _ _ => Iff.rfl, List.map_map]
    exact List.map_id _
  unfold RandomSource.resolve
  rw [if_neg (not_not.mpr unique)]
  refine (Outcome.bind_ok seeded).trans ((Outcome.bind_ok keyed).trans ?_)
  rw [ranked]
  rfl

/-- Candidates that share a user are refused. -/
theorem resolve_duplicates {candidates : List ReactionCandidate} (tickIntervalMs : Int)
    (shared : ¬ (candidates.map ReactionCandidate.userId).Nodup) :
    source.resolve tickIntervalMs event candidates =
      .error ⟨"reaction candidate user_ids must be unique"⟩ := by
  unfold RandomSource.resolve
  rw [if_pos shared]
  rfl

end RandomSource

section Counting

/-- The number of candidates that react is the ratio of them rounded half up, within bounds. -/
theorem activationCount_spec (count : Nat) {ratio : Int} (least : 1 ≤ ratio) : ∃ rounded : Int,
      basisPoints * (2 * rounded - 1) ≤ 2 * (count * ratio) ∧
      2 * (count * ratio) < basisPoints * (2 * rounded + 1) ∧
      activationCount count ratio =
        if count = 0 then 0 else max 1 (min (count : Int) rounded) := by
  refine ⟨(count * ratio + basisPoints / 2) / basisPoints, ?_, ?_, ?_⟩
  · -- The number rounded half up is between the two bounds.
    simp only [basisPoints]
    omega
  · simp only [basisPoints]
    omega
  · unfold activationCount
    -- At least one candidate reacts when there is any.
    by_cases empty : count = 0
    · rw [if_pos empty, if_pos (.inl (by omega))]
    · rw [if_neg empty, if_neg (by omega)]
      omega

/-- As many plans react as candidates were chosen to. -/
theorem countP_activated {chosen : ReactionCandidate → Bool} {candidates : List ReactionCandidate}
    {reactions : List ResolvedReactionPlan}
    (made : List.Forall₂ (fun candidate reaction => reaction.activated = chosen candidate)
      candidates reactions) :
    reactions.countP ResolvedReactionPlan.activated = (candidates.filter chosen).length := by
  -- The induction follows the candidates and their reactions.
  induction made with
  | nil => rfl
  | @cons candidate reaction candidates reactions own _ ih =>
    rw [List.countP_cons, List.filter_cons, own, ih]
    cases chosen candidate with
    | true => rfl
    | false => rfl

end Counting

/-- The traders that react to an event. -/
def ResolvedEventPlan.activatedTraderCount (plan : ResolvedEventPlan) : Nat :=
  plan.reactions.countP ResolvedReactionPlan.activated

section Resolved

variable {G : Type} {source : RandomSource G} {tickIntervalMs : Int} {event : NewsShockEvent}
  {candidates : List ReactionCandidate}

/-- The eligible candidates are those of the symbol, and have distinct users if all have. -/
theorem eligible_perm (event : NewsShockEvent) (candidates : List ReactionCandidate) :
    (event.eligible candidates).Perm
      (candidates.filter fun candidate => candidate.symbol = event.symbol) :=
  List.perm_insertionSort _ _

/-- Among candidates with users of their own, those who may react have users of their own. -/
theorem eligible_unique (event : NewsShockEvent)
    (unique : (candidates.map ReactionCandidate.userId).Nodup) :
    ((event.eligible candidates).map ReactionCandidate.userId).Nodup := by
  rw [((eligible_perm event candidates).map _).nodup_iff]
  exact unique.sublist (List.filter_sublist.map _)

/-- A mapped reaction belongs to each eligible candidate, and those that were chosen react. -/
theorem reactions_spec (sound : source.Sound) (positive : 1 ≤ tickIntervalMs)
    (event : NewsShockEvent) (eligible : List ReactionCandidate)
    (seeded : ∀ candidate ∈ eligible, ∃ seed, source.reactionSeed event candidate = .ok seed) :
    ∃ reactions, eligible.mapM (source.reactionOf event tickIntervalMs eligible) = .ok reactions ∧
      List.Forall₂ (fun candidate => ReactionOf tickIntervalMs event
        (candidate.userId ∈ source.activatedIds event eligible) candidate) eligible reactions := by
  apply Outcome.mapM_related
  intro candidate member
  -- The chance to buy is drawn once for all candidates.
  have chance := buyProbability_range source event event.preset.definition_valid
    (source.activationRatio event).2
  unfold RandomSource.reactionOf
  -- The candidate was chosen to react, or stays dormant.
  by_cases chosen : candidate.userId ∈ source.activatedIds event eligible
  · rw [decide_eq_true chosen]
    obtain ⟨seed, seeded⟩ := seeded candidate member
    exact resolveCandidate_active sound positive event candidate seeded chance
  · rw [decide_eq_false chosen]
    exact resolveCandidate_dormant source positive event _ candidate chance _

/-- As many candidates are chosen as the ratio asks for. -/
theorem chosen_length (source : RandomSource G) (event : NewsShockEvent)
    {eligible : List ReactionCandidate}
    (unique : (eligible.map ReactionCandidate.userId).Nodup) :
    (eligible.filter fun candidate =>
      candidate.userId ∈ source.activatedIds event eligible).length =
        min (activationCount eligible.length (source.activationRatio event).1).toNat
          eligible.length := by
  unfold RandomSource.activatedIds
  generalize ranked : (eligible.insertionSort fun first second =>
    RandomSource.seedOf (source.activationKey event first) ≤
      RandomSource.seedOf (source.activationKey event second)) = order
  -- Ranking changes the order of the candidates and nothing else.
  have perm : order.Perm eligible := ranked ▸ List.perm_insertionSort _ _
  have distinct : (order.map ReactionCandidate.userId).Nodup := by
    rw [(perm.map _).nodup_iff]
    exact unique
  rw [(perm.symm.filter _).length_eq, filter_mem_take distinct, List.length_take, perm.length_eq]

/-- The reactions resolved for an event pass the checks on its plan. -/
theorem create_plan (sound : source.Sound) (positive : 1 ≤ tickIntervalMs)
    (unique : (candidates.map ReactionCandidate.userId).Nodup)
    {reactions : List ResolvedReactionPlan} {chosen : ReactionCandidate → Bool}
    (made : List.Forall₂ (fun candidate => ReactionOf tickIntervalMs event (chosen candidate)
      candidate) (event.eligible candidates) reactions) :
    ∃ plan, ResolvedEventPlan.create event presetVersion tickIntervalMs
        (source.activationRatio event).1 event.preset.definition.maxSchedulerLagMs reactions =
          .ok plan ∧ plan.event = event ∧ plan.tickIntervalMs = tickIntervalMs ∧
      plan.activationRatioBps = (source.activationRatio event).1 ∧ plan.reactions = reactions ∧
      plan.maxSchedulerLagMs = event.preset.definition.maxSchedulerLagMs := by
  have valid := event.preset.definition_valid
  have ratio := sound.randint_range (source.ofSeed (RandomSource.seedOf (source.eventSeed event))) _ _
    valid.activationRatio.2.1
  -- The reactions have the users of the candidates, in the same order.
  have users : (event.eligible candidates).map ReactionCandidate.userId =
      reactions.map ResolvedReactionPlan.userId := by
    rw [← List.forall₂_eq_eq_eq, List.forall₂_map_left_iff, List.forall₂_map_right_iff]
    exact made.imp fun _ _ own => own.userId_eq.symm
  have traded : ∀ reaction ∈ reactions, reaction.symbol = event.symbol := by
    intro reaction member
    obtain ⟨candidate, inside, own⟩ := Outcome.exists_left made member
    have kept := (eligible_perm event candidates).subset inside
    exact own.symbol_eq.trans (of_decide_eq_true (List.mem_filter.mp kept).2)
  -- All checks of the plan are passed.
  unfold ResolvedEventPlan.create
  rw [dif_pos (by decide), dif_pos positive, dif_pos ⟨valid.activationRatio.1.trans ratio.1,
    ratio.2.trans valid.activationRatio.2.2⟩, dif_pos valid.maxSchedulerLag,
    dif_pos (users ▸ eligible_unique event unique), dif_pos traded]
  exact ⟨_, rfl, rfl, rfl, rfl, rfl, rfl⟩

/-- A reaction of a candidate, with its times in milliseconds. -/
structure ReactsInTime (tickIntervalMs : Int) (event : NewsShockEvent)
    (candidate : ReactionCandidate) (reaction : ResolvedReactionPlan) (delay : Int) : Prop where
  delay_eq : reaction.reactionAfterMs = some delay
  delay_range : event.preset.definition.reactionDelayMsMin ≤ delay ∧
    delay ≤ event.preset.definition.reactionDelayMsMax
  count_range : event.preset.definition.orderCountMin ≤ reaction.orderCount ∧
    reaction.orderCount ≤ event.preset.definition.orderCountMax
  first : ∃ tick, reaction.orderTickOffsets.head? = some tick ∧
    event.startsAfterMs + delay ≤ tick * tickIntervalMs ∧
    tick * tickIntervalMs < event.startsAfterMs + delay + 2 * tickIntervalMs
  spaced : ∀ index before after, reaction.orderTickOffsets[index]? = some before →
    reaction.orderTickOffsets[index + 1]? = some after →
      after - before = reaction.orderIntervalTicks
  interval_covers : candidate.intervalSeconds * 1000 ≤ reaction.orderIntervalTicks * tickIntervalMs
  quantity_range : ∀ quantity ∈ reaction.quantities,
    candidate.quantityMin ≤ quantity ∧ quantity ≤ candidate.quantityMax

/-- An order schedule has its first order in time, and the others at even distances. -/
theorem OnSchedule.inTime {candidate : ReactionCandidate} {reaction : ResolvedReactionPlan}
    {delay : Int} (positive : 1 ≤ tickIntervalMs)
    (schedule : OnSchedule tickIntervalMs event candidate reaction delay) :
    ReactsInTime tickIntervalMs event candidate reaction delay := by
  -- There is a first order.
  have some_order : 1 ≤ reaction.orderCount := by
    have := event.preset.definition_valid.orderCount.1
    have := schedule.count_range.1
    omega
  refine ⟨schedule.delay_eq, schedule.delay_range, schedule.count_range, ?_, ?_,
    schedule.interval_covers, schedule.quantity_range⟩
  · -- Both roundings overshoot by less than a tick each.
    have start := ceilDiv_spec event.startsAfterMs positive
    have later := ceilDiv_spec delay positive
    refine ⟨ceilDiv event.startsAfterMs tickIntervalMs + ceilDiv delay tickIntervalMs, ?_, ?_, ?_⟩
    · rw [schedule.offsets_eq, List.head?_map, List.head?_range, if_neg (by omega)]
      simp
    · rw [Int.add_mul]
      omega
    · rw [Int.add_mul]
      omega
  · -- Two orders in a row differ by one interval.
    intro index before after first second
    rw [schedule.offsets_eq, List.getElem?_map, Option.map_eq_some_iff] at first second
    obtain ⟨place, at_place, rfl⟩ := first
    obtain ⟨next, at_next, rfl⟩ := second
    obtain ⟨_, rfl⟩ := List.getElem?_eq_some_iff.mp at_place
    obtain ⟨_, rfl⟩ := List.getElem?_eq_some_iff.mp at_next
    simp only [List.getElem_range]
    push_cast
    ring

/--
The plan of an event.

There is one reaction for each candidate of the symbol, and as many traders react as the ratio of
them rounded half up, within bounds.
-/
structure PlanOf (tickIntervalMs : Int) (event : NewsShockEvent)
    (candidates : List ReactionCandidate) (plan : ResolvedEventPlan) : Prop where
  event_eq : plan.event = event
  tickIntervalMs_eq : plan.tickIntervalMs = tickIntervalMs
  ratio_range : event.preset.definition.activationRatioBpsMin ≤ plan.activationRatioBps ∧
    plan.activationRatioBps ≤ event.preset.definition.activationRatioBpsMax
  reactions : ∃ eligible,
    eligible.Perm (candidates.filter fun candidate => candidate.symbol = event.symbol) ∧
    List.Forall₂ (fun candidate reaction => reaction.userId = candidate.userId ∧
      reaction.symbol = candidate.symbol ∧ (reaction.activated = true →
        ∃ delay, ReactsInTime tickIntervalMs event candidate reaction delay))
      eligible plan.reactions
  activated : ∃ rounded : Int,
    basisPoints * (2 * rounded - 1) ≤ 2 * (plan.reactions.length * plan.activationRatioBps) ∧
    2 * (plan.reactions.length * plan.activationRatioBps) < basisPoints * (2 * rounded + 1) ∧
    (plan.activatedTraderCount : Int) = if plan.reactions.length = 0 then 0
      else max 1 (min (plan.reactions.length : Int) rounded)

/-- Every event is resolved for candidates with distinct users. -/
theorem resolve_spec (sound : source.Sound) (positive : 1 ≤ tickIntervalMs) (event : NewsShockEvent)
    (unique : (candidates.map ReactionCandidate.userId).Nodup)
    (seedable : event.Seedable candidates) :
    ∃ plan, source.resolve tickIntervalMs event candidates = .ok plan ∧
      PlanOf tickIntervalMs event candidates plan ∧
      plan.maxSchedulerLagMs = event.preset.definition.maxSchedulerLagMs ∧
      List.Forall₂ (fun candidate => ReactionOf tickIntervalMs event
        (candidate.userId ∈ source.activatedIds event (event.eligible candidates)) candidate)
        (event.eligible candidates) plan.reactions := by
  -- The reactions are made first, and the plan is then created from them.
  have valid := event.preset.definition_valid
  obtain ⟨reactions, mapped, made⟩ := reactions_spec sound positive event
    (event.eligible candidates) fun candidate member =>
      have ⟨inside, traded⟩ := mem_eligible.mp member
      RandomSource.reactionSeed_ok_iff.mpr ⟨seedable.seed_writable, seedable.eventId_encodable,
        seedable.seeds_writable candidate inside traded⟩
  obtain ⟨plan, created, about, timed, drawn, rfl, lag⟩ := create_plan sound positive unique made
  have ratio_range :=
    sound.randint_range (source.ofSeed (RandomSource.seedOf (source.eventSeed event))) _ _
      valid.activationRatio.2.1
  refine ⟨plan, ?_, ⟨about, timed, ?_, ?_, ?_⟩, lag, made⟩
  · -- The reactions are mapped without an error, and pass the checks on the plan.
    rw [RandomSource.resolve_eq _ unique seedable, mapped]
    exact created
  · rw [drawn]
    -- The ratio is drawn within the bounds of the preset.
    exact ratio_range
  · refine ⟨_, eligible_perm event candidates, made.imp fun candidate reaction own => ?_⟩
    refine ⟨own.userId_eq, own.symbol_eq, fun active => ?_⟩
    obtain ⟨delay, schedule⟩ := own.active active
    exact ⟨delay, schedule.inTime positive⟩
  · -- Those who react were chosen, and the number of those chosen is the count for the ratio.
    have least : 1 ≤ (source.activationRatio event).1 := by
      -- The ratio of every preset is positive.
      have positive_ratio : 1 ≤ event.preset.definition.activationRatioBpsMin := by
        cases event.preset <;> decide
      exact positive_ratio.trans ratio_range.1
    obtain ⟨rounded, less, more, counted⟩ :=
      activationCount_spec plan.reactions.length least
    refine ⟨rounded, drawn ▸ less, drawn ▸ more, ?_⟩
    rw [ResolvedEventPlan.activatedTraderCount,
      countP_activated (made.imp fun _ _ own => own.activated_eq),
      chosen_length source event (eligible_unique event unique), made.length_eq, counted]
    split_ifs with empty
    · rw [empty]
      rfl
    · omega

/--
An event that is new to the planner, and whose seeds can be made, is resolved without an error, for
every candidates with distinct users and every draws within their ranges, and its plan is as its
preset asks for.
-/
theorem plan_wellFormed (sound : source.Sound) (planner : ReactionPlanner) (event : NewsShockEvent)
    (candidates : List ReactionCandidate)
    (unique : (candidates.map ReactionCandidate.userId).Nodup)
    (seedable : event.Seedable candidates)
    (fresh : planner.processedEvents.get? event.eventId = none) :
    ∃ plan, (planner.planOnce source event candidates).2 = .ok (some plan) ∧
      PlanOf planner.tickIntervalMs event candidates plan := by
  obtain ⟨plan, resolved, shape, _, _⟩ :=
    resolve_spec sound planner.tickIntervalMs_pos event unique seedable
  refine ⟨plan, ?_, shape⟩
  -- The event was not planned before, and so it is resolved now.
  rw [ReactionPlanner.planOnce, fresh]
  simp only [resolved]

/-- Without seeds nothing is planned, whatever is drawn. -/
theorem planOnce_unseedable (planner : ReactionPlanner)
    (unseedable : ¬ event.Seedable candidates) (plan : ResolvedEventPlan) :
    (planner.planOnce source event candidates).2 ≠ .ok (some plan) := by
  -- A plan that is resolved has made all its seeds.
  intro planned
  have outcome := planOnce_planned source planner event candidates
  rw [planned] at outcome
  generalize (planner.planOnce source event candidates).1 = next at outcome
  cases outcome with
  | resolved fresh made => exact unseedable (RandomSource.seedable_of_resolve made)

end Resolved

/-- The source that always draws the least. -/
def RandomSource.least : RandomSource Unit :=
  ⟨fun _ => 0, fun _ => (), fun _ low _ => (low, ()), fun _ _ => (0, ()), fun _ => (true, ())⟩

/-- The symbol of the reactor is not blank. -/
theorem reactorSymbol_present : isBlank "005930" = false := by decide

/-- A trader that reacts to news about one symbol. -/
def reactor : TraderSettings where
  userId := "reactor"
  symbol := "005930"
  strategy := .eventReactive
  referencePrice := 100
  priceStep := 1
  maxOffsetSteps := 0
  quantityMin := 1
  quantityMax := 1
  orderTtlSeconds := 16
  intervalSeconds := 1
  seed := 1
  userId_present := by decide
  symbol_present := reactorSymbol_present
  referencePrice_pos := by decide
  priceStep_pos := by decide
  maxOffsetSteps_nonneg := by decide
  quantityMin_pos := by decide
  quantity_range := by decide
  orderTtlSeconds_pos := by decide
  intervalSeconds_pos := by decide

/-- The name of the rival is not blank. -/
theorem rival_present : isBlank "rival" = false := by decide

/-- A second trader of the same symbol. -/
def rival : ReactionCandidate :=
  { (EventReactiveTrader.dormant reactor).reactionCandidate with
    userId := "rival", userId_present := rival_present }

/-- Neither name nor symbol of the bystander is blank. -/
theorem bystander_present : isBlank "bystander" = false ∧ isBlank "000660" = false := by decide

/-- A trader of another symbol. -/
def bystander : ReactionCandidate :=
  { rival with
    userId := "bystander"
    symbol := "000660"
    userId_present := bystander_present.1
    symbol_present := bystander_present.2 }

/-- The source of the fixture is not blank. -/
theorem fixtureSource_present : isBlank "fixture" = false := by decide

/-- A panic about that symbol. -/
def panicNews (eventId : CodePoints) (startsAfterMs : Nat) (present : eventId.isBlank = false) :
    NewsShockEvent :=
  ⟨eventId, reactor.symbol, startsAfterMs, .marketPanic, .buy, "", "fixture", 1, present,
    reactorSymbol_present, fixtureSource_present, Int.natCast_nonneg startsAfterMs⟩

/-- Drawing the least value is sound. -/
theorem least_sound : RandomSource.least.Sound :=
  ⟨fun _ least _ ordered => ⟨le_refl least, ordered⟩, fun _ _ positive => ⟨le_refl 0, positive⟩⟩

/-- The id of the first event. -/
def firstId : CodePoints := codePoints "first"

/-- The id of the first news is not blank. -/
theorem firstNews_present : firstId.isBlank = false := by decide

/-- A panic of a sound id is resolved for traders whose numbers are short. -/
theorem panicNews_seedable {eventId : CodePoints} {startsAfterMs : Nat}
    {present : eventId.isBlank = false} {candidates : List ReactionCandidate}
    (encodable : eventId.isEncodable = true)
    (short : ∀ candidate ∈ candidates, isUnwritable candidate.seed = false) :
    (panicNews eventId startsAfterMs present).Seedable candidates :=
  ⟨encodable, show isUnwritable 1 = false from writable_of_small (by decide),
    fun candidate inside _ => short candidate inside⟩

/-- A panic is resolved for the only trader of its symbol. -/
theorem plan_wellFormed_panic : ∃ plan,
    ((⟨1000, .empty, by decide⟩ : ReactionPlanner).planOnce .least
      (panicNews firstId 500 firstNews_present)
      [(EventReactiveTrader.dormant reactor).reactionCandidate]).2 = .ok (some plan) ∧
    PlanOf 1000 (panicNews firstId 500 firstNews_present)
      [(EventReactiveTrader.dormant reactor).reactionCandidate] plan :=
  plan_wellFormed least_sound ⟨1000, .empty, by decide⟩
    (panicNews firstId 500 firstNews_present)
    [(EventReactiveTrader.dormant reactor).reactionCandidate] (by decide)
    (panicNews_seedable (CodePoints.isEncodable_codePoints "first") (by decide)) rfl

/-- Half a surrogate pair is not blank. -/
theorem halfPair_present : CodePoints.isBlank [0xD800] = false := by decide

/-- A number with one digit too many is not written. -/
theorem unwritable_power : isUnwritable (10 ^ maxIntegerDigits) = true := by
  generalize digits : maxIntegerDigits = count
  rw [← Bool.not_eq_false, isUnwritable_eq_false_iff, digits, Int.natAbs_pow]
  exact Nat.lt_irrefl _

/--
A valid event has no plan when its id has half of a surrogate pair, or when its number or the one
of a candidate has too many digits.
-/
theorem unseedable_unplanned :
    (∀ plan, ((⟨1000, .empty, by decide⟩ : ReactionPlanner).planOnce .least
      (panicNews [0xD800] 500 halfPair_present) []).2 ≠ .ok (some plan)) ∧
    (∀ plan, ((⟨1000, .empty, by decide⟩ : ReactionPlanner).planOnce .least
      { panicNews firstId 500 firstNews_present with seed := 10 ^ maxIntegerDigits } []).2 ≠
        .ok (some plan)) ∧
    ∀ plan, ((⟨1000, .empty, by decide⟩ : ReactionPlanner).planOnce .least
      (panicNews firstId 500 firstNews_present)
      [{ rival with seed := 10 ^ maxIntegerDigits }]).2 ≠ .ok (some plan) := by
  -- The first identifier cannot be encoded, and the other two seeds have too many digits.
  refine ⟨planOnce_unseedable _ fun seedable => ?_, planOnce_unseedable _ fun seedable => ?_,
    planOnce_unseedable _ fun seedable => ?_⟩
  · exact absurd seedable.eventId_encodable (by decide)
  · exact Bool.false_ne_true (seedable.seed_writable.symm.trans unwritable_power)
  · exact Bool.false_ne_true
      ((seedable.seeds_writable _ List.mem_cons_self rfl).symm.trans unwritable_power)

end StockMarket
