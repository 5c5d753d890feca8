import StockMarket.Participants.PlanShape

/-! Which tick the orders of a plan begin at, and whether that tick is still to come. -/

namespace StockMarket

namespace RandomSource

variable {G : Type} (source : RandomSource G) (event : NewsShockEvent)

/-- The delay of a candidate's reaction, which is the first of its draws. -/
def drawnDelay (candidate : ReactionCandidate) : Int :=
  (source.randint (source.ofSeed (seedOf (source.reactionSeed event candidate)))
    event.preset.definition.reactionDelayMsMin event.preset.definition.reactionDelayMsMax).1

/-- The candidates that react to an event. -/
def reacting (candidates : List ReactionCandidate) : List ReactionCandidate :=
  (event.eligible candidates).filter fun candidate =>
    candidate.userId ∈ source.activatedIds event (event.eligible candidates)

end RandomSource

/-- Whether the tick of an event's first order is not before the tick in which it is planned. -/
def startsAhead (tickIntervalMs tick startsAfterMs delay : Int) : Bool :=
  tick ≤ 1 ∨ (tick - 1) * tickIntervalMs < startsAfterMs ∨ delay ≠ 0

section Times

variable {G : Type} {source : RandomSource G} {tickIntervalMs : Int} {event : NewsShockEvent}

/-- A reaction plan keeps the delay that it was constructed with. -/
theorem create_delay {userId symbol : String} {activated : Bool} {reactionAfterMs : Option Int}
    {orderIntervalTicks buyProbabilityBps : Int} {sides : List OrderSide}
    {quantities ttlSeconds orderTickOffsets : List Int} {plan : ResolvedReactionPlan}
    (made : ResolvedReactionPlan.create userId symbol activated reactionAfterMs orderIntervalTicks
      buyProbabilityBps sides quantities ttlSeconds orderTickOffsets = .ok plan) :
    plan.reactionAfterMs = reactionAfterMs := by
  unfold ResolvedReactionPlan.create at made
  iterate 11 obtain ⟨_, made⟩ := passed made
  cases made
  rfl

/-- A candidate that reacts has the delay that it draws. -/
theorem resolveCandidate_delay {candidate : ReactionCandidate} {buyProbabilityBps start : Int}
    {reaction : ResolvedReactionPlan}
    (made : source.resolveCandidate tickIntervalMs event event.preset.definition candidate true
      buyProbabilityBps start = .ok reaction) :
    reaction.reactionAfterMs = some (source.drawnDelay event candidate) := by
  -- The delay is the first thing that is drawn from the candidate's own seed.
  obtain ⟨interval, _, made⟩ := Outcome.bind_eq_ok made
  simp only [not_true_eq_false, if_false] at made
  obtain ⟨seed, seeded, made⟩ := Outcome.bind_eq_ok made
  rw [RandomSource.drawnDelay, seeded]
  exact create_delay made

/-- Every reaction of a resolved plan is the one of its candidate, which reacts after its delay. -/
theorem resolve_times (sound : source.Sound) (positive : 1 ≤ tickIntervalMs)
    {candidates : List ReactionCandidate}
    (unique : (candidates.map ReactionCandidate.userId).Nodup) {plan : ResolvedEventPlan}
    (resolved : source.resolve tickIntervalMs event candidates = .ok plan) :
    plan.maxSchedulerLagMs = event.preset.definition.maxSchedulerLagMs ∧
    (∀ reaction ∈ plan.reactions, reaction.activated = true →
      ∃ candidate ∈ source.reacting event candidates,
        OnSchedule tickIntervalMs event candidate reaction (source.drawnDelay event candidate)) ∧
    ∀ candidate ∈ source.reacting event candidates, ∃ reaction ∈ plan.reactions,
      reaction.activated = true ∧
        OnSchedule tickIntervalMs event candidate reaction (source.drawnDelay event candidate) := by
  have seedable := RandomSource.seedable_of_resolve resolved
  obtain ⟨other, same, _, lag, reactions⟩ := resolve_spec sound positive event unique seedable
  cases resolved.symm.trans same
  rw [RandomSource.resolve_eq _ unique seedable] at resolved
  obtain ⟨made, mapped, created⟩ := Outcome.bind_eq_ok resolved
  rw [← (ResolvedEventPlan.create_ok created).2] at mapped
  have each := Outcome.related_and reactions (Outcome.mapM_eq_ok_iff.mp mapped)
  -- A trader that reacts has the delay that was drawn for it.
  have timed : ∀ {candidate reaction}, ReactionOf tickIntervalMs event
        (candidate.userId ∈ source.activatedIds event (event.eligible candidates)) candidate
        reaction ∧
      source.reactionOf event tickIntervalMs (event.eligible candidates) candidate =
        .ok reaction →
      reaction.activated = true →
      OnSchedule tickIntervalMs event candidate reaction (source.drawnDelay event candidate) := by
    rintro candidate reaction ⟨own, made⟩ active
    have chosen := own.activated_eq.symm.trans active
    obtain ⟨delay, schedule⟩ := own.active active
    rw [RandomSource.reactionOf, chosen] at made
    have drawn := schedule.delay_eq.symm.trans (resolveCandidate_delay made)
    exact Option.some.inj drawn ▸ schedule
  -- Each reaction has a chosen candidate, and each chosen candidate a reaction.
  refine ⟨lag, fun reaction member active => ?_, fun candidate member => ?_⟩
  · obtain ⟨candidate, inside, both⟩ := Outcome.exists_left each member
    have chosen := both.1.activated_eq.symm.trans active
    exact ⟨candidate, List.mem_filter.mpr ⟨inside, chosen⟩, timed both active⟩
  · obtain ⟨inside, chosen⟩ := List.mem_filter.mp member
    obtain ⟨reaction, listed, both⟩ := Outcome.exists_right each inside
    have active := both.1.activated_eq.trans chosen
    exact ⟨reaction, listed, active, timed both active⟩

/-- The orders of a plan stand at its first tick or later, and one of them at the first tick. -/
theorem OnSchedule.offsets {candidate : ReactionCandidate} {reaction : ResolvedReactionPlan}
    {delay : Int} (schedule : OnSchedule tickIntervalMs event candidate reaction delay) :
    ceilDiv event.startsAfterMs tickIntervalMs + ceilDiv delay tickIntervalMs ∈
        reaction.orderTickOffsets ∧
      ∀ offset ∈ reaction.orderTickOffsets,
        ceilDiv event.startsAfterMs tickIntervalMs + ceilDiv delay tickIntervalMs ≤ offset := by
  have some_order := event.preset.definition_valid.orderCount.1.trans schedule.count_range.1
  rw [schedule.offsets_eq]
  constructor
  · exact List.mem_map.mpr ⟨0, List.mem_range.mpr (by omega), by simp⟩
  · intro offset member
    obtain ⟨index, _, rfl⟩ := List.mem_map.mp member
    have interval := reaction.orderIntervalTicks_pos
    -- Every later order comes a multiple of the interval after the first.
    have later := Int.mul_nonneg (Int.natCast_nonneg index)
      (show 0 ≤ reaction.orderIntervalTicks by omega)
    omega

/--
The orders that are planned in a tick lie ahead of it unless the plan begins without a delay.

The tick is the first one whose time reaches the start of the event, as its predecessor is too early.
-/
theorem OnSchedule.ahead_iff {candidate : ReactionCandidate} {reaction : ResolvedReactionPlan}
    {delay tick : Int} (schedule : OnSchedule tickIntervalMs event candidate reaction delay)
    (positive : 1 ≤ tickIntervalMs)
    (reached : tick ≤ 1 ∨ (tick - 2) * tickIntervalMs < event.startsAfterMs) :
    (∀ offset ∈ reaction.orderTickOffsets, tick ≤ max offset 1) ↔
      startsAhead tickIntervalMs tick event.startsAfterMs delay = true := by
  obtain ⟨first, least⟩ := schedule.offsets
  have nonneg : 0 ≤ delay :=
    event.preset.definition_valid.reactionDelay.1.trans schedule.delay_range.1
  have delayed := ceilDiv_nonneg positive nonneg
  have some_delay := lt_ceilDiv_iff positive 0 delay
  -- The first offset is the least one, and so it decides.
  have all_first : (∀ offset ∈ reaction.orderTickOffsets, tick ≤ max offset 1) ↔ tick ≤
      max (ceilDiv event.startsAfterMs tickIntervalMs + ceilDiv delay tickIntervalMs) 1 :=
    ⟨fun all => all _ first, fun least_ahead offset member => by
      have := least offset member
      omega⟩
  rw [all_first, startsAhead, decide_eq_true_eq]
  rw [← lt_ceilDiv_iff positive] at reached ⊢
  rw [Int.zero_mul] at some_delay
  omega

end Times

end StockMarket
