import StockMarket.Library.Outcome
import StockMarket.Participants.Planner

/-! What every resolved plan is made of, and which events are resolved at all. -/

namespace StockMarket

/-- What was constructed has passed its first check. -/
theorem passed {α ε : Type} {check : Prop} [Decidable check] {rest : check → Except ε α} {error : ε}
    {value : α} (made : (if ok : check then rest ok else .error error) = .ok value) :
    ∃ ok, rest ok = .ok value := by
  split_ifs at made with ok
  exact ⟨ok, made⟩

/-- A reaction plan has the trader and the choice that it was constructed for. -/
theorem ResolvedReactionPlan.create_ok {userId symbol : String} {activated : Bool}
    {reactionAfterMs : Option Int} {orderIntervalTicks buyProbabilityBps : Int}
    {sides : List OrderSide} {quantities ttlSeconds orderTickOffsets : List Int}
    {plan : ResolvedReactionPlan}
    (made : ResolvedReactionPlan.create userId symbol activated reactionAfterMs orderIntervalTicks
      buyProbabilityBps sides quantities ttlSeconds orderTickOffsets = .ok plan) :
    plan.userId = userId ∧ plan.symbol = symbol ∧ plan.activated = activated := by
  unfold ResolvedReactionPlan.create at made
  iterate 11 obtain ⟨_, made⟩ := passed made
  cases made
  exact ⟨rfl, rfl, rfl⟩

/-- An event plan has the event and the reactions that it was constructed with. -/
theorem ResolvedEventPlan.create_ok {event : NewsShockEvent} {version : String}
    {tickIntervalMs activationRatioBps maxSchedulerLagMs : Int}
    {reactions : List ResolvedReactionPlan} {plan : ResolvedEventPlan}
    (made : ResolvedEventPlan.create event version tickIntervalMs activationRatioBps
      maxSchedulerLagMs reactions = .ok plan) :
    plan.event = event ∧ plan.reactions = reactions := by
  unfold ResolvedEventPlan.create at made
  iterate 6 obtain ⟨_, made⟩ := passed made
  cases made
  exact ⟨rfl, rfl⟩

section Seeds

/-- Whether a part of a seed can be written and encoded. -/
def SeedPart.isWritable : SeedPart → Bool
  | .text value => value.isEncodable
  | .number value => !isUnwritable value

/-- The parts that can be written are written as texts that can be encoded. -/
theorem SeedPart.isWritable_iff (part : SeedPart) :
    part.isWritable = true ↔ ∃ text, part.written = .ok text ∧ text.isEncodable = true := by
  cases part with
  | text value => exact ⟨fun whole => ⟨value, rfl, whole⟩, fun ⟨_, rfl, whole⟩ => whole⟩
  | number value =>
    rw [isWritable, Bool.not_eq_true']
    constructor
    · intro short
      exact ⟨codePoints (toString value), by rw [written, if_neg (by rw [short]; decide)],
        CodePoints.isEncodable_codePoints _⟩
    · -- A number of too many digits is not written at all.
      rintro ⟨text, wrote, _⟩
      rw [written] at wrote
      split_ifs at wrote with long
      exact Bool.not_eq_true _ ▸ long

/-- Joined texts can be encoded when all of them can. -/
theorem isEncodable_intercalate (texts : List CodePoints) :
    CodePoints.isEncodable (List.intercalate [0x1f] texts) = true ↔
      ∀ text ∈ texts, text.isEncodable = true := by
  induction texts with
  | nil => exact iff_of_true rfl fun text member => absurd member List.not_mem_nil
  | cons text texts ih =>
    cases texts with
    | nil => simp [List.intercalate]
    | cons next later =>
      -- The separator is a control character, which is always encodable.
      have joined : List.intercalate [0x1f] (text :: next :: later) =
          text ++ [0x1f] ++ List.intercalate [0x1f] (next :: later) := by
        simp [List.intercalate]
      have separator : CodePoints.isEncodable [0x1f] = true := by decide
      rw [joined, CodePoints.isEncodable, List.all_append, List.all_append, Bool.and_eq_true,
        Bool.and_eq_true, List.forall_mem_cons, ← ih]
      exact ⟨fun ⟨⟨first, _⟩, others⟩ => ⟨first, others⟩,
        fun ⟨first, others⟩ => ⟨⟨first, separator⟩, others⟩⟩

/-- A seed is made exactly of parts that can be written. -/
theorem stableSeed_ok_iff {G : Type} (source : RandomSource G) (parts : List SeedPart) :
    (∃ seed, source.stableSeed parts = .ok seed) ↔ ∀ part ∈ parts, part.isWritable = true := by
  constructor
  · rintro ⟨seed, made⟩
    obtain ⟨texts, mapped, encoded⟩ := Outcome.bind_eq_ok made
    have wrote := Outcome.mapM_eq_ok_iff.mp mapped
    -- The texts were joined and encoded, so each of them can be.
    have whole : CodePoints.isEncodable (List.intercalate [0x1f] texts) = true := by
      rw [← CodePoints.toString?_isSome]
      cases read : CodePoints.toString? (List.intercalate [0x1f] texts) with
      | some payload => rfl
      | none =>
        rw [read] at encoded
        cases encoded
    intro part member
    obtain ⟨text, inside, written⟩ := Outcome.exists_right wrote member
    exact part.isWritable_iff.mpr
      ⟨text, written, (isEncodable_intercalate texts).mp whole text inside⟩
  · -- The other way around, all texts are written and encoded, and so is what joins them.
    intro writable
    obtain ⟨texts, mapped, encodable⟩ := Outcome.mapM_related fun (part : SeedPart) member =>
      part.isWritable_iff.mp (writable part member)
    have whole : CodePoints.isEncodable (List.intercalate [0x1f] texts) = true :=
      (isEncodable_intercalate texts).mpr fun text member =>
        have ⟨_, _, fine⟩ := Outcome.exists_left encodable member
        fine
    rw [← CodePoints.toString?_isSome, Option.isSome_iff_exists] at whole
    obtain ⟨payload, read⟩ := whole
    refine ⟨source.digest payload, ?_⟩
    rw [RandomSource.stableSeed, mapped]
    simp only [Bind.bind, Except.bind, read]
    rfl

/--
Whether the seeds for an event can be made: its id can be encoded, and its own number and those of
the candidates of its symbol are not too long to be written.
-/
structure NewsShockEvent.Seedable (event : NewsShockEvent) (candidates : List ReactionCandidate) :
    Prop where
  eventId_encodable : event.eventId.isEncodable = true
  seed_writable : isUnwritable event.seed = false
  seeds_writable : ∀ candidate ∈ candidates, candidate.symbol = event.symbol →
    isUnwritable candidate.seed = false

/-- Whether an event is seedable is decided over its candidates. -/
instance (event : NewsShockEvent) (candidates : List ReactionCandidate) :
    Decidable (event.Seedable candidates) :=
  decidable_of_iff (event.eventId.isEncodable = true ∧ isUnwritable event.seed = false ∧
      ∀ candidate ∈ candidates, candidate.symbol = event.symbol →
        isUnwritable candidate.seed = false)
    ⟨fun ⟨encodable, short, others⟩ => ⟨encodable, short, others⟩,
      fun ⟨encodable, short, others⟩ => ⟨encodable, short, others⟩⟩

end Seeds

section Resolve

variable {G : Type} {source : RandomSource G} {tickIntervalMs : Int} {event : NewsShockEvent}

/-- A candidate's plan is its own, whether it reacts or not. -/
theorem resolveCandidate_ok {preset : ReactionPreset} {candidate : ReactionCandidate}
    {activated : Bool} {buyProbabilityBps eventStartTick : Int} {plan : ResolvedReactionPlan}
    (made : source.resolveCandidate tickIntervalMs event preset candidate activated
      buyProbabilityBps eventStartTick = .ok plan) :
    plan.userId = candidate.userId ∧ plan.symbol = candidate.symbol ∧
      plan.activated = activated := by
  obtain ⟨ownInterval, _, made⟩ := Outcome.bind_eq_ok made
  cases activated with
  -- A candidate that does not react has a plan as well, without orders.
  | false =>
    simp only [Bool.false_eq_true, not_false_eq_true, if_true] at made
    exact ResolvedReactionPlan.create_ok made
  | true =>
    simp only [not_true_eq_false, if_false] at made
    obtain ⟨seed, _, made⟩ := Outcome.bind_eq_ok made
    exact ResolvedReactionPlan.create_ok made

/-- A resolved plan is about its event, and its reactions belong to the candidates. -/
theorem resolve_ok {candidates : List ReactionCandidate} {plan : ResolvedEventPlan}
    (resolved : source.resolve tickIntervalMs event candidates = .ok plan) :
    plan.event = event ∧ ∀ reaction ∈ plan.reactions, ∃ candidate ∈ candidates,
      reaction.userId = candidate.userId ∧ reaction.symbol = candidate.symbol := by
  unfold RandomSource.resolve at resolved
  split_ifs at resolved
  · -- The seed of the event and the keys of the candidates come first.
    obtain ⟨seed, _, resolved⟩ := Outcome.bind_eq_ok resolved
    obtain ⟨keyed, _, resolved⟩ := Outcome.bind_eq_ok resolved
    obtain ⟨reactions, mapped, created⟩ := Outcome.bind_eq_ok resolved
    obtain ⟨about, same⟩ := ResolvedEventPlan.create_ok created
    refine ⟨about, fun reaction member => ?_⟩
    rw [same] at member
    -- Each reaction was made for one of the eligible candidates.
    obtain ⟨candidate, inside, made⟩ :=
      Outcome.exists_left (Outcome.mapM_eq_ok_iff.mp mapped) member
    obtain ⟨user, traded, _⟩ := resolveCandidate_ok made
    have eligible := (List.perm_insertionSort _ _).subset inside
    exact ⟨candidate, List.mem_of_mem_filter eligible, user, traded⟩
  · -- Candidates that share a user were refused.
    obtain ⟨_, thrown, _⟩ := Outcome.bind_eq_ok resolved
    cases thrown

end Resolve

/-- What a planner does with an event: refuse it, know it already, fail on it, or resolve it. -/
inductive PlannedOnce {G : Type} (source : RandomSource G) (planner : ReactionPlanner)
    (event : NewsShockEvent) (candidates : List ReactionCandidate) :
    ReactionPlanner → Except ValueError (Option ResolvedEventPlan) → Prop where
  | refused {previous : NewsShockEvent}
      (known : planner.processedEvents.get? event.eventId = some previous)
      (other : previous ≠ event) :
      PlannedOnce source planner event candidates planner
        (.error ⟨"event_id was already used with a different payload"⟩)
  | repeated (known : planner.processedEvents.get? event.eventId = some event) :
      PlannedOnce source planner event candidates planner (.ok none)
  | failed {error : ValueError} (fresh : planner.processedEvents.get? event.eventId = none)
      (raised : source.resolve planner.tickIntervalMs event candidates = .error error) :
      PlannedOnce source planner event candidates planner (.error error)
  | resolved {plan : ResolvedEventPlan}
      (fresh : planner.processedEvents.get? event.eventId = none)
      (made : source.resolve planner.tickIntervalMs event candidates = .ok plan) :
      PlannedOnce source planner event candidates
        { planner with processedEvents := planner.processedEvents.set event.eventId event }
        (.ok (some plan))

/-- What planning an event once does. -/
theorem planOnce_planned {G : Type} (source : RandomSource G) (planner : ReactionPlanner)
    (event : NewsShockEvent) (candidates : List ReactionCandidate) :
    PlannedOnce source planner event candidates (planner.planOnce source event candidates).1
      (planner.planOnce source event candidates).2 := by
  unfold ReactionPlanner.planOnce
  -- The planner knows the identifier, or the plan is resolved now.
  cases known : planner.processedEvents.get? event.eventId with
  | some previous =>
    by_cases same : previous = event
    · subst same
      simpa only [ne_eq, not_true_eq_false, if_false] using .repeated known
    · simpa only [ne_eq, same, not_false_eq_true, if_true] using .refused known same
  | none =>
    cases made : source.resolve planner.tickIntervalMs event candidates with
    | error error => exact .failed known made
    | ok plan => exact .resolved known made

end StockMarket
