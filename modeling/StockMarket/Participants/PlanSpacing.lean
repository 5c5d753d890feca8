import StockMarket.Participants.PlanTimes
import StockMarket.Participants.PoolIndependence
import StockMarket.Participants.ReactionOrders

/-! When the orders of a reaction keep the interval that their plan puts between them. -/

namespace StockMarket

namespace RandomSource

variable {G : Type} (source : RandomSource G) (event : NewsShockEvent)

/-- The number of orders of a candidate's reaction, which is the second of its draws. -/
def drawnCount (candidate : ReactionCandidate) : Int :=
  (source.randint (source.randint (source.ofSeed (seedOf (source.reactionSeed event candidate)))
    event.preset.definition.reactionDelayMsMin event.preset.definition.reactionDelayMsMax).2
    event.preset.definition.orderCountMin event.preset.definition.orderCountMax).1

/-- A candidate does not react, or reacts later than at once, or with a single order. -/
def startsSpaced (eligible : List ReactionCandidate) (candidate : ReactionCandidate) : Bool :=
  candidate.userId ∉ source.activatedIds event eligible ∨ 0 < event.startsAfterMs ∨
    0 < source.drawnDelay event candidate ∨ source.drawnCount event candidate ≤ 1

end RandomSource

namespace EventReactiveTrader

/-- One poll of a trader, with its tick. -/
def poll (trader : EventReactiveTrader) (polled : Int × BookSnapshot) :
    EventReactiveTrader × (Int × List OrderIntent) :=
  let (after, intents) := trader.nextIntents polled.1 polled.2
  (after, (polled.1, intents))

end EventReactiveTrader

/-- The tick of every intent that was emitted, poll by poll. -/
def emissionTicks (outputs : List (Int × List OrderIntent)) : List Int :=
  outputs.flatMap fun (tick, intents) => intents.map fun _ => tick

/-- Two orders are emitted at least so many ticks apart, and so no poll emits more than one. -/
structure SpacedBy (interval : Int) (outputs : List (Int × List OrderIntent)) : Prop where
  apart : (emissionTicks outputs).Pairwise fun earlier later => interval ≤ later - earlier
  single : ∀ output ∈ outputs, output.2.length ≤ 1

/-- At whatever growing ticks a trader is polled, the orders of a plan keep their interval. -/
def ResolvedReactionPlan.KeepsInterval (plan : ResolvedReactionPlan) : Prop :=
  ∀ (trader applied : EventReactiveTrader) (polls : List (Int × BookSnapshot)),
    trader.applyPlan plan = .ok applied → (polls.map Prod.fst).Pairwise (· < ·) →
    (∀ polled ∈ polls, 1 ≤ polled.1) →
      SpacedBy plan.orderIntervalTicks (Machine.runTotal EventReactiveTrader.poll applied polls).2

/-- Every order of a plan stands as many intervals behind the first one as its position says. -/
def ResolvedReactionPlan.Regular (plan : ResolvedReactionPlan) (first : Int) : Prop :=
  plan.orderTickOffsets = (List.range plan.orderCount).map fun (index : Nat) =>
    first + index * plan.orderIntervalTicks

/-- The tick of an order of a regular plan. -/
theorem ResolvedReactionPlan.Regular.offset {plan : ResolvedReactionPlan} {first offset : Int}
    (regular : plan.Regular first) {index : Nat}
    (stored : plan.orderTickOffsets[index]? = some offset) :
    index < plan.orderCount ∧ offset = first + index * plan.orderIntervalTicks := by
  -- The offset is stored at its own position, as the positions are counted up from zero.
  rw [regular, List.getElem?_map, Option.map_eq_some_iff] at stored
  obtain ⟨place, found, rfl⟩ := stored
  obtain ⟨below, rfl⟩ := List.getElem?_eq_some_iff.mp found
  rw [List.length_range] at below
  exact ⟨below, by rw [List.getElem_range]⟩

/-- Every position of a regular plan has its tick. -/
theorem ResolvedReactionPlan.Regular.stored {plan : ResolvedReactionPlan} {first : Int}
    (regular : plan.Regular first) {index : Nat} (below : index < plan.orderCount) :
    plan.orderTickOffsets[index]? = some (first + index * plan.orderIntervalTicks) := by
  rw [regular, List.getElem?_map, List.getElem?_range below, Option.map_some]

section Aligned

variable {first interval : Int} {output : Int × List OrderIntent}
  {outputs : List (Int × List OrderIntent)}

/-- A poll emits at most one order, at a tick that is a number of intervals behind the first. -/
structure Aligned (first interval : Int) (output : Int × List OrderIntent) : Prop where
  single : output.2.length ≤ 1
  regular : output.2 ≠ [] → ∃ count : Nat, output.1 = first + count * interval

/-- Two different ticks at regular distances are at least one interval apart. -/
theorem regular_apart {earlier later : Int} (positive : 1 ≤ interval)
    (one : ∃ count : Nat, earlier = first + count * interval)
    (other : ∃ count : Nat, later = first + count * interval) (before : earlier < later) :
    interval ≤ later - earlier := by
  obtain ⟨count, rfl⟩ := one
  obtain ⟨more, rfl⟩ := other
  -- The later tick is more intervals behind the first one, and so at least one more.
  have larger : (count : Int) < more :=
    Int.lt_of_mul_lt_mul_right (by omega : (count : Int) * interval < more * interval) (by omega)
  have stretched : ((count : Int) + 1) * interval ≤ more * interval :=
    Int.mul_le_mul_of_nonneg_right (by omega) (by omega)
  rw [Int.add_mul, Int.one_mul] at stretched
  omega

/-- Growing ticks with single orders at regular distances keep the interval. -/
theorem spacedBy_of_aligned (positive : 1 ≤ interval)
    (growing : (outputs.map Prod.fst).Pairwise (· < ·))
    (aligned : ∀ output ∈ outputs, Aligned first interval output) : SpacedBy interval outputs := by
  refine ⟨?_, fun output member => (aligned output member).single⟩
  -- Orders of one poll would not be apart, but there is at most one of them.
  induction outputs with
  | nil => exact .nil
  | cons output later ih =>
    rw [List.map_cons, List.pairwise_cons] at growing
    have own := aligned output List.mem_cons_self
    have rest := ih growing.2 fun other member => aligned other (List.mem_cons_of_mem _ member)
    rw [emissionTicks, List.flatMap_cons, List.pairwise_append]
    refine ⟨?_, rest, fun tick here later_tick there => ?_⟩
    · -- The first poll emits nothing, or one order.
      obtain ⟨tick, intents⟩ := output
      rcases intents with _ | ⟨intent, _ | ⟨second, more⟩⟩
      · exact .nil
      · exact List.pairwise_singleton _ _
      · have many := own.single
        simp at many
    · -- Its order and one of a later poll are at growing ticks.
      obtain ⟨intent, emitted, rfl⟩ := List.mem_map.mp here
      obtain ⟨other, member, inside⟩ := List.mem_flatMap.mp there
      obtain ⟨other_intent, other_emitted, rfl⟩ := List.mem_map.mp inside
      exact regular_apart positive (own.regular (List.ne_nil_of_mem emitted))
        ((aligned other (List.mem_cons_of_mem _ member)).regular
          (List.ne_nil_of_mem other_emitted))
        (growing.1 other.1 (List.mem_map_of_mem member))

end Aligned

namespace EventReactiveTrader

variable {trader applied : EventReactiveTrader} {plan : ResolvedReactionPlan} {test : Int → Bool}

/-- The orders that are left for a test are those that are not consumed and pass it. -/
theorem mem_left_iff {index : Nat} : index ∈ trader.left plan test ↔ index ∉ trader.consumed ∧
    ∃ offset, plan.orderTickOffsets[index]? = some offset ∧ test offset = true := by
  constructor
  · exact fun member => ⟨not_consumed_of_left member, offset_of_left member⟩
  · -- A position that is not consumed is one of those that are gone through.
    rintro ⟨fresh, offset, stored, passes⟩
    refine List.mem_map.mpr ⟨(offset, index), List.mem_filter.mpr ⟨?_, ?_⟩, rfl⟩
    · exact List.mem_zipIdx_iff_getElem?.mpr stored
    · exact decide_eq_true ⟨fresh, passes⟩

/-- A poll has as many intents as orders are left for its tick. -/
theorem poll_intents (current : trader.plan = some plan) (active : plan.activated = true)
    (polled : Int × BookSnapshot) : (trader.poll polled).2.1 = polled.1 ∧
      (trader.poll polled).2.2.length =
        (trader.left plan fun offset => max offset 1 = polled.1).length := by
  -- The intents are made from the positions that are left.
  rw [poll, nextIntents_active current active]
  exact ⟨rfl, List.length_map _⟩

/-- A poll emits something when an order is left for its tick. -/
theorem emits_of_left (current : trader.plan = some plan) (active : plan.activated = true)
    (polled : Int × BookSnapshot) {index : Nat}
    (member : index ∈ trader.left plan fun offset => max offset 1 = polled.1) :
    ∃ intent, intent ∈ (trader.poll polled).2.2 := by
  rw [poll, nextIntents_active current active]
  exact ⟨_, List.mem_map_of_mem member⟩

/-- A poll keeps the plan. -/
theorem poll_plan (polled : Int × BookSnapshot) : (trader.poll polled).1.plan = trader.plan :=
  (trader.nextIntents_spec polled.1 polled.2).2.1

/-- The polls of a run are at the given ticks, and what holds of each poll of the plan holds. -/
theorem polls_spec (holds : Int × List OrderIntent → Prop) (current : trader.plan = some plan)
    (each : ∀ (state : EventReactiveTrader) (polled : Int × BookSnapshot),
      state.plan = some plan → holds (state.poll polled).2)
    (polls : List (Int × BookSnapshot)) :
    (Machine.runTotal poll trader polls).2.map Prod.fst = polls.map Prod.fst ∧
      ∀ output ∈ (Machine.runTotal poll trader polls).2, holds output := by
  induction polls generalizing trader with
  | nil => exact ⟨rfl, fun _ member => absurd member List.not_mem_nil⟩
  | cons polled later ih =>
    -- The plan is followed from poll to poll.
    obtain ⟨ticks, rest⟩ := ih ((poll_plan polled).trans current)
    refine ⟨congrArg (List.cons polled.1) ticks, fun output member => ?_⟩
    rcases List.mem_cons.mp member with rfl | after
    · exact each trader polled current
    · exact rest output after

/-- A trader that does not react keeps every interval. -/
theorem keepsInterval_of_inactive (inactive : ¬ plan.activated) : plan.KeepsInterval := by
  intro trader applied polls took growing _
  obtain ⟨_, _, _, current, _⟩ := applyPlan_ok took
  -- Without a reaction, no poll emits anything.
  obtain ⟨ticks, silent⟩ := polls_spec (fun output => output.2 = []) current
    (fun state polled current => by rw [poll, nextIntents_inactive current inactive]) polls
  have aligned : ∀ output ∈ (Machine.runTotal poll applied polls).2,
      Aligned 0 plan.orderIntervalTicks output := fun output member =>
    ⟨by simp [silent output member], fun emits => absurd (silent output member) emits⟩
  exact spacedBy_of_aligned plan.orderIntervalTicks_pos (ticks ▸ growing) aligned

/-- At most one position of a plan is left for a tick when the offsets of two never meet there. -/
theorem left_length_le_one (apart : ∀ (index other : Nat) (offset another : Int),
      plan.orderTickOffsets[index]? = some offset → plan.orderTickOffsets[other]? = some another →
        test offset = true → test another = true → index = other) :
    (trader.left plan test).length ≤ 1 := by
  have distinct : (trader.left plan test).Nodup := left_sublist.nodup List.nodup_range
  -- Two positions that are left would be different ones whose offsets pass the same test.
  rcases positions : trader.left plan test with _ | ⟨index, _ | ⟨other, more⟩⟩
  · exact Nat.zero_le 1
  · exact le_refl 1
  · obtain ⟨_, offset, stored, passes⟩ := mem_left_iff.mp
      (positions ▸ List.mem_cons_self : index ∈ trader.left plan test)
    obtain ⟨_, another, kept, meets⟩ := mem_left_iff.mp
      (positions ▸ List.mem_cons_of_mem _ List.mem_cons_self : other ∈ trader.left plan test)
    have same := apart index other offset another stored kept passes meets
    rw [positions, same] at distinct
    exact absurd List.mem_cons_self (List.nodup_cons.mp distinct).1

/-- Orders at regular ticks from the first one on are emitted at regular ticks. -/
theorem poll_aligned {first : Int} (regular : plan.Regular first)
    (spaced : 1 ≤ first ∨ plan.orderCount ≤ 1) (current : trader.plan = some plan)
    (active : plan.activated = true) (polled : Int × BookSnapshot) :
    Aligned (max first 1) plan.orderIntervalTicks (trader.poll polled).2 := by
  have positive := plan.orderIntervalTicks_pos
  obtain ⟨tick, count⟩ := poll_intents current active polled
  -- An order is emitted at its own tick, or is the only one and emitted at the first tick.
  have emitted_at : ∀ (index : Nat) (offset : Int), plan.orderTickOffsets[index]? = some offset →
      decide (max offset 1 = polled.1) = true →
        polled.1 = max first 1 + index * plan.orderIntervalTicks := by
    intro index offset stored due
    obtain ⟨below, rfl⟩ := regular.offset stored
    have behind := Int.mul_nonneg (Int.natCast_nonneg index)
      (by omega : 0 ≤ plan.orderIntervalTicks)
    rw [← of_decide_eq_true due]
    rcases spaced with later | single
    · omega
    · obtain rfl : index = 0 := by omega
      simp
  refine ⟨?_, fun emits => ?_⟩
  · -- Two orders of one poll would have the same tick, and so the same position.
    rw [count]
    refine left_length_le_one fun index other offset another stored kept passes meets => ?_
    have same := (emitted_at index offset stored passes).symm.trans
      (emitted_at other another kept meets)
    have equal : (index : Int) = other :=
      Int.eq_of_mul_eq_mul_right (by omega) (Int.add_left_cancel same)
    exact Int.natCast_inj.mp equal
  · rw [ne_eq, ← List.length_eq_zero_iff, count, List.length_eq_zero_iff] at emits
    -- What is emitted is left, and its tick is a number of intervals behind the first.
    obtain ⟨index, member⟩ := List.exists_mem_of_ne_nil _ emits
    obtain ⟨_, offset, stored, passes⟩ := mem_left_iff.mp member
    exact ⟨index, tick.trans (emitted_at index offset stored passes)⟩

/-- A trader that has just taken up a plan has consumed nothing. -/
theorem applyPlan_fresh (took : trader.applyPlan plan = .ok applied) : applied.consumed = [] :=
  List.perm_nil.mp (Accounted.start took).consumed

/-- Two orders that start at once are emitted less than an interval apart. -/
theorem collapsed (regular : plan.Regular 0) (active : plan.activated = true)
    (several : 1 < plan.orderCount) (took : trader.applyPlan plan = .ok applied) :
    ¬ plan.KeepsInterval := by
  intro keeps
  obtain ⟨_, _, _, current, _⟩ := applyPlan_ok took
  have fresh := applyPlan_fresh took
  have positive := plan.orderIntervalTicks_pos
  -- The first two orders are planned for tick zero and for one interval later.
  have one := regular.stored (show 0 < plan.orderCount by omega)
  have other := regular.stored several
  rw [Int.zero_add, Nat.cast_zero, Int.zero_mul] at one
  rw [Int.zero_add, Nat.cast_one, Int.one_mul] at other
  let empty : BookSnapshot := ⟨plan.symbol, [], []⟩
  have first_left : 0 ∈ applied.left plan fun offset => max offset 1 = (1 : Int) :=
    mem_left_iff.mpr ⟨by simp [fresh], 0, one, by simp⟩
  by_cases single : plan.orderIntervalTicks = 1
  · -- The second order is due at the first tick as well, so one poll emits both.
    have second_left : 1 ∈ applied.left plan fun offset => max offset 1 = (1 : Int) :=
      mem_left_iff.mpr ⟨by simp [fresh], _, other, by simp [single]⟩
    have spaced := keeps trader applied [(1, empty)] took (List.pairwise_singleton _ _)
      (by simp)
    have few := spaced.single (applied.poll (1, empty)).2 (List.mem_singleton_self _)
    rw [(poll_intents current active (1, empty)).2] at few
    have distinct : ([0, 1] : List Nat).Nodup := by decide
    have many := (List.subperm_of_subset distinct (List.cons_subset.mpr
      ⟨first_left, List.cons_subset.mpr ⟨second_left, List.nil_subset _⟩⟩)).length_le
    exact absurd (many.trans few) (by decide)
  · -- The second order is due one interval after tick zero, where the first one was emitted late.
    have after : (applied.poll (1, empty)).1.plan = some plan := (poll_plan _).trans current
    have second_left : 1 ∈ (applied.poll (1, empty)).1.left plan
        fun offset => max offset 1 = plan.orderIntervalTicks := by
      refine mem_left_iff.mpr ⟨?_, _, other, by simp [positive]⟩
      -- The first poll has consumed nothing but what was due at tick one.
      rw [poll, nextIntents_active current active]
      intro member
      obtain ⟨offset, stored, due⟩ := offset_of_left
        (by simpa [consume, fresh] using member :
          1 ∈ applied.left plan fun offset => max offset 1 = (1 : Int))
      rw [other] at stored
      cases stored
      have at_one := of_decide_eq_true due
      omega
    have spaced := (keeps trader applied [(1, empty), (plan.orderIntervalTicks, empty)] took
      (by simp; omega) (by simp; omega)).apart
    obtain ⟨intent, emitted⟩ := emits_of_left current active (1, empty) first_left
    obtain ⟨later, emitted_later⟩ :=
      emits_of_left after active (plan.orderIntervalTicks, empty) second_left
    -- The ticks of the two orders are one and the interval, which are closer than the interval.
    have apart := (List.pairwise_append.mp spaced).2.2 1
      (List.mem_map.mpr ⟨intent, emitted, rfl⟩) plan.orderIntervalTicks
      (List.mem_append_left _ (List.mem_map.mpr ⟨later, emitted_later, rfl⟩))
    omega

/-- The orders of a trader that reacts keep their interval unless several of them start at once. -/
theorem keepsInterval_iff {first : Int} (regular : plan.Regular first) (nonneg : 0 ≤ first)
    (active : plan.activated = true) (took : trader.applyPlan plan = .ok applied) :
    plan.KeepsInterval ↔ 0 < first ∨ plan.orderCount ≤ 1 := by
  constructor
  · intro keeps
    by_contra collapse
    -- Several orders start at once.
    obtain ⟨now, several⟩ := not_or.mp collapse
    obtain rfl : first = 0 := by omega
    exact collapsed regular active (by omega) took keeps
  · intro spaced other state polls took_other growing _
    -- The orders start later, or there is only one of them.
    obtain ⟨_, _, _, current, _⟩ := applyPlan_ok took_other
    obtain ⟨ticks, aligned⟩ := polls_spec (Aligned (max first 1) plan.orderIntervalTicks) current
      (fun state polled following => poll_aligned regular spaced following active polled) polls
    exact spacedBy_of_aligned plan.orderIntervalTicks_pos (ticks ▸ growing) aligned

end EventReactiveTrader

/-- A dormant trader with the identity of a candidate. -/
def ReactionCandidate.dormant (candidate : ReactionCandidate) : EventReactiveTrader :=
  .dormant
    { reactor with
      userId := candidate.userId
      symbol := candidate.symbol
      userId_present := candidate.userId_present
      symbol_present := candidate.symbol_present }

section Planned

variable {G : Type} {source : RandomSource G} {tickIntervalMs : Int} {event : NewsShockEvent}
  {candidates : List ReactionCandidate}

/-- A reaction plan keeps the orders that it was constructed with. -/
theorem create_sides {userId symbol : String} {activated : Bool} {reactionAfterMs : Option Int}
    {orderIntervalTicks buyProbabilityBps : Int} {sides : List OrderSide}
    {quantities ttlSeconds orderTickOffsets : List Int} {plan : ResolvedReactionPlan}
    (made : ResolvedReactionPlan.create userId symbol activated reactionAfterMs orderIntervalTicks
      buyProbabilityBps sides quantities ttlSeconds orderTickOffsets = .ok plan) :
    plan.orderCount = sides.length := by
  -- Eleven checks are passed, and none of them changes the sides.
  unfold ResolvedReactionPlan.create at made
  iterate 11 obtain ⟨_, made⟩ := passed made
  cases made
  rfl

/-- A candidate that reacts has as many orders as it draws. -/
theorem resolveCandidate_count {candidate : ReactionCandidate} {buyProbabilityBps start : Int}
    {reaction : ResolvedReactionPlan}
    (made : source.resolveCandidate tickIntervalMs event event.preset.definition candidate true
      buyProbabilityBps start = .ok reaction) :
    reaction.orderCount = (source.drawnCount event candidate).toNat := by
  obtain ⟨interval, _, made⟩ := Outcome.bind_eq_ok made
  simp only [not_true_eq_false, if_false] at made
  obtain ⟨seed, seeded, made⟩ := Outcome.bind_eq_ok made
  -- The number of orders is the second draw from the seed.
  rw [RandomSource.drawnCount, seeded, create_sides made, List.length_map,
    RandomSource.length_draws]
  rfl

/-- The reaction of a candidate keeps its interval exactly when it does not start at once. -/
theorem reactionOf_spaced (positive : 1 ≤ tickIntervalMs)
    {candidate : ReactionCandidate} {reaction : ResolvedReactionPlan}
    (own : ReactionOf tickIntervalMs event
      (candidate.userId ∈ source.activatedIds event (event.eligible candidates)) candidate reaction)
    (made : source.reactionOf event tickIntervalMs (event.eligible candidates) candidate =
      .ok reaction) :
    reaction.KeepsInterval ↔
      source.startsSpaced event (event.eligible candidates) candidate = true := by
  rw [RandomSource.startsSpaced, decide_eq_true_eq]
  by_cases chosen : candidate.userId ∈ source.activatedIds event (event.eligible candidates)
  · have active := own.activated_eq.trans (decide_eq_true chosen)
    obtain ⟨delay, schedule⟩ := own.active active
    rw [RandomSource.reactionOf, decide_eq_true chosen] at made
    -- The reaction has the delay and the number of orders that were drawn.
    have drawn := Option.some.inj (schedule.delay_eq.symm.trans (resolveCandidate_delay made))
    have counted := resolveCandidate_count made
    have nonneg : 0 ≤ delay :=
      event.preset.definition_valid.reactionDelay.1.trans schedule.delay_range.1
    have started := ceilDiv_nonneg positive event.startsAfterMs_nonneg
    have delayed := ceilDiv_nonneg positive nonneg
    -- Rounded up, a time is positive exactly when it was positive before.
    have later_start := lt_ceilDiv_iff positive 0 event.startsAfterMs
    have later_delay := lt_ceilDiv_iff positive 0 delay
    rw [Int.zero_mul] at later_start later_delay
    obtain ⟨applied, took⟩ := candidate.dormant.applyPlan_of_same own.userId_eq own.symbol_eq
    rw [EventReactiveTrader.keepsInterval_iff schedule.offsets_eq (by omega) active took]
    rw [← drawn, ← later_start, ← later_delay]
    simp only [chosen, not_true_eq_false, false_or]
    omega
  · exact iff_of_true (EventReactiveTrader.keepsInterval_of_inactive fun active =>
      chosen (of_decide_eq_true (own.activated_eq.symm.trans active))) (.inl chosen)

/--
The orders of every planned reaction keep their interval exactly when the reaction does not start at
once with several orders.
-/
theorem reaction_orders_spaced_iff (sound : source.Sound) (planner : ReactionPlanner)
    {plan : ResolvedEventPlan}
    (planned : (planner.planOnce source event candidates).2 = .ok (some plan)) :
    List.Forall₂ (fun candidate reaction => reaction.KeepsInterval ↔
        source.startsSpaced event (event.eligible candidates) candidate = true)
      (event.eligible candidates) plan.reactions := by
  have positive := planner.tickIntervalMs_pos
  -- The plan is the first one of the event, and what the event resolves to.
  have resolved : source.resolve planner.tickIntervalMs event candidates = .ok plan := by
    have outcome := planOnce_planned source planner event candidates
    rw [planned] at outcome
    generalize (planner.planOnce source event candidates).1 = next at outcome
    cases outcome with
    | resolved fresh made => exact made
  obtain ⟨unique, made⟩ := resolve_reactions resolved
  obtain ⟨other, same, _, _, reactions⟩ :=
    resolve_spec sound positive event unique (RandomSource.seedable_of_resolve resolved)
  cases resolved.symm.trans same
  exact (Outcome.related_and reactions made).imp
    fun candidate reaction both => reactionOf_spaced positive both.1 both.2

/-- The only candidate of a panic half a second ahead keeps the interval of its orders. -/
theorem reaction_orders_spaced_iff_ahead : ∃ plan,
    ((⟨1000, .empty, by decide⟩ : ReactionPlanner).planOnce .least
      (panicNews firstId 500 firstNews_present)
      [(EventReactiveTrader.dormant reactor).reactionCandidate]).2 = .ok (some plan) ∧
    List.Forall₂ (fun candidate reaction => reaction.KeepsInterval ↔
        RandomSource.least.startsSpaced (panicNews firstId 500 firstNews_present)
          ((panicNews firstId 500 firstNews_present).eligible
            [(EventReactiveTrader.dormant reactor).reactionCandidate]) candidate = true)
      ((panicNews firstId 500 firstNews_present).eligible
        [(EventReactiveTrader.dormant reactor).reactionCandidate]) plan.reactions := by
  obtain ⟨plan, planned⟩ : ∃ plan, ((⟨1000, .empty, by decide⟩ : ReactionPlanner).planOnce .least
      (panicNews firstId 500 firstNews_present)
      [(EventReactiveTrader.dormant reactor).reactionCandidate]).2 = .ok (some plan) := ⟨_, rfl⟩
  exact ⟨plan, planned, reaction_orders_spaced_iff least_sound _ planned⟩

/--
A panic that starts at once, with the least draws: the first order is planned for tick zero and the
second one for the next tick, and one poll at the first tick emits both.
-/
theorem reaction_orders_collapsed_panic : ∃ plan reaction applied,
    ((⟨1000, .empty, by decide⟩ : ReactionPlanner).planOnce .least
      (panicNews firstId 0 firstNews_present)
      [(EventReactiveTrader.dormant reactor).reactionCandidate]).2 = .ok (some plan) ∧
    plan.reactions = [reaction] ∧ reaction.orderTickOffsets = [0, 1] ∧
    (EventReactiveTrader.dormant reactor).applyPlan reaction = .ok applied ∧
    emissionTicks (Machine.runTotal EventReactiveTrader.poll applied
      [(1, ⟨"005930", [], []⟩)]).2 = [1, 1] ∧
    ¬ reaction.KeepsInterval := by
  refine ⟨_, _, _, rfl, rfl, rfl, rfl, rfl, ?_⟩
  exact @EventReactiveTrader.collapsed (.dormant reactor) _ _ rfl rfl (by decide) rfl

end Planned

end StockMarket
