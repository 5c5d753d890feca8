import StockMarket.Library.Machine
import StockMarket.Participants.PlanShape

/-! Every order of a reaction plan is emitted or dropped at most once, whatever calls come in. -/

namespace StockMarket

/-- A call on a trader between one plan and the next. -/
inductive ReactionCall where
  | nextIntents (tick : Int) (snapshot : BookSnapshot)
  | dropLateOrders (elapsedMs tickIntervalMs maxSchedulerLagMs : Int)

/-- What a call has returned, and the positions of the plan that it has consumed. -/
inductive ReactionUse where
  | emitted (indexes : List Nat) (intents : List OrderIntent)
  | dropped (elapsedMs tickIntervalMs maxSchedulerLagMs : Int) (indexes : List Nat) (count : Nat)

namespace ReactionUse

/-- The intents that a call has returned. -/
def intents : ReactionUse → List OrderIntent
  | emitted _ intents => intents
  | dropped .. => []

/-- The number of orders that a call says it has dropped. -/
def droppedCount : ReactionUse → Nat
  | emitted .. => 0
  | dropped _ _ _ _ count => count

/-- The orders that a call emits. -/
def emittedIndexes : ReactionUse → List Nat
  | emitted indexes _ => indexes
  | dropped .. => []

/-- The orders that a call drops. -/
def droppedIndexes : ReactionUse → List Nat
  | emitted .. => []
  | dropped _ _ _ indexes _ => indexes

end ReactionUse

/-- An order of a plan is the one at a position: its side, its quantity, and its lifetime. -/
structure ResolvedReactionPlan.Places (plan : ResolvedReactionPlan) (index : Nat)
    (intent : OrderIntent) : Prop where
  side : plan.sides[index]? = some intent.side
  quantity : plan.quantities[index]? = some intent.quantity
  ttl : ∃ ttl, plan.ttlSeconds[index]? = some ttl ∧ intent.orderTtlSeconds = some ttl

/-- What a call emits are orders of the plan, and what it drops is later than the allowed lag. -/
def ReactionUse.Follows (plan : ResolvedReactionPlan) : ReactionUse → Prop
  | emitted indexes intents => List.Forall₂ plan.Places indexes intents
  | dropped elapsedMs tickIntervalMs maxSchedulerLagMs indexes count =>
    indexes.length = count ∧ ∀ index ∈ indexes, ∃ offset,
      plan.orderTickOffsets[index]? = some offset ∧
        maxSchedulerLagMs < elapsedMs - offset * tickIntervalMs

namespace EventReactiveTrader

/-- Make a call, and note which positions are consumed afterwards that were not before. -/
def use (trader : EventReactiveTrader) : ReactionCall → EventReactiveTrader × ReactionUse
  | .nextIntents tick snapshot =>
    let (after, intents) := trader.nextIntents tick snapshot
    (after, .emitted (after.consumed.drop trader.consumed.length) intents)
  | .dropLateOrders elapsedMs tickIntervalMs maxSchedulerLagMs =>
    let (after, count) := trader.dropLateOrders elapsedMs tickIntervalMs maxSchedulerLagMs
    (after, .dropped elapsedMs tickIntervalMs maxSchedulerLagMs
      (after.consumed.drop trader.consumed.length) count)

section Calls

variable {trader : EventReactiveTrader} {plan : ResolvedReactionPlan} {test : Int → Bool}

/-- A position that is left has a tick that passes the test. -/
theorem offset_of_left {index : Nat} (member : index ∈ trader.left plan test) :
    ∃ offset, plan.orderTickOffsets[index]? = some offset ∧ test offset = true := by
  -- The position was paired with its offset before the pairs were filtered.
  obtain ⟨⟨offset, place⟩, inside, rfl⟩ := List.mem_map.mp member
  obtain ⟨paired, passes⟩ := List.mem_filter.mp inside
  exact ⟨offset, List.mem_zipIdx_iff_getElem?.mp paired, (of_decide_eq_true passes).2⟩

/-- The intent at a position within the plan is the order that the plan has there. -/
theorem places_reactionIntent {index : Nat} (planned : index < plan.orderCount)
    (snapshot : BookSnapshot) : plan.Places index (trader.reactionIntent plan index snapshot) := by
  -- All sequences of a plan are as long as its sides, so each has something at the position.
  obtain ⟨quantities, ttls, _⟩ := plan.lengths
  have sided : index < plan.sides.length := planned
  have sized : index < plan.quantities.length := quantities ▸ sided
  have timed : index < plan.ttlSeconds.length := ttls ▸ sided
  constructor
  · simp [reactionIntent, sided]
  · simp [reactionIntent, sized]
  · exact ⟨plan.ttlSeconds[index], List.getElem?_eq_getElem timed, by simp [reactionIntent, timed]⟩

/-- What one call does to a trader that follows a plan. -/
structure Used (plan : ResolvedReactionPlan) (trader after : EventReactiveTrader)
    (use : ReactionUse) : Prop where
  plan_eq : after.plan = some plan
  consumed_eq : after.consumed = trader.consumed ++ use.emittedIndexes ++ use.droppedIndexes
  follows : use.Follows plan
  remaining_eq : after.remainingReactionOrders + use.intents.length + use.droppedCount =
    trader.remainingReactionOrders

/-- A trader that reacts emits the orders that are left for the tick. -/
theorem nextIntents_active (current : trader.plan = some plan) (active : plan.activated = true)
    (tick : Int) (snapshot : BookSnapshot) : trader.nextIntents tick snapshot =
      (trader.consume plan current fun offset => max offset 1 = tick,
        (trader.left plan fun offset => max offset 1 = tick).map fun index =>
          trader.reactionIntent plan index snapshot) := by
  -- The trader has the plan, and the plan is an active one.
  unfold nextIntents
  split
  · rename_i missing
    cases missing.symm.trans current
  · rename_i found followed
    cases followed.symm.trans current
    rw [if_neg (not_not.mpr active)]

/-- A trader that reacts drops the orders that are left and too late. -/
theorem dropLateOrders_active (current : trader.plan = some plan) (active : plan.activated = true)
    (elapsedMs tickIntervalMs lag : Int) : trader.dropLateOrders elapsedMs tickIntervalMs lag =
      (trader.consume plan current fun offset => lag < elapsedMs - offset * tickIntervalMs,
        (trader.left plan fun offset => lag < elapsedMs - offset * tickIntervalMs).length) := by
  -- The trader has the plan, and the plan is an active one.
  unfold dropLateOrders
  split
  · rename_i missing
    cases missing.symm.trans current
  · rename_i found followed
    cases followed.symm.trans current
    rw [if_neg (not_not.mpr active)]

/-- A trader that does not react does nothing. -/
theorem nextIntents_inactive (current : trader.plan = some plan) (inactive : ¬ plan.activated)
    (tick : Int) (snapshot : BookSnapshot) : trader.nextIntents tick snapshot = (trader, []) := by
  -- Whether or not there is a plan, nothing is emitted.
  unfold nextIntents
  split
  · rfl
  · rename_i found followed
    cases followed.symm.trans current
    rw [if_pos inactive]

/-- Nothing is late before the plan is activated. -/
theorem dropLateOrders_inactive (current : trader.plan = some plan)
    (inactive : ¬ plan.activated) (elapsedMs tickIntervalMs lag : Int) :
    trader.dropLateOrders elapsedMs tickIntervalMs lag = (trader, 0) := by
  -- Whether or not there is a plan, nothing is dropped.
  unfold dropLateOrders
  split
  · rfl
  · rename_i found followed
    cases followed.symm.trans current
    rw [if_pos inactive]

/-- The positions that are consumed now are those behind the ones consumed before. -/
theorem drop_consume (current : trader.plan = some plan) (test : Int → Bool) :
    (trader.consume plan current test).consumed.drop trader.consumed.length =
      trader.left plan test := List.drop_left

/-- A call consumes positions of the plan, for what it emits or for what it drops. -/
theorem use_spec (current : trader.plan = some plan) (call : ReactionCall) :
    Used plan trader (trader.use call).1 (trader.use call).2 := by
  by_cases active : plan.activated = true
  · -- What a trader that reacts consumes was left before.
    cases call with
    | nextIntents tick snapshot =>
      rw [use, nextIntents_active current active]
      simp only [drop_consume]
      refine ⟨current, ?_, ?_, ?_⟩
      · simp [ReactionUse.emittedIndexes, ReactionUse.droppedIndexes, consume]
      · show List.Forall₂ _ _ _
        rw [List.forall₂_map_right_iff, List.forall₂_same]
        intro index member
        exact places_reactionIntent (List.mem_range.mp (left_sublist.subset member)) snapshot
      · simpa [ReactionUse.intents, ReactionUse.droppedCount] using remaining_consume current active
    -- What is dropped was left, and its time has passed.
    | dropLateOrders elapsedMs tickIntervalMs lag =>
      rw [use, dropLateOrders_active current active]
      simp only [drop_consume]
      refine ⟨current, ?_, ⟨rfl, fun index member => ?_⟩, ?_⟩
      · simp [ReactionUse.emittedIndexes, ReactionUse.droppedIndexes, consume]
      · obtain ⟨offset, stored, late⟩ := offset_of_left member
        exact ⟨offset, stored, of_decide_eq_true late⟩
      · simpa [ReactionUse.intents, ReactionUse.droppedCount] using remaining_consume current active
  · -- A trader that does not react consumes nothing.
    cases call with
    | nextIntents tick snapshot =>
      rw [use, nextIntents_inactive current active]
      simp only [List.drop_length]
      exact ⟨current, by simp [ReactionUse.emittedIndexes, ReactionUse.droppedIndexes], .nil, rfl⟩
    | dropLateOrders elapsedMs tickIntervalMs lag =>
      rw [use, dropLateOrders_inactive current active]
      simp only [List.drop_length]
      exact ⟨current, by simp [ReactionUse.emittedIndexes, ReactionUse.droppedIndexes],
        ⟨rfl, fun _ member => absurd member List.not_mem_nil⟩, rfl⟩

end Calls

/-- The orders of a plan after some calls: what was emitted, what was dropped, what is left. -/
structure Accounted (plan : ResolvedReactionPlan) (uses : List ReactionUse)
    (trader : EventReactiveTrader) : Prop where
  plan_eq : trader.plan = some plan
  consumed : trader.consumed.Perm
    (uses.flatMap ReactionUse.emittedIndexes ++ uses.flatMap ReactionUse.droppedIndexes)
  follows : ∀ use ∈ uses, use.Follows plan
  total : (uses.flatMap ReactionUse.intents).length + (uses.map ReactionUse.droppedCount).sum +
    trader.remainingReactionOrders = plan.orderCount

section Runs

variable {trader applied : EventReactiveTrader} {plan : ResolvedReactionPlan}
  {uses : List ReactionUse}

/-- Nothing of a plan is consumed when it has just been applied. -/
theorem Accounted.start (took : trader.applyPlan plan = .ok applied) :
    Accounted plan [] applied := by
  obtain ⟨_, _, _, plan_eq, remaining⟩ := applyPlan_ok took
  -- A plan without a reaction has no orders either.
  have counted : applied.remainingReactionOrders = plan.orderCount := by
    rw [remaining]
    split
    · rfl
    · rename_i inactive
      have none_planned : plan.sides = [] := by
        by_contra some_planned
        exact inactive (plan.activated_orders.mpr some_planned)
      rw [ResolvedReactionPlan.orderCount, none_planned, List.length_nil]
  refine ⟨plan_eq, ?_, fun _ member => absurd member List.not_mem_nil, by simpa using counted⟩
  unfold applyPlan at took
  split_ifs at took
  cases took
  exact .nil

/-- Every call keeps the account. -/
theorem Accounted.step (accounted : Accounted plan uses trader) (call : ReactionCall) :
    Accounted plan (uses ++ [(trader.use call).2]) (trader.use call).1 := by
  have used := use_spec accounted.plan_eq call
  generalize (trader.use call).1 = after at used ⊢
  generalize (trader.use call).2 = latest at used ⊢
  refine ⟨used.plan_eq, ?_, fun use member => ?_, ?_⟩
  · -- The new positions come behind the old ones of their kind.
    rw [used.consumed_eq, List.flatMap_append, List.flatMap_append, List.flatMap_singleton,
      List.flatMap_singleton]
    have moved := (accounted.consumed.append_right latest.emittedIndexes).append_right
      latest.droppedIndexes
    refine moved.trans ?_
    simp only [List.append_assoc]
    refine List.Perm.append_left _ ?_
    rw [← List.append_assoc, ← List.append_assoc]
    exact List.perm_append_comm.append_right _
  · rcases List.mem_append.mp member with before | now
    · exact accounted.follows use before
    · rw [List.mem_singleton.mp now]
      exact used.follows
  · -- The counts of the call are added to those of the calls before.
    have total := accounted.total
    have remaining := used.remaining_eq
    simp only [List.flatMap_append, List.flatMap_singleton, List.length_append, List.map_append,
      List.map_singleton, List.sum_append, List.sum_singleton]
    omega

/-- Over every run of calls the orders of a plan stay accounted for. -/
theorem run_accounted_orders (took : trader.applyPlan plan = .ok applied)
    (calls : List ReactionCall) : Accounted plan (Machine.runTotal use applied calls).2
      (Machine.runTotal use applied calls).1 :=
  Machine.runTotal_history (Accounted plan) (fun _ _ call accounted => accounted.step call) calls []
    applied (.start took)

/-- No position is emitted or dropped twice, or both. -/
theorem Accounted.distinct (accounted : Accounted plan uses trader) :
    (uses.flatMap ReactionUse.emittedIndexes ++
      uses.flatMap ReactionUse.droppedIndexes).Nodup :=
  accounted.consumed.nodup_iff.mp trader.consumed_nodup

/-- The intents that were emitted are the orders at the emitted positions. -/
theorem Accounted.places (accounted : Accounted plan uses trader) :
    List.Forall₂ plan.Places (uses.flatMap ReactionUse.emittedIndexes)
      (uses.flatMap ReactionUse.intents) := by
  have follows := accounted.follows
  clear accounted
  -- Calls that drop orders contribute nothing to either list.
  induction uses with
  | nil => exact .nil
  | cons first later ih =>
    have rest := ih fun use member => follows use (List.mem_cons_of_mem _ member)
    have own := follows first List.mem_cons_self
    cases first with
    | emitted indexes intents => exact List.rel_append own rest
    | dropped => exact rest

/-- As many positions are dropped as the calls say. -/
theorem Accounted.dropped_length (accounted : Accounted plan uses trader) :
    (uses.flatMap ReactionUse.droppedIndexes).length =
      (uses.map ReactionUse.droppedCount).sum := by
  have follows := accounted.follows
  clear accounted
  induction uses with
  | nil => rfl
  | cons first later ih =>
    have rest := ih fun use member => follows use (List.mem_cons_of_mem _ member)
    have own := follows first List.mem_cons_self
    -- Emitted positions are not among those that are dropped.
    cases first with
    | emitted => simpa [ReactionUse.droppedIndexes, ReactionUse.droppedCount] using rest
    | dropped elapsedMs tickIntervalMs lag indexes count =>
      simp [ReactionUse.droppedIndexes, ReactionUse.droppedCount, rest, own.1]

/-- Once nothing is left, further calls return no intents and drop nothing. -/
theorem run_exhausted (current : trader.plan = some plan)
    (done : trader.remainingReactionOrders = 0) (calls : List ReactionCall) :
    ∀ other ∈ (Machine.runTotal use trader calls).2,
      other.intents = [] ∧ other.droppedCount = 0 := by
  -- What a call consumes is taken from what is left, which stays nothing.
  induction calls generalizing trader with
  | nil => exact fun _ member => absurd member List.not_mem_nil
  | cons call later ih =>
    have used := use_spec current call
    have remaining := used.remaining_eq
    rw [done] at remaining
    have silent : (trader.use call).2.intents.length = 0 ∧ (trader.use call).2.droppedCount = 0 := by
      omega
    intro other member
    rcases List.mem_cons.mp member with rfl | after
    · exact ⟨List.length_eq_zero_iff.mp silent.1, silent.2⟩
    · exact ih used.plan_eq (by omega) other after

/-- What a trader has done with a plan after some calls: every order of it at most once. -/
structure UsedOnce (plan : ResolvedReactionPlan) (uses : List ReactionUse)
    (trader : EventReactiveTrader) : Prop where
  /-- Every order has been emitted, has been dropped, or is left. -/
  total : (uses.flatMap ReactionUse.intents).length + (uses.map ReactionUse.droppedCount).sum +
    trader.remainingReactionOrders = plan.orderCount
  /-- No position is emitted or dropped twice, or both. -/
  distinct : (uses.flatMap ReactionUse.emittedIndexes ++
    uses.flatMap ReactionUse.droppedIndexes).Nodup
  /-- The emitted intents are the orders at the emitted positions. -/
  places : List.Forall₂ plan.Places (uses.flatMap ReactionUse.emittedIndexes)
    (uses.flatMap ReactionUse.intents)
  dropped : (uses.flatMap ReactionUse.droppedIndexes).length =
    (uses.map ReactionUse.droppedCount).sum
  /-- What a call drops is later than the lag that the call allows. -/
  follows : ∀ use ∈ uses, use.Follows plan
  /-- Once nothing is left, no call returns or drops anything. -/
  exhausted : trader.remainingReactionOrders = 0 → ∀ later,
    ∀ other ∈ (Machine.runTotal EventReactiveTrader.use trader later).2,
      other.intents = [] ∧ other.droppedCount = 0

/-- Whatever calls a trader gets after a plan, it uses each order of the plan at most once. -/
theorem reaction_orders_once (took : trader.applyPlan plan = .ok applied)
    (calls : List ReactionCall) :
    UsedOnce plan (Machine.runTotal use applied calls).2 (Machine.runTotal use applied calls).1 :=
  have accounted := run_accounted_orders took calls
  ⟨accounted.total, accounted.distinct, accounted.places, accounted.dropped_length,
    accounted.follows, run_exhausted accounted.plan_eq⟩

/-- Two orders for one tick are asked for twice, and then dropped, which leaves nothing to drop. -/
theorem reaction_orders_once_reactor : ∃ plan applied,
    ResolvedReactionPlan.create "reactor" "005930" true (some 0) 1 5000 [.buy, .sell] [1, 2]
      [16, 16] [0, 1] = .ok plan ∧
    (dormant reactor).applyPlan plan = .ok applied ∧
    UsedOnce plan
      (Machine.runTotal use applied [.nextIntents 1 ⟨"005930", [], []⟩,
        .nextIntents 1 ⟨"005930", [], []⟩, .dropLateOrders 9000 1000 1000]).2
      (Machine.runTotal use applied [.nextIntents 1 ⟨"005930", [], []⟩,
        .nextIntents 1 ⟨"005930", [], []⟩, .dropLateOrders 9000 1000 1000]).1 := by
  obtain ⟨plan, made⟩ : ∃ plan, ResolvedReactionPlan.create "reactor" "005930" true (some 0) 1
      5000 [.buy, .sell] [1, 2] [16, 16] [0, 1] = .ok plan := ⟨_, rfl⟩
  obtain ⟨named, traded, _⟩ := ResolvedReactionPlan.create_ok made
  -- The plan is for the trader's own user and symbol, so that it is taken over.
  obtain ⟨applied, took⟩ : ∃ applied, (dormant reactor).applyPlan plan = .ok applied :=
    applyPlan_of_same named traded
  exact ⟨plan, applied, made, took, reaction_orders_once took _⟩

end Runs

end EventReactiveTrader

end StockMarket
