import Mathlib.Data.List.Nodup
import Mathlib.Data.List.Perm.Subperm
import StockMarket.Participants.Events

/-! Traders that stay dormant until a plan of their reaction is applied. -/

namespace StockMarket

/-- A trader, the plan it follows, and the orders of the plan that are emitted or dropped. -/
structure EventReactiveTrader where
  settings : TraderSettings
  plan : Option ResolvedReactionPlan
  consumed : List Nat
  consumed_nodup : consumed.Nodup
  consumed_planned : ∀ index ∈ consumed, ∃ current ∈ plan, index < current.orderCount

namespace EventReactiveTrader

/-- A trader without any plan. -/
def dormant (settings : TraderSettings) : EventReactiveTrader :=
  ⟨settings, none, [], List.nodup_nil, fun _ member => absurd member List.not_mem_nil⟩

/-- The user that the trader trades for. -/
def userId (trader : EventReactiveTrader) : String := trader.settings.userId

/-- The symbol that the trader trades. -/
def symbol (trader : EventReactiveTrader) : String := trader.settings.symbol

/-- The checks on a candidate are among those on the settings. -/
def reactionCandidate (trader : EventReactiveTrader) : ReactionCandidate where
  userId := trader.settings.userId
  symbol := trader.settings.symbol
  quantityMin := trader.settings.quantityMin
  quantityMax := trader.settings.quantityMax
  orderTtlSeconds := trader.settings.orderTtlSeconds
  intervalSeconds := trader.settings.intervalSeconds
  seed := trader.settings.seed
  userId_present := trader.settings.userId_present
  symbol_present := trader.settings.symbol_present
  quantityMin_pos := trader.settings.quantityMin_pos
  quantity_range := trader.settings.quantity_range
  orderTtlSeconds_pos := trader.settings.orderTtlSeconds_pos
  intervalSeconds_pos := trader.settings.intervalSeconds_pos

/-- Take up a plan, which must be meant for this trader. -/
def applyPlan (trader : EventReactiveTrader) (plan : ResolvedReactionPlan) :
    Except ValueError EventReactiveTrader :=
  if plan.userId ≠ trader.userId then
    .error ⟨"reaction plan user_id must match the trader"⟩
  else if plan.symbol ≠ trader.symbol then
    .error ⟨"reaction plan symbol must match the trader"⟩
  else .ok ⟨trader.settings, some plan, [], List.nodup_nil,
    fun _ member => absurd member List.not_mem_nil⟩

/-- The plan that a trader is following, when it reacts at all. -/
def activePlan (trader : EventReactiveTrader) : Option ResolvedReactionPlan :=
  trader.plan.filter fun plan => plan.activated

/-- The orders of the plan that are neither emitted nor dropped; never more than are planned. -/
def remainingReactionOrders (trader : EventReactiveTrader) : Nat :=
  match trader.activePlan with
  | none => 0
  | some plan => plan.orderCount - trader.consumed.length

/-- The positions in the plan of the orders that are left and whose ticks pass a test. -/
def left (trader : EventReactiveTrader) (plan : ResolvedReactionPlan) (test : Int → Bool) :
    List Nat :=
  ((plan.orderTickOffsets.zipIdx.filter fun (offset, index) =>
    index ∉ trader.consumed ∧ test offset = true).map Prod.snd)

variable {trader : EventReactiveTrader} {plan : ResolvedReactionPlan} {test : Int → Bool}

/-- The orders that are left stand in the plan, in order. -/
theorem left_sublist : (trader.left plan test).Sublist (List.range plan.orderCount) := by
  -- The second parts of the pairs are the positions from zero on.
  have positions : plan.orderTickOffsets.zipIdx.map Prod.snd = List.range plan.orderCount := by
    rw [List.zipIdx_map_snd, plan.lengths.2.2, List.range_eq_range', ResolvedReactionPlan.orderCount]
  rw [← positions]
  exact List.filter_sublist.map Prod.snd

/-- An order that is left is not consumed. -/
theorem not_consumed_of_left {index : Nat} (member : index ∈ trader.left plan test) :
    index ∉ trader.consumed := by
  obtain ⟨order, inside, rfl⟩ := List.mem_map.mp member
  exact (of_decide_eq_true (List.mem_filter.mp inside).2).1

/-- Consume all orders of the plan that are left and whose ticks pass a test. -/
def consume (trader : EventReactiveTrader) (plan : ResolvedReactionPlan)
    (current : trader.plan = some plan) (test : Int → Bool) : EventReactiveTrader where
  settings := trader.settings
  plan := trader.plan
  consumed := trader.consumed ++ trader.left plan test
  consumed_nodup := by
    refine List.nodup_append'.mpr ⟨trader.consumed_nodup, ?_, ?_⟩
    · exact left_sublist.nodup List.nodup_range
    · exact fun index before now => not_consumed_of_left now before
  consumed_planned := by
    intro index member
    -- What was consumed before stands in the plan, and so does what is left of it.
    rcases List.mem_append.mp member with before | now
    · exact trader.consumed_planned index before
    · exact ⟨plan, current, List.mem_range.mp (left_sublist.subset now)⟩

/-- Drop the orders that are too late, and say how many they are. -/
def dropLateOrders (trader : EventReactiveTrader) (elapsedMs tickIntervalMs maxSchedulerLagMs : Int) :
    EventReactiveTrader × Nat :=
  match current : trader.plan with
  | none => (trader, 0)
  | some plan =>
    if ¬ plan.activated then (trader, 0)
    else
      let late (offset : Int) : Bool := maxSchedulerLagMs < elapsedMs - offset * tickIntervalMs
      (trader.consume plan current late, (trader.left plan late).length)

/-- The limit of a reaction: the best opposite price, or one step beyond the reference. -/
def reactionPrice (trader : EventReactiveTrader) (side : OrderSide) (snapshot : BookSnapshot) :
    Int :=
  match side, snapshot.asks, snapshot.bids with
  | .buy, best :: _, _ => best.price
  | .buy, [], _ => max trader.settings.priceStep
    (trader.settings.referencePrice + trader.settings.priceStep)
  | .sell, _, best :: _ => best.price
  | .sell, _, [] => max trader.settings.priceStep
    (trader.settings.referencePrice - trader.settings.priceStep)

/-- The order at a position of the plan; a plan has as many of everything as it has orders. -/
def reactionIntent (trader : EventReactiveTrader) (plan : ResolvedReactionPlan) (index : Nat)
    (snapshot : BookSnapshot) : OrderIntent :=
  let side := plan.sides.getD index .buy
  ⟨trader.userId, trader.symbol, side, trader.reactionPrice side snapshot,
    plan.quantities.getD index 0, some (plan.ttlSeconds.getD index 0)⟩

/-- Emit the orders whose tick has come; ticks before the first one count as the first. -/
def nextIntents (trader : EventReactiveTrader) (tick : Int) (snapshot : BookSnapshot) :
    EventReactiveTrader × List OrderIntent :=
  match current : trader.plan with
  | none => (trader, [])
  | some plan =>
    if ¬ plan.activated then (trader, [])
    else
      let due (offset : Int) : Bool := max offset 1 = tick
      (trader.consume plan current due,
        (trader.left plan due).map fun index => trader.reactionIntent plan index snapshot)

/-- A trader never consumes more orders than it has planned. -/
theorem consumed_length (current : trader.plan = some plan) :
    trader.consumed.length ≤ plan.orderCount := by
  -- The consumed positions are distinct, and all of them are among the planned ones.
  have inside : trader.consumed ⊆ List.range plan.orderCount := by
    intro index member
    obtain ⟨planned, same, below⟩ := trader.consumed_planned index member
    cases current.symm.trans same
    exact List.mem_range.mpr below
  have bounded := (List.subperm_of_subset trader.consumed_nodup inside).length_le
  rwa [List.length_range] at bounded

/-- What a trader still has to do after it has consumed orders is what it had to do before. -/
theorem remaining_consume (current : trader.plan = some plan) (active : plan.activated = true) :
    (trader.consume plan current test).remainingReactionOrders +
      (trader.left plan test).length = trader.remainingReactionOrders := by
  -- The plan is the same before and after, and only what is consumed grows.
  have before : trader.activePlan = some plan := by
    rw [activePlan, current, Option.filter_some, if_pos active]
  have after : (trader.consume plan current test).activePlan = some plan := before
  have bounded : (trader.consume plan current test).consumed.length ≤ plan.orderCount :=
    consumed_length current
  have more : (trader.consume plan current test).consumed.length =
      trader.consumed.length + (trader.left plan test).length := List.length_append
  rw [remainingReactionOrders, remainingReactionOrders, before, after]
  simp only
  omega

/-- An applied plan replaces whatever the trader was following. -/
theorem applyPlan_ok {applied : EventReactiveTrader} (ok : trader.applyPlan plan = .ok applied) :
    plan.userId = trader.userId ∧ plan.symbol = trader.symbol ∧
      applied.settings = trader.settings ∧ applied.plan = some plan ∧
      applied.remainingReactionOrders = if plan.activated then plan.orderCount else 0 := by
  unfold applyPlan at ok
  -- The plan is for this trader and for its symbol.
  split_ifs at ok with other foreign
  cases ok
  refine ⟨not_not.mp other, not_not.mp foreign, rfl, rfl, ?_⟩
  unfold remainingReactionOrders activePlan
  rw [Option.filter_some]
  split
  · -- A trader that does not react has nothing to do.
    rename_i none_active
    split_ifs at none_active with active
    rw [if_neg active]
  · rename_i current found
    split_ifs at found with active
    cases found
    rw [if_pos active]
    rfl

/-- A plan for this trader can be applied. -/
theorem applyPlan_of_same (named : plan.userId = trader.userId)
    (traded : plan.symbol = trader.symbol) : ∃ applied, trader.applyPlan plan = .ok applied := by
  unfold applyPlan
  rw [if_neg (not_not.mpr named), if_neg (not_not.mpr traded)]
  exact ⟨_, rfl⟩

/-- Dropped orders are no longer left, and the plan stays. -/
theorem dropLateOrders_spec (trader : EventReactiveTrader) (elapsedMs tickIntervalMs lag : Int) :
    (trader.dropLateOrders elapsedMs tickIntervalMs lag).1.settings = trader.settings ∧
      (trader.dropLateOrders elapsedMs tickIntervalMs lag).1.plan = trader.plan ∧
      (trader.dropLateOrders elapsedMs tickIntervalMs lag).1.remainingReactionOrders +
        (trader.dropLateOrders elapsedMs tickIntervalMs lag).2 =
          trader.remainingReactionOrders := by
  unfold dropLateOrders
  split
  · -- Without a plan, or without a reaction, nothing is dropped.
    exact ⟨rfl, rfl, rfl⟩
  · rename_i plan current
    split_ifs with active
    · exact ⟨rfl, rfl, remaining_consume current active⟩
    · exact ⟨rfl, rfl, rfl⟩

/-- Emitted orders are no longer left, the plan stays, and they are the trader's own. -/
theorem nextIntents_spec (trader : EventReactiveTrader) (tick : Int) (snapshot : BookSnapshot) :
    (trader.nextIntents tick snapshot).1.settings = trader.settings ∧
      (trader.nextIntents tick snapshot).1.plan = trader.plan ∧
      (trader.nextIntents tick snapshot).1.remainingReactionOrders +
        (trader.nextIntents tick snapshot).2.length = trader.remainingReactionOrders ∧
      ∀ intent ∈ (trader.nextIntents tick snapshot).2, intent.userId = trader.userId := by
  have silent : ∀ intent ∈ ([] : List OrderIntent), intent.userId = trader.userId := by
    intro intent member
    cases member
  unfold nextIntents
  split
  · exact ⟨rfl, rfl, rfl, silent⟩
  · rename_i plan current
    -- Only a trader whose plan is active gives intents, one for each order that is due.
    split_ifs with active
    · refine ⟨rfl, rfl, ?_, ?_⟩
      · simp only [List.length_map]
        exact remaining_consume current active
      · intro intent member
        obtain ⟨index, _, rfl⟩ := List.mem_map.mp member
        rfl
    · exact ⟨rfl, rfl, rfl, silent⟩

/-- Orders that are consumed stay consumed. -/
theorem dropLateOrders_consumed (trader : EventReactiveTrader)
    (elapsedMs tickIntervalMs lag : Int) :
    trader.consumed <+: (trader.dropLateOrders elapsedMs tickIntervalMs lag).1.consumed := by
  -- What is dropped comes behind what was consumed before.
  unfold dropLateOrders
  split
  · exact List.prefix_rfl
  · split_ifs
    · exact List.prefix_append _ _
    · exact List.prefix_rfl

/-- Orders that are consumed stay consumed. -/
theorem nextIntents_consumed (trader : EventReactiveTrader) (tick : Int) (snapshot : BookSnapshot) :
    trader.consumed <+: (trader.nextIntents tick snapshot).1.consumed := by
  -- What is emitted comes behind what was consumed before.
  unfold nextIntents
  split
  · exact List.prefix_rfl
  · split_ifs
    · exact List.prefix_append _ _
    · exact List.prefix_rfl

/-- A trader without orders left has consumed every order of the plan that it follows. -/
theorem consumed_all (current : trader.plan = some plan) (active : plan.activated = true)
    (done : trader.remainingReactionOrders = 0) {index : Nat} (planned : index < plan.orderCount) :
    index ∈ trader.consumed := by
  unfold remainingReactionOrders activePlan at done
  rw [current, Option.filter_some, if_pos active] at done
  -- As many positions are consumed as the plan has.
  have full : (List.range plan.orderCount).length ≤ trader.consumed.length := by
    rw [List.length_range]
    exact Nat.le_of_sub_eq_zero done
  have inside : trader.consumed ⊆ List.range plan.orderCount := by
    intro other member
    obtain ⟨same_plan, same, below⟩ := trader.consumed_planned other member
    cases current.symm.trans same
    exact List.mem_range.mpr below
  exact ((List.subperm_of_subset trader.consumed_nodup inside).perm_of_length_le full).mem_iff.mpr
    (List.mem_range.mpr planned)

end EventReactiveTrader

end StockMarket
