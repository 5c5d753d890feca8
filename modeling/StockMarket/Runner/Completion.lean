import StockMarket.Participants.PlanSpacing
import StockMarket.Runner.DueEvents
import StockMarket.Runner.ReactionFlow
import StockMarket.Runner.TickClock

/-! When the runs of events are completed, and what they have counted by then and afterwards. -/

namespace StockMarket

/-- Whether a trader has an order left that is not late. -/
def EventReactiveTrader.hasTimely (trader : EventReactiveTrader)
    (elapsedMs tickIntervalMs maxSchedulerLagMs : Int) : Bool :=
  trader.activePlan.any fun plan => trader.left plan (fun offset =>
    elapsedMs - offset * tickIntervalMs ≤ maxSchedulerLagMs) ≠ []

/-- An order that is not late is not dropped. -/
theorem EventReactiveTrader.dropLateOrders_timely {trader later : EventReactiveTrader}
    {plan : ResolvedReactionPlan} {elapsedMs tickIntervalMs lag offset : Int} {index dropped : Nat}
    (gave : trader.dropLateOrders elapsedMs tickIntervalMs lag = (later, dropped))
    (current : trader.plan = some plan) (active : plan.activated = true)
    (planned : plan.orderTickOffsets[index]? = some offset) (unused : index ∉ trader.consumed)
    (timely : elapsedMs - offset * tickIntervalMs ≤ lag) :
    later.plan = some plan ∧ index ∉ later.consumed := by
  rw [dropLateOrders_active current active] at gave
  cases gave
  refine ⟨current, fun member => ?_⟩
  -- The positions consumed now come after those consumed before.
  rcases List.mem_append.mp member with before | now
  · exact unused before
  · -- The plan has one offset at the position, which cannot be late.
    obtain ⟨_, other, stored, late⟩ := mem_left_iff.mp now
    obtain rfl : offset = other := Option.some.inj (planned.symm.trans stored)
    exact absurd (of_decide_eq_true late) (not_lt.mpr timely)

/-- A trader with an order that it has not consumed has orders left. -/
theorem EventReactiveTrader.remaining_of_unused {trader : EventReactiveTrader}
    {plan : ResolvedReactionPlan} {offset : Int} {index : Nat} (current : trader.plan = some plan)
    (active : plan.activated = true) (planned : plan.orderTickOffsets[index]? = some offset)
    (unused : index ∉ trader.consumed) : trader.remainingReactionOrders ≠ 0 := by
  -- Every position of a plan is consumed once nothing of it is left.
  intro done
  obtain ⟨below, _⟩ := List.getElem?_eq_some_iff.mp planned
  rw [plan.lengths.2.2] at below
  exact unused (trader.consumed_all current active done below)

namespace EventCoordinator

/-- The time by which the orders of an event are late; live events go by the tick. -/
def schedulerMs (coordinator : EventCoordinator) (elapsedMs tick : Int) (eventId : CodePoints) : Int :=
  if eventId ∈ coordinator.liveEventIds then tick * coordinator.tickIntervalMs else elapsedMs

/-- Whether some trader of an event has an order left that is not late at a tick. -/
def keepsWork (coordinator : EventCoordinator) (elapsedMs tick : Int) (eventId : CodePoints) : Bool :=
  coordinator.traders.items.any fun item =>
    coordinator.traderEvent.get? item.1 = some eventId ∧
      item.2.hasTimely (coordinator.schedulerMs elapsedMs tick eventId) coordinator.tickIntervalMs
        ((coordinator.eventMaxLag.get? eventId).getD 0) = true

/-- Whether an event is new to the planner, and no seed can be made of its id and its number. -/
def cannotSeed (coordinator : EventCoordinator) (event : NewsShockEvent) : Bool :=
  coordinator.planner.processedEvents.get? event.eventId = none ∧ ¬ event.Seedable []

/--
Whether a due event makes no seed, or two different events share an id, among the due ones or with
one planned before.
-/
def clashes (coordinator : EventCoordinator) (due : List NewsShockEvent) : Bool :=
  due.any fun event => coordinator.cannotSeed event = true ∨ coordinator.conflicts event = true ∨
    ∃ other ∈ due, other.eventId = event.eventId ∧ other ≠ event

/-- Completed runs stay as they are, and no other run is completed. -/
def SameCompleted (coordinator next : EventCoordinator) : Prop :=
  ∀ eventId run, run.completed = true →
    (next.runs.get? eventId = some run ↔ coordinator.runs.get? eventId = some run)

/-- A run that is completed stays as it is. -/
def KeepsCompleted (coordinator next : EventCoordinator) : Prop :=
  ∀ eventId run, run.completed = true → coordinator.runs.get? eventId = some run →
    next.runs.get? eventId = some run

/-- The runs are of processed events, and completed ones have submitted or dropped every order. -/
structure Audited (flying : List (Option CodePoints)) (coordinator : EventCoordinator) : Prop where
  balanced : Balanced flying coordinator
  processed : ∀ eventId ∈ coordinator.runs.keys,
    (coordinator.planner.processedEvents.get? eventId).isSome = true
  accounted : ∀ eventId run, coordinator.runs.get? eventId = some run → run.completed = true →
    run.submitted + run.dropped = run.planned

section Audit

variable {held : Holdings} {coordinator next : EventCoordinator} {flying : List (Option CodePoints)}

/-- Nothing is left of a completed run, and nothing of it is in flight. -/
theorem Audited.drained (audited : Audited flying coordinator) {eventId : CodePoints}
    {run : EventRunState} (found : coordinator.runs.get? eventId = some run)
    (completed : run.completed = true) :
    coordinator.remainingOf eventId = 0 ∧ flying.count (some eventId) = 0 := by
  -- The books say what the run has planned, submitted, dropped, left and in flight.
  have counted := audited.balanced.each eventId
  have accounted := audited.accounted eventId run found completed
  simp only [count, found, Option.map_some, Option.getD_some] at counted
  omega

/-- What is kept by two steps is kept by both together. -/
theorem SameCompleted.trans {third : EventCoordinator} (before : SameCompleted coordinator next)
    (after : SameCompleted next third) : SameCompleted coordinator third :=
  fun eventId run completed => (after eventId run completed).trans (before eventId run completed)

/-- Completed events are kept from step to step. -/
theorem KeepsCompleted.trans {third : EventCoordinator} (before : KeepsCompleted coordinator next)
    (after : KeepsCompleted next third) : KeepsCompleted coordinator third :=
  fun eventId run completed found => after eventId run completed (before eventId run completed found)

/-- A step that completes nothing keeps what is completed. -/
theorem SameCompleted.keeps (same : SameCompleted coordinator next) :
    KeepsCompleted coordinator next :=
  fun eventId run completed => (same eventId run completed).mpr

/-- Runs may change as long as they are not completed, before or after. -/
theorem sameCompleted_modify {eventId : CodePoints} {change : EventRunState → EventRunState}
    (runs : next.runs = coordinator.runs.modify eventId change)
    (flag : ∀ run, (change run).completed = run.completed)
    (open_run : ∀ run, coordinator.runs.get? eventId = some run → run.completed = false) :
    SameCompleted coordinator next := by
  intro other run completed
  rw [runs, Dict.get?_modify]
  split_ifs with same
  · -- Neither the run before nor the changed one is completed.
    subst same
    cases found : coordinator.runs.get? other with
    | none => rfl
    | some before =>
      have opened := open_run before found
      have changed := flag before
      simp only [Option.map_some, Option.some.injEq]
      constructor
      · rintro rfl
        rw [changed, opened] at completed
        cases completed
      · rintro rfl
        rw [opened] at completed
        cases completed
  · rfl

/-- Whatever leaves the completed runs alone keeps the audit. -/
theorem Audited.same {flying' : List (Option CodePoints)} (audited : Audited flying coordinator)
    (balanced : Balanced flying' next) (same : SameCompleted coordinator next)
    (processed : ∀ eventId ∈ next.runs.keys,
      (next.planner.processedEvents.get? eventId).isSome = true) : Audited flying' next :=
  ⟨balanced, processed, fun eventId run found completed =>
    audited.accounted eventId run ((same eventId run completed).mp found) completed⟩

/-- Every run is what it was, or it is completed because its traders have nothing left. -/
theorem maybeComplete_cases {eventId other : CodePoints} {run : EventRunState}
    (found : (coordinator.maybeComplete eventId).runs.get? other = some run) :
    coordinator.runs.get? other = some run ∨
      other = eventId ∧ coordinator.remainingOf other = 0 := by
  simp only [EventCoordinator.maybeComplete, Dict.get?_modify] at found
  by_cases same : other = eventId
  · -- Only the run of the event itself can change.
    rw [if_pos same] at found
    obtain ⟨before, stored, changed⟩ := Option.map_eq_some_iff.mp found
    split_ifs at changed with done work
    · -- It stays as it was if it is completed already.
      exact .inl (changed ▸ stored)
    · -- It stays open as long as a trader has work.
      exact .inl (changed ▸ stored)
    · -- Otherwise it is completed now.
      exact .inr ⟨same, same ▸ not_not.mp work⟩
  · rw [if_neg same] at found
    exact .inl found

/-- A run may be completed when nothing of it is in flight once nothing of it is left. -/
theorem Audited.maybeComplete (audited : Audited flying coordinator) {eventId : CodePoints}
    (landed : coordinator.remainingOf eventId = 0 → flying.count (some eventId) = 0) :
    Audited flying (coordinator.maybeComplete eventId) ∧
      KeepsCompleted coordinator (coordinator.maybeComplete eventId) := by
  have balanced := audited.balanced.maybeComplete eventId
  have keys : (coordinator.maybeComplete eventId).runs.keys = coordinator.runs.keys :=
    Dict.keys_modify ..
  refine ⟨⟨balanced, fun other listed => audited.processed other (keys ▸ listed),
    fun other run found completed => ?_⟩, fun other run completed found => ?_⟩
  · -- A run completed earlier is accounted for, and one completed now has nothing open.
    rcases maybeComplete_cases found with kept | ⟨rfl, nothing⟩
    · exact audited.accounted other run kept completed
    · -- The books are balanced, and nothing is left or in flight.
      have counted := balanced.each other
      have left : (coordinator.maybeComplete other).remainingOf other =
          coordinator.remainingOf other := rfl
      simp only [count, found, Option.map_some, Option.getD_some] at counted
      rw [left, nothing, landed nothing] at counted
      omega
  · simp only [EventCoordinator.maybeComplete, Dict.get?_modify]
    by_cases same : other = eventId
    · -- A completed run is not completed twice.
      rw [if_pos same, found, Option.map_some, if_pos (.inl completed)]
    · rw [if_neg same]
      exact found

/-- Runs may be completed one after the other when nothing of those without work is in flight. -/
theorem Audited.maybeComplete_all (eventIds : List CodePoints) : ∀ {coordinator : EventCoordinator},
    Audited flying coordinator →
      (∀ eventId, coordinator.remainingOf eventId = 0 → flying.count (some eventId) = 0) →
        Audited flying (eventIds.foldl EventCoordinator.maybeComplete coordinator) ∧
          KeepsCompleted coordinator
            (eventIds.foldl EventCoordinator.maybeComplete coordinator) := by
  induction eventIds with
  | nil => exact fun audited _ => ⟨audited, fun _ _ _ found => found⟩
  | cons eventId later ih =>
    intro coordinator audited landed
    obtain ⟨first, kept⟩ := audited.maybeComplete (landed eventId)
    -- The traders are left alone, so that as much is left of every event as before.
    obtain ⟨rest, kept'⟩ := ih first landed
    exact ⟨rest, kept.trans kept'⟩

/-- What one trader has left is left of its event. -/
theorem remaining_le_remainingOf {userId : String} {eventId : CodePoints} {trader : EventReactiveTrader}
    (found : coordinator.traders.get? userId = some trader)
    (assigned : coordinator.traderEvent.get? userId = some eventId) :
    trader.remainingReactionOrders ≤ coordinator.remainingOf eventId := by
  have part := Dict.weight_le_total found (coordinator.share eventId)
  rwa [share, if_pos assigned] at part

/-- The late orders of a trader that is assigned to an event are dropped by the event's time. -/
theorem dropLateOrdersOf_cases (elapsedMs tick : Int) (userId : String) :
    coordinator.dropLateOrdersOf elapsedMs tick userId = coordinator ∨
      ∃ trader eventId later dropped, coordinator.traders.get? userId = some trader ∧
        coordinator.traderEvent.get? userId = some eventId ∧
        trader.dropLateOrders (coordinator.schedulerMs elapsedMs tick eventId)
          coordinator.tickIntervalMs ((coordinator.eventMaxLag.get? eventId).getD 0) =
            (later, dropped) ∧
        coordinator.dropLateOrdersOf elapsedMs tick userId =
          if dropped = 0 then { coordinator with traders := coordinator.traders.set userId later }
          else { coordinator with
            traders := coordinator.traders.set userId later }.recordDrops eventId dropped := by
  unfold EventCoordinator.dropLateOrdersOf
  split
  · -- The trader exists, and is assigned to an event.
    rename_i trader eventId found assigned
    exact .inr ⟨trader, eventId, _, _, found, assigned, rfl, rfl⟩
  · exact .inl rfl

/-- Drops are counted in a run that has orders left, which is not a completed one. -/
theorem Audited.dropLateOrdersOf (audited : Audited flying coordinator)
    (ok : Coordinated held coordinator) (elapsedMs tick : Int) (userId : String) :
    Audited flying (coordinator.dropLateOrdersOf elapsedMs tick userId) ∧
      SameCompleted coordinator (coordinator.dropLateOrdersOf elapsedMs tick userId) := by
  have accounted := (dropLateOrdersOf_spec ok elapsedMs tick userId).1
  have same : SameCompleted coordinator (coordinator.dropLateOrdersOf elapsedMs tick userId) ∧
      (coordinator.dropLateOrdersOf elapsedMs tick userId).runs.keys = coordinator.runs.keys := by
    rcases coordinator.dropLateOrdersOf_cases elapsedMs tick userId with
      unchanged | ⟨trader, eventId, later, dropped, found, assigned, gave, changed⟩
    · rw [unchanged]
      exact ⟨fun _ _ _ => Iff.rfl, rfl⟩
    · have given := (trader.dropLateOrders_spec (coordinator.schedulerMs elapsedMs tick eventId)
        coordinator.tickIntervalMs ((coordinator.eventMaxLag.get? eventId).getD 0)).2.2
      rw [gave] at given
      rw [changed]
      -- Without drops no run is touched at all.
      split_ifs with none_dropped
      · exact ⟨fun _ _ _ => Iff.rfl, rfl⟩
      · refine ⟨sameCompleted_modify rfl (fun _ => rfl) fun run stored => ?_, Dict.keys_modify ..⟩
        -- The trader has the dropped orders left until now.
        by_contra completed
        have nothing := (audited.drained stored (Bool.eq_true_of_not_eq_false completed)).1
        have part := remaining_le_remainingOf found assigned
        omega
  refine ⟨audited.same (accounted.balanced audited.balanced) same.1 fun eventId listed => ?_, same.1⟩
  rw [accounted.planner]
  exact audited.processed eventId (same.2 ▸ listed)

/-- Late orders are dropped without any change of a completed run. -/
theorem Audited.dropLateOrders (audited : Audited flying coordinator)
    (ok : Coordinated held coordinator) (elapsedMs tick : Int) :
    Audited flying (coordinator.dropLateOrders elapsedMs tick) ∧
      SameCompleted coordinator (coordinator.dropLateOrders elapsedMs tick) := by
  unfold EventCoordinator.dropLateOrders
  generalize coordinator.traders.keys = userIds
  induction userIds generalizing coordinator with
  | nil => exact ⟨audited, fun _ _ _ => Iff.rfl⟩
  | cons userId later ih =>
    obtain ⟨first, same⟩ := audited.dropLateOrdersOf ok elapsedMs tick userId
    -- The step keeps the coordination that the next trader's step relies on.
    obtain ⟨rest, same'⟩ := ih first (dropLateOrdersOf_spec ok elapsedMs tick userId).1.coordinated
    exact ⟨rest, same.trans same'⟩

/-- Plans are handed out to traders without orders left, one hand-out after the other. -/
theorem assignPlans_keeps {eventId : CodePoints} (holds : EventCoordinator → Prop) :
    ∀ (reactions : List ResolvedReactionPlan) {held : Holdings} {coordinator : EventCoordinator},
      (∀ current, ∀ reaction ∈ reactions, ∀ applied, holds current →
        holds (current.handOut eventId reaction applied)) →
      Coordinated held coordinator → (∃ run, coordinator.runs.get? eventId = some run) →
      (reactions.map ResolvedReactionPlan.userId).Nodup →
      (∀ reaction ∈ reactions, ∃ trader, coordinator.traders.get? reaction.userId = some trader ∧
        trader.remainingReactionOrders = 0 ∧ reaction.symbol = trader.symbol) →
      holds coordinator → holds (assignPlans eventId coordinator reactions).1 := by
  intro reactions
  induction reactions with
  | nil => exact fun _ _ _ _ _ held => held
  | cons reaction later ih =>
    intro plans coordinator handed ok started distinct free held
    obtain ⟨trader, found, idle, traded⟩ := free reaction List.mem_cons_self
    have applies : ∃ applied, trader.applyPlan reaction = .ok applied :=
      EventReactiveTrader.applyPlan_of_same (ok.named found).symm traded
    obtain ⟨applied, taken⟩ := applies
    obtain ⟨run, stored⟩ := started
    -- The first reaction goes to an idle trader, which takes it up.
    rw [List.map_cons, List.nodup_cons] at distinct
    have first := handOut_accounted ok stored found idle taken
    obtain ⟨opened, still, _⟩ := (handOut_runs stored reaction applied).1 eventId run stored
    rw [assignPlans_cons found idle taken]
    -- What the hand-out keeps holds for the later reactions as well.
    refine ih (fun current other member => handed current other (List.mem_cons_of_mem _ member))
      first.coordinated ⟨opened, still⟩ distinct.2 (fun other member => ?_)
      (handed coordinator reaction List.mem_cons_self applied held)
    -- The traders of the later reactions are others, and are left alone until their turn.
    obtain ⟨current, stored, idle, traded⟩ := free other (List.mem_cons_of_mem _ member)
    have differs : other.userId ≠ reaction.userId := fun same =>
      distinct.1 (same ▸ List.mem_map_of_mem member)
    refine ⟨current, ?_, idle, traded⟩
    rw [handOut_traders, Dict.get?_set, if_neg differs]
    exact stored

/-- What handing out the plans of an event leaves as it was. -/
structure HandsOut (eventId : CodePoints) (userIds : List String)
    (coordinator next : EventCoordinator) : Prop where
  others : ∀ other, other ≠ eventId → next.runs.get? other = coordinator.runs.get? other
  flags : ∀ run, next.runs.get? eventId = some run →
    ∃ before, coordinator.runs.get? eventId = some before ∧ run.completed = before.completed
  events : ∀ userId, userId ∉ userIds →
    next.traderEvent.get? userId = coordinator.traderEvent.get? userId

/-- Nothing is handed out without a step. -/
theorem HandsOut.refl (eventId : CodePoints) (userIds : List String) (coordinator : EventCoordinator) :
    HandsOut eventId userIds coordinator coordinator :=
  ⟨fun _ _ => rfl, fun run found => ⟨run, found, rfl⟩, fun _ _ => rfl⟩

/-- One more plan is handed out. -/
theorem HandsOut.handOut {eventId : CodePoints} {userIds : List String} {current : EventCoordinator}
    (before : HandsOut eventId userIds coordinator current) {reaction : ResolvedReactionPlan}
    (member : reaction.userId ∈ userIds) (applied : EventReactiveTrader) :
    HandsOut eventId userIds coordinator (current.handOut eventId reaction applied) := by
  refine ⟨fun other differs => ?_, fun run found => ?_, fun userId absent => ?_⟩
  · -- The runs of other events are not touched.
    rw [← before.others other differs]
    unfold EventCoordinator.handOut activate
    split_ifs
    · exact (Dict.get?_modify ..).trans (if_neg differs)
    · rfl
  · -- The run of the event may be activated, which leaves its flag as it was.
    unfold EventCoordinator.handOut activate at found
    split_ifs at found
    · rw [Dict.get?_modify, if_pos rfl] at found
      obtain ⟨middle, stored, changed⟩ := Option.map_eq_some_iff.mp found
      obtain ⟨first, stored, same⟩ := before.flags middle stored
      exact ⟨first, stored, changed ▸ same⟩
    · exact before.flags run found
  · -- Only the trader that takes the reaction up gets another event.
    rw [← before.events userId absent, handOut_traderEvent, if_neg]
    exact fun same => absent (same ▸ member)

/-- Some trader of an event has an order left that is not late at a tick. -/
def HasWork (coordinator : EventCoordinator) (elapsedMs tick : Int) (eventId : CodePoints) : Prop :=
  ∃ userId trader plan index offset, coordinator.traders.get? userId = some trader ∧
    coordinator.traderEvent.get? userId = some eventId ∧ trader.plan = some plan ∧
    plan.activated = true ∧ plan.orderTickOffsets[index]? = some offset ∧
    index ∉ trader.consumed ∧
    coordinator.schedulerMs elapsedMs tick eventId - offset * coordinator.tickIntervalMs ≤
      (coordinator.eventMaxLag.get? eventId).getD 0

/-- An event that is kept for its work has work. -/
theorem hasWork_of_keepsWork {elapsedMs tick : Int} {eventId : CodePoints}
    (kept : coordinator.keepsWork elapsedMs tick eventId = true) :
    coordinator.HasWork elapsedMs tick eventId := by
  -- The scan finds a trader of the event with an order that is not late.
  obtain ⟨⟨userId, trader⟩, member, meets⟩ := List.any_eq_true.mp kept
  obtain ⟨assigned, timely⟩ := of_decide_eq_true meets
  obtain ⟨plan, current, some_left⟩ := (Option.any_eq_true ..).mp timely
  obtain ⟨planned, active⟩ := Option.filter_eq_some_iff.mp current
  -- Some position of its plan is left and in time.
  obtain ⟨index, inside⟩ := List.exists_mem_of_ne_nil _ (of_decide_eq_true some_left)
  obtain ⟨unused, offset, stored, on_time⟩ := EventReactiveTrader.mem_left_iff.mp inside
  exact ⟨userId, trader, plan, index, offset, Dict.get?_eq_some_iff.mpr member, assigned, planned,
    active, stored, unused, of_decide_eq_true on_time⟩

/-- An event that keeps work has orders left. -/
theorem HasWork.remains {elapsedMs tick : Int} {eventId : CodePoints}
    (work : coordinator.HasWork elapsedMs tick eventId) :
    coordinator.remainingOf eventId ≠ 0 := by
  obtain ⟨userId, trader, plan, index, offset, found, assigned, current, active, stored, unused, _⟩ :=
    work
  -- The trader has orders left, so that its event has.
  have busy := EventReactiveTrader.remaining_of_unused current active stored unused
  have part := remaining_le_remainingOf found assigned
  omega

/-- An event keeps its work when late orders of any trader are dropped. -/
theorem HasWork.dropLateOrdersOf {elapsedMs tick : Int} {eventId : CodePoints}
    (work : coordinator.HasWork elapsedMs tick eventId) (userId : String) :
    (coordinator.dropLateOrdersOf elapsedMs tick userId).HasWork elapsedMs tick eventId := by
  rcases coordinator.dropLateOrdersOf_cases elapsedMs tick userId with
    unchanged | ⟨dropper, event, later, dropped, found, assigned, gave, changed⟩
  · -- Only the trader that drops is replaced, and it keeps its order that is not late.
    rwa [unchanged]
  · obtain ⟨user, trader, plan, index, offset, stored, working, current, active, planned, unused,
      on_time⟩ := work
    have moved : ∃ kept, (coordinator.traders.set userId later).get? user = some kept ∧
        kept.plan = some plan ∧ index ∉ kept.consumed := by
      by_cases same : user = userId
      · subst same
        rw [found] at stored
        cases stored
        -- It drops by the time of the event that it works for.
        rw [assigned] at working
        cases working
        have kept := EventReactiveTrader.dropLateOrders_timely gave current active planned unused
          on_time
        exact ⟨later, by rw [Dict.get?_set, if_pos rfl], kept⟩
      · exact ⟨trader, by rw [Dict.get?_set, if_neg same, stored], current, unused⟩
    obtain ⟨kept, stored, current, unused⟩ := moved
    rw [changed]
    -- The drops are counted in the run, away from traders and plans.
    split_ifs
    · exact ⟨user, kept, plan, index, offset, stored, working, current, active, planned, unused,
        on_time⟩
    · exact ⟨user, kept, plan, index, offset, stored, working, current, active, planned, unused,
        on_time⟩

/-- Work that is left after late orders are dropped was there before. -/
theorem HasWork.dropLateOrders {elapsedMs tick : Int} {eventId : CodePoints}
    (work : coordinator.HasWork elapsedMs tick eventId) :
    (coordinator.dropLateOrders elapsedMs tick).HasWork elapsedMs tick eventId := by
  -- The induction is on the users whose orders are looked through.
  unfold EventCoordinator.dropLateOrders
  generalize coordinator.traders.keys = userIds
  induction userIds generalizing coordinator with
  | nil => exact work
  | cons userId later ih => exact ih (work.dropLateOrdersOf userId)

end Audit

section Applied

variable {G : Type} (random : RandomSource G) {held : Holdings} {coordinator : EventCoordinator}
  {flying : List (Option CodePoints)}

/-- What applying events keeps, whatever becomes of them. -/
structure AppliedSafely (flying : List (Option CodePoints)) (coordinator next : EventCoordinator) :
    Prop where
  audited : Audited flying next
  completed : SameCompleted coordinator next
  work : ∀ elapsedMs tick eventId, coordinator.HasWork elapsedMs tick eventId →
    -- Work that is left before the event is left after it.
    next.HasWork elapsedMs tick eventId

/-- A fresh event opens a run of its own, and traders with orders left are not concerned. -/
theorem assigned_safely (ok : Coordinated held coordinator) {plan : ResolvedEventPlan}
    {eventId : CodePoints} (absent : coordinator.runs.get? eventId = none)
    (owned : ∀ reaction ∈ plan.reactions, ∃ candidate ∈ coordinator.candidates,
      reaction.userId = candidate.userId ∧ reaction.symbol = candidate.symbol) :
    let opened := coordinator.openRun eventId plan.maxSchedulerLagMs
    let next := (assignPlans eventId opened plan.reactions).1
    SameCompleted coordinator next ∧
      (∀ other ∈ next.runs.keys, other ∈ coordinator.runs.keys ∨ other = eventId) ∧
      ∀ elapsedMs tick other, coordinator.HasWork elapsedMs tick other →
        next.HasWork elapsedMs tick other := by
  intro opened next
  have free := reactions_idle ok owned
  obtain ⟨accounted, started⟩ := ok.openRun eventId plan.maxSchedulerLagMs
  have handed : HandsOut eventId (plan.reactions.map ResolvedReactionPlan.userId) opened next :=
    assignPlans_keeps (HandsOut eventId (plan.reactions.map ResolvedReactionPlan.userId) opened)
      plan.reactions
      (fun _ _ member applied before => before.handOut (List.mem_map_of_mem member) applied)
      accounted.coordinated started plan.userIds_unique free (.refl ..)
  -- The event has had no run, and the one that is opened for it is not completed.
  have runs : opened.runs = coordinator.runs.set eventId (.start eventId) := by
    simp only [opened, openRun, absent]
  have others : ∀ other, other ≠ eventId →
      next.runs.get? other = coordinator.runs.get? other := by
    intro other differs
    rw [handed.others other differs, runs, Dict.get?_set, if_neg differs]
  refine ⟨fun other run completed => ?_, fun other listed => ?_, fun elapsedMs tick other work => ?_⟩
  · -- The new run is not completed, before or after the plans are handed out.
    by_cases same : other = eventId
    · subst same
      rw [absent]
      refine ⟨fun found => ?_, fun found => by cases found⟩
      -- Its flag is the one that it was opened with.
      obtain ⟨before, stored, flag⟩ := handed.flags run found
      rw [runs, Dict.get?_set, if_pos rfl] at stored
      cases stored
      rw [completed] at flag
      cases flag
    · rw [others other same]
  · -- Only the new run is added.
    by_cases same : other = eventId
    · exact .inr same
    · obtain ⟨run, stored⟩ := Dict.mem_keys_iff.mp listed
      exact .inl (Dict.mem_keys_iff.mpr ⟨run, (others other same).symm.trans stored⟩)
  · -- The trader of an order that is left takes no reaction up, and its event has a run already.
    obtain ⟨user, trader, current, index, offset, found, assigned, follows, active, planned, unused,
      on_time⟩ := work
    have busy := EventReactiveTrader.remaining_of_unused follows active planned unused
    have outside : user ∉ plan.reactions.map ResolvedReactionPlan.userId := by
      intro member
      -- A trader that takes a reaction up has nothing left, and this one has.
      obtain ⟨reaction, inside, same⟩ := List.mem_map.mp member
      obtain ⟨idler, stored, idle, _⟩ := free reaction inside
      rw [same, found] at stored
      cases stored
      exact busy idle
    have register : next.register = opened.register := assignPlans_register _ _ _
    obtain ⟨run, stored, _⟩ := ok.listed assigned
    have differs : other ≠ eventId := by
      rintro rfl
      rw [absent] at stored
      cases stored
    -- The clock and the kind of the event are what they were.
    have ticks : next.tickIntervalMs = coordinator.tickIntervalMs :=
      congrArg (fun kept => kept.1.2.2.1) register
    have live : next.liveEventIds = coordinator.liveEventIds :=
      congrArg (fun kept => kept.2.2.2.2) register
    -- The lag that the fresh event sets is its own.
    have lags : next.eventMaxLag.get? other = coordinator.eventMaxLag.get? other := by
      have kept : next.eventMaxLag = opened.eventMaxLag := congrArg (fun kept => kept.2.2.1) register
      rw [kept]
      exact (Dict.get?_set ..).trans (if_neg differs)
    -- The trader still follows its plan for the same event, with the same order left.
    refine ⟨user, trader, current, index, offset, ?_, ?_, follows, active, planned, unused, ?_⟩
    · rw [← found]
      exact (assignPlans_spec plan.reactions accounted.coordinated started plan.userIds_unique
        free).2.2 user outside
    · rw [← assigned]
      exact handed.events user outside
    · rw [schedulerMs, ticks, live, lags]
      exact on_time

/-- Applying an event leaves completed runs alone, and work that is left to traders. -/
theorem applyEvent_safely (ok : Coordinated held coordinator)
    (audited : Audited flying coordinator) (event : NewsShockEvent) :
    AppliedSafely flying coordinator (coordinator.applyEvent random event).1 := by
  have balanced := ((applyEvent_applied random ok event).handled ok).balanced audited.balanced
  have planned := planOnce_planned random coordinator.planner event coordinator.candidates
  unfold applyEvent at balanced ⊢
  generalize coordinator.planner.planOnce random event coordinator.candidates = outcome
    at planned balanced ⊢
  obtain ⟨planner, result⟩ := outcome
  cases planned with
  -- A conflicting event is refused, and nothing has changed.
  | refused known other => exact ⟨audited, fun _ _ _ => Iff.rfl, fun _ _ _ work => work⟩
  -- A repeated event is remembered as it was.
  | repeated known =>
    exact ⟨⟨balanced, audited.processed, audited.accounted⟩, fun _ _ _ => Iff.rfl,
      fun _ _ _ work => work⟩
  -- A plan that fails is discarded.
  | failed fresh raised => exact ⟨audited, fun _ _ _ => Iff.rfl, fun _ _ _ work => work⟩
  -- A resolved plan opens a run and is handed out.
  | resolved fresh made =>
    rename_i plan
    obtain ⟨_, owned⟩ := resolve_ok made
    -- Only processed events have runs, so that this one has none.
    have absent : coordinator.runs.get? event.eventId = none := by
      by_contra found
      obtain ⟨run, stored⟩ := Option.ne_none_iff_exists'.mp found
      have known := audited.processed event.eventId (Dict.mem_keys_iff.mpr ⟨run, stored⟩)
      rw [fresh] at known
      cases known
    have known : Coordinated held { coordinator with
        planner := { coordinator.planner with
          processedEvents := coordinator.planner.processedEvents.set event.eventId event } } :=
      ⟨ok.named, ok.follows, ok.assigned, ok.listed, ok.lagged⟩
    obtain ⟨completed, keys, work⟩ := assigned_safely known absent owned
    -- A run is of an earlier event, which is still known, or of this one.
    refine ⟨audited.same balanced completed fun other listed => ?_, completed, work⟩
    have planner := congrArg (fun kept => kept.2.1) (assignPlans_register
      (({ coordinator with
        planner := { coordinator.planner with
          processedEvents := coordinator.planner.processedEvents.set event.eventId event }
        } : EventCoordinator).openRun event.eventId plan.maxSchedulerLagMs) event.eventId
      plan.reactions)
    simp only [register] at planner
    simp only [planner]
    show (Dict.get? (coordinator.planner.processedEvents.set event.eventId event) other).isSome = true
    rw [Dict.get?_set]
    split_ifs with same
    · rfl
    · exact audited.processed other ((keys other listed).resolve_right same)

/-- Due events are applied one after the other. -/
theorem applyDue_safely (events : List NewsShockEvent) : ∀ {held : Holdings}
    {coordinator : EventCoordinator}, Coordinated held coordinator →
      Audited flying coordinator →
        AppliedSafely flying coordinator (coordinator.applyDue random events).1 := by
  induction events with
  | nil => exact fun _ audited => ⟨audited, fun _ _ _ => Iff.rfl, fun _ _ _ work => work⟩
  | cons event later ih =>
    intro held coordinator ok audited
    have first := applyEvent_safely random ok audited event
    have coordinated := ((applyEvent_applied random ok event).handled ok).coordinated
    unfold applyDue
    generalize coordinator.applyEvent random event = applied at first coordinated ⊢
    obtain ⟨next, outcome⟩ := applied
    cases outcome with
    -- The first failure ends the tick's application.
    | error error => exact first
    | ok applied =>
      -- The later events are applied to a state that is as safe as the first.
      have rest := ih coordinated first.audited
      exact ⟨rest.audited, first.completed.trans rest.completed, fun elapsedMs tick eventId work =>
        rest.work elapsedMs tick eventId (first.work elapsedMs tick eventId work)⟩

/-- An event conflicts with a different one of the same id. -/
theorem conflicts_iff {event : NewsShockEvent} : coordinator.conflicts event = true ↔
    ∃ previous, coordinator.planner.processedEvents.get? event.eventId = some previous ∧
      previous ≠ event := by
  unfold conflicts
  rw [Option.any_eq_true]
  simp only [decide_eq_true_eq]

/-- An event that is applied without an error is known from then on, and could be planned. -/
theorem applyEvent_clear (ok : Coordinated held coordinator) {event : NewsShockEvent}
    {next : EventCoordinator} {applied : Applied}
    (done : coordinator.applyEvent random event = (next, .ok applied)) :
    coordinator.conflicts event = false ∧ coordinator.cannotSeed event = false ∧
      next.planner.processedEvents.get? event.eventId = some event := by
  have outcome := applyEvent_applied random ok event
  have resolved := @applyEvent_planned _ random coordinator event
  rw [done] at outcome resolved
  cases outcome with
  -- A duplicate equals the event that is known.
  | deduplicated known =>
    refine ⟨?_, ?_, known⟩
    · unfold conflicts
      rw [known]
      simp
    · unfold cannotSeed
      rw [known]
      simp
  -- A planned event was not known, and is remembered now.
  | planned about fresh _ _ processed _ _ =>
    refine ⟨?_, ?_, by rw [processed, Dict.get?_set, if_pos rfl]⟩
    · unfold conflicts
      rw [fresh]
      rfl
    · have seedable := RandomSource.seedable_of_resolve (resolved rfl).2.1
      refine decide_eq_false fun both => both.2 ⟨seedable.1, seedable.2, ?_⟩
      exact fun candidate member => absurd member List.not_mem_nil

/-- Some application fails when a due event makes no seed or two different events share an id. -/
theorem applyDue_clashes (due : List NewsShockEvent) : ∀ {held : Holdings}
    {coordinator : EventCoordinator}, Coordinated held coordinator →
      coordinator.clashes due = true →
        ((coordinator.applyDue random due).2.any fun outcome => outcome.toOption.isNone) = true := by
  induction due with
  | nil =>
    -- Nothing is due, so that nothing can clash.
    intro held coordinator _ clash
    cases clash
  | cons event later ih =>
    intro held coordinator ok clash
    have handled := (applyEvent_applied random ok event).handled ok
    unfold applyDue
    cases done : coordinator.applyEvent random event with
    | mk next outcome =>
      rw [done] at handled
      cases outcome with
      -- The first event fails by itself.
      | error error => rfl
      | ok applied =>
        obtain ⟨clear, seeded, known⟩ := applyEvent_clear random ok done
        have others := fun other differs =>
          @applyEvent_processed _ random _ coordinator ok event other differs
        rw [done] at others
        -- The clash is left to the later events, and the one that was applied is known to them.
        have stays : next.clashes later = true := by
          obtain ⟨clashing, member, meets⟩ := List.any_eq_true.mp clash
          refine List.any_eq_true.mpr ?_
          rcases of_decide_eq_true meets with
            unseeded | conflict | ⟨other, member', named, differs⟩
          · -- The event that was applied had its seeds made.
            rcases List.mem_cons.mp member with rfl | inside
            · rw [seeded] at unseeded
              cases unseeded
            · refine ⟨clashing, inside, decide_eq_true ?_⟩
              obtain ⟨fresh, impossible⟩ := of_decide_eq_true unseeded
              by_cases named : clashing.eventId = event.eventId
              · -- The id is taken by the event that was applied, which is another one.
                refine .inr (.inl (conflicts_iff.mpr ⟨event, named ▸ known, ?_⟩))
                rintro rfl
                rw [seeded] at unseeded
                cases unseeded
              · exact .inl (decide_eq_true ⟨(others clashing named).trans fresh, impossible⟩)
          · -- The event that was applied does not conflict.
            rcases List.mem_cons.mp member with rfl | inside
            · rw [clear] at conflict
              cases conflict
            · obtain ⟨previous, stored, other⟩ := conflicts_iff.mp conflict
              -- A conflict with an earlier event stays one, since events are not forgotten.
              have still := handled.remembered.processed stored
              exact ⟨clashing, inside, decide_eq_true (.inr (.inl (conflicts_iff.mpr
                ⟨previous, still, other⟩)))⟩
          · -- Two due events share an id.
            rcases List.mem_cons.mp member with rfl | inside
            · rcases List.mem_cons.mp member' with rfl | inside'
              · exact absurd rfl differs
              · -- The first of them is known now, so that the other is in conflict.
                exact ⟨other, inside', decide_eq_true (.inr (.inl (conflicts_iff.mpr
                  ⟨clashing, named ▸ known, differs.symm⟩)))⟩
            · rcases List.mem_cons.mp member' with rfl | inside'
              · -- The same holds the other way round.
                exact ⟨clashing, inside, decide_eq_true (.inr (.inl (conflicts_iff.mpr
                  ⟨other, named ▸ known, differs⟩)))⟩
              · -- Both are still to come.
                exact ⟨clashing, inside, decide_eq_true (.inr (.inr ⟨other, inside', named, differs⟩))⟩
        have rest := ih handled.coordinated stays
        simp only [List.any_cons, rest, Bool.or_true]

/-- What a tick asks of every event with orders in flight, when it gets to drop and complete. -/
def settlesTick (coordinator : EventCoordinator) (flying : List (Option CodePoints))
    (tick now : Int) : Bool :=
  coordinator.clashes (coordinator.source.dueEvents (now - coordinator.startedMs)).2 ||
    flying.all fun source => source.all fun eventId =>
      coordinator.keepsWork (now - coordinator.startedMs) tick eventId

/-- A tick completes no run of which orders are in flight. -/
theorem beforeTick_safely (ok : Coordinated held coordinator)
    (audited : Audited flying coordinator) (tick now : Int)
    (settled : coordinator.settlesTick flying tick now = true) :
    Audited flying (coordinator.beforeTick random tick now).1 ∧
      KeepsCompleted coordinator (coordinator.beforeTick random tick now).1 := by
  unfold beforeTick
  simp only
  unfold settlesTick at settled
  generalize coordinator.source.dueEvents (now - coordinator.startedMs) = taken at settled ⊢
  obtain ⟨source, due⟩ := taken
  have known : Coordinated held { coordinator with source } :=
    ⟨ok.named, ok.follows, ok.assigned, ok.listed, ok.lagged⟩
  have before : Audited flying { coordinator with source } :=
    ⟨⟨audited.balanced.each, audited.balanced.overall⟩, audited.processed, audited.accounted⟩
  have clash := applyDue_clashes random due known
  have applied := applyDue_safely random due known before
  have coordinated := (applyDue_handled random due known).coordinated
  -- From here on only what the due events have left matters.
  generalize applyDue random { coordinator with source } due = handled
    at clash applied coordinated ⊢
  obtain ⟨middle, outcomes⟩ := handled
  simp only at clash applied coordinated ⊢
  -- An error ends the tick before anything is dropped or completed.
  split_ifs with failed
  · exact ⟨applied.audited, applied.completed.keeps⟩
  · obtain ⟨dropped, same⟩ := applied.audited.dropLateOrders coordinated
      (now - coordinator.startedMs) tick
    have kept := applied.completed.keeps.trans same.keeps
    have landed : ∀ eventId,
        (middle.dropLateOrders (now - coordinator.startedMs) tick).remainingOf eventId = 0 →
          flying.count (some eventId) = 0 := by
      intro eventId nothing
      by_contra flown
      -- An event with orders in flight keeps an order that is not late.
      have member := List.count_pos_iff.mp (Nat.pos_of_ne_zero flown)
      -- Either the events clash, or every event in flight keeps work.
      rcases Bool.or_eq_true .. ▸ settled with clashing | works
      · exact failed (clash clashing)
      · have work := hasWork_of_keepsWork (List.all_eq_true.mp works (some eventId) member)
        exact (applied.work _ _ _ work).dropLateOrders.remains nothing
    -- Runs are completed only after the drops.
    obtain ⟨completed, kept'⟩ := dropped.maybeComplete_all _ landed
    exact ⟨completed, kept.trans kept'⟩

/-- A market event completes no run, whatever becomes of it. -/
theorem applyMarketEvent_safely (ok : Coordinated held coordinator)
    (audited : Audited flying coordinator)
    (eventId : CodePoints) (symbol direction impact label source : String) (tick : Int) :
    Audited flying (coordinator.applyMarketEvent random eventId symbol direction impact label
        source tick).1 ∧
      KeepsCompleted coordinator (coordinator.applyMarketEvent random eventId symbol direction
        impact label source tick).1 := by
  rcases applyMarketEvent_cases random coordinator eventId symbol direction impact label source tick
    with ⟨created, _, _, applied⟩ | ⟨existing, _, applied⟩ | ⟨error, _, refused⟩
  · -- The event is new: it is received, and then applied.
    rw [applied]
    have received : Audited flying { coordinator with
        liveEvents := coordinator.liveEvents.set eventId created
        liveEventIds := insert eventId coordinator.liveEventIds } :=
      ⟨⟨audited.balanced.each, audited.balanced.overall⟩, audited.processed, audited.accounted⟩
    have safely := applyEvent_safely random (ok.receive eventId created) received created
    exact ⟨safely.audited, safely.completed.keeps⟩
  · -- The event was received before, and is applied again.
    rw [applied]
    have safely := applyEvent_safely random ok audited existing
    exact ⟨safely.audited, safely.completed.keeps⟩
  · -- The event is refused, and nothing happens.
    rw [refused]
    exact ⟨audited, fun _ _ _ found => found⟩

end Applied

section Back

variable {held : Holdings} {coordinator : EventCoordinator} {flying later : List (Option CodePoints)}

/-- Emitting orders completes no run. -/
theorem nextIntents_safely (audited : Audited flying coordinator) (userId : String) (tick : Int)
    (snapshot : BookSnapshot)
    (balanced : Balanced later (coordinator.nextIntents userId tick snapshot).1) :
    Audited later (coordinator.nextIntents userId tick snapshot).1 ∧
      KeepsCompleted coordinator (coordinator.nextIntents userId tick snapshot).1 := by
  -- Only traders change when an order is emitted.
  have unchanged : (coordinator.nextIntents userId tick snapshot).1.runs = coordinator.runs ∧
      (coordinator.nextIntents userId tick snapshot).1.planner = coordinator.planner := by
    unfold nextIntents
    split <;> exact ⟨rfl, rfl⟩
  obtain ⟨runs, planner⟩ := unchanged
  have same : SameCompleted coordinator (coordinator.nextIntents userId tick snapshot).1 :=
    fun eventId run _ => by rw [runs]
  refine ⟨audited.same balanced same fun eventId listed => ?_, same.keeps⟩
  rw [planner]
  exact audited.processed eventId (runs ▸ listed)

/-- An order that comes back completes its run only when no other one is in flight. -/
theorem afterSubmit_safely (ok : Coordinated held coordinator)
    (audited : Audited flying coordinator) {intent : OrderIntent} {eventId : CodePoints}
    (assigned : coordinator.traderEvent.get? intent.userId = some eventId)
    (back : (some eventId :: later).Perm flying)
    (settled : coordinator.remainingOf eventId ≠ 0 ∨ flying.count (some eventId) = 1)
    (submitted : Bool) (tick now : Int) :
    Audited later (coordinator.afterSubmit intent submitted tick now) ∧
      KeepsCompleted coordinator (coordinator.afterSubmit intent submitted tick now) := by
  -- The order belongs to a run of its trader's event.
  obtain ⟨run, stored, _⟩ := ok.listed assigned
  have counted := count_back back eventId
  rw [if_pos rfl] at counted
  -- A completed run has no orders in flight, and this one has.
  have open_run : ∀ found, coordinator.runs.get? eventId = some found →
      found.completed = false := by
    intro found same
    by_contra completed
    have nothing := (audited.drained same (Bool.eq_true_of_not_eq_false completed)).2
    omega
  have landed : coordinator.remainingOf eventId = 0 → later.count (some eventId) = 0 := by
    intro nothing
    -- The order is the last one, and it is back.
    have last := settled.resolve_left (not_not.mpr nothing)
    omega
  -- Whatever is counted first, the run is completed with nothing in flight, or left open.
  have closes {counting : EventCoordinator} {change : EventRunState → EventRunState}
      (runs : counting.runs = coordinator.runs.modify eventId change)
      (flag : ∀ run, (change run).completed = run.completed)
      (balanced : Balanced later counting) (planner : counting.planner = coordinator.planner)
      (left : counting.remainingOf eventId = coordinator.remainingOf eventId) :
      Audited later (counting.maybeComplete eventId) ∧
        KeepsCompleted coordinator (counting.maybeComplete eventId) := by
    have same := sameCompleted_modify runs flag open_run
    have recorded : Audited later counting := by
      refine audited.same balanced same fun other listed => ?_
      rw [runs, Dict.keys_modify] at listed
      rw [planner]
      exact audited.processed other listed
    obtain ⟨completed, kept⟩ := recorded.maybeComplete (left ▸ landed)
    exact ⟨completed, same.keeps.trans kept⟩
  -- The order is counted as submitted or as dropped, and then the run may be completed.
  unfold afterSubmit
  rw [assigned]
  cases submitted with
  | false => exact closes rfl (fun _ => rfl) (audited.balanced.recordDrop stored back) rfl rfl
  | true => exact closes rfl (fun _ => rfl) (audited.balanced.recordSubmit stored back _) rfl rfl

end Back

end EventCoordinator

namespace ReactionRun

/--
Whether no run can be completed while orders of it are in flight.

An order that comes back finds its trader on its event, which has more to emit or nothing else in
flight. At a tick, every event with orders in flight has an order left that is not late.
-/
def settles (run : ReactionRun) : ReactionTurn → Bool
  | .afterSubmit index _ _ => (run.flying[index]?).all fun emission =>
    run.coordinator.traderEvent.get? emission.intent.userId = emission.eventId ∧
      emission.eventId.all fun eventId =>
        run.coordinator.remainingOf eventId ≠ 0 ∨ run.sources.count (some eventId) = 1
  | .beforeTick tick now => run.coordinator.settlesTick run.sources tick now
  | _ => true

/-- Completed runs have accounted for their orders, and nothing comes back late. -/
structure Settled (run : ReactionRun) : Prop where
  accountable : run.Accountable
  audited : EventCoordinator.Audited run.sources run.coordinator

section Rules

variable {G : Type} (random : RandomSource G) {run : ReactionRun}

/-- An order comes back in time when it settles. -/
theorem inTime_of_settles {turn : ReactionTurn} (settled : run.settles turn = true) :
    run.inTime turn = true := by
  cases turn with
  -- The order finds its trader on its event, whatever else is asked.
  | afterSubmit index submitted now =>
    simp only [settles, inTime] at settled ⊢
    cases found : run.flying[index]? with
    | none => rfl
    | some emission =>
      rw [found, Option.all_some, decide_eq_true_eq] at settled
      exact decide_eq_true settled.1
  | _ => rfl

/-- Every turn that settles completes no run too early, and changes no completed one. -/
theorem Settled.turn (settled : run.Settled) (turn : ReactionTurn)
    (meets : run.settles turn = true) :
    (run.turn random turn).Settled ∧
      EventCoordinator.KeepsCompleted run.coordinator (run.turn random turn).coordinator := by
  have ok := settled.accountable.coordinated
  have accountable := settled.accountable.turn random turn (inTime_of_settles meets)
  cases turn with
  | beforeTick tick now =>
    obtain ⟨audited, kept⟩ :=
      EventCoordinator.beforeTick_safely random ok settled.audited tick now meets
    exact ⟨⟨accountable, audited⟩, kept⟩
  | marketEvent event tick =>
    obtain ⟨audited, kept⟩ := EventCoordinator.applyMarketEvent_safely random ok settled.audited
      event.eventId event.symbol event.direction event.impact event.headline event.source tick
    exact ⟨⟨accountable, audited⟩, kept⟩
  | nextIntents userId tick snapshot =>
    obtain ⟨audited, kept⟩ := EventCoordinator.nextIntents_safely settled.audited userId tick
      snapshot accountable.balanced
    exact ⟨⟨accountable, audited⟩, kept⟩
  -- Only an intent that is in flight is reported.
  | afterSubmit index submitted now =>
    simp only [settles] at meets
    simp only [ReactionRun.turn] at accountable ⊢
    cases found : run.flying[index]? with
    -- Nothing comes back from an empty place.
    | none => exact ⟨settled, fun _ _ _ same => same⟩
    | some emission =>
      rw [found] at accountable
      rw [found, Option.all_some, decide_eq_true_eq] at meets
      obtain ⟨timely, last⟩ := meets
      -- The order in flight is of a run.
      obtain ⟨eventId, source, back⟩ := settled.accountable.returning found
      rw [source, Option.all_some, decide_eq_true_eq] at last
      obtain ⟨audited, kept⟩ := EventCoordinator.afterSubmit_safely ok settled.audited
        (timely.trans source) back last submitted emission.tick now
      exact ⟨⟨accountable, audited⟩, kept⟩

/-- Over turns that settle, completed runs stay accounted for and as they are. -/
theorem run_settled (turns : List ReactionTurn) : ∀ {run : ReactionRun}, run.Settled →
    Machine.throughout (total random) settles run turns = true →
      (turns.foldl (ReactionRun.turn random) run).Settled ∧
        EventCoordinator.KeepsCompleted run.coordinator
          (turns.foldl (ReactionRun.turn random) run).coordinator := by
  induction turns with
  | nil => exact fun settled _ => ⟨settled, fun _ _ _ found => found⟩
  | cons first later ih =>
    intro run settled meets
    -- The first turn settles, and so do the later ones in the state that it leads to.
    obtain ⟨first_meets, later_meet⟩ := (Machine.throughout_cons rfl).mp meets
    obtain ⟨next, kept⟩ := settled.turn random first first_meets
    obtain ⟨last, kept'⟩ := ih next later_meet
    exact ⟨last, kept.trans kept'⟩

/-- Turns that all settle can be taken in two parts. -/
theorem settles_append (turns later : List ReactionTurn) : ∀ {run : ReactionRun},
    Machine.throughout (total random) settles run (turns ++ later) = true →
      Machine.throughout (total random) settles run turns = true ∧
        Machine.throughout (total random) settles (turns.foldl (ReactionRun.turn random) run)
          later = true := by
  -- The induction is on the first turns, and the others begin where these end.
  induction turns with
  | nil => exact fun meets => ⟨rfl, meets⟩
  | cons first others ih =>
    intro run meets
    obtain ⟨first_meets, others_meet⟩ := (Machine.throughout_cons rfl).mp meets
    obtain ⟨before, after⟩ := ih others_meet
    exact ⟨(Machine.throughout_cons rfl).mpr ⟨first_meets, before⟩, after⟩

/-- A new coordinator has completed nothing. -/
theorem start_settled {events : List NewsShockEvent} {participants : List TraderSettings}
    {tickIntervalMs now : Int} {coordinator : EventCoordinator}
    (made : EventCoordinator.create events participants tickIntervalMs now = .ok coordinator) :
    (start coordinator).Settled := by
  obtain ⟨coordinated, balanced⟩ := EventCoordinator.create_coordinated made
  -- No run is open at the start.
  have empty : coordinator.runs = .empty := by
    obtain ⟨_, made⟩ := passed made
    cases made
    rfl
  refine ⟨⟨coordinated, balanced, fun _ member => absurd member List.not_mem_nil⟩, balanced,
    fun eventId listed => ?_, fun eventId run found => ?_⟩
  · rw [show (start coordinator).coordinator.runs = .empty from empty] at listed
    cases listed
  · rw [show (start coordinator).coordinator.runs = .empty from empty] at found
    cases found

end Rules

/--
A completed run has submitted or dropped every planned order, and it stays as it is.

This holds in every state of a run of turns that all settle.
-/
theorem completed_runs_accounted {G : Type} (random : RandomSource G)
    {events : List NewsShockEvent} {participants : List TraderSettings} {tickIntervalMs now : Int}
    {coordinator : EventCoordinator}
    (made : EventCoordinator.create events participants tickIntervalMs now = .ok coordinator)
    (turns later : List ReactionTurn)
    (settled : Machine.throughout (total random) settles (start coordinator) (turns ++ later) =
      true) :
    ∀ eventId state,
      (turns.foldl (turn random) (start coordinator)).coordinator.runs.get? eventId = some state →
        state.completed = true →
          state.submitted + state.dropped = state.planned ∧
          ((turns ++ later).foldl (turn random) (start coordinator)).coordinator.runs.get? eventId =
            some state := by
  intro eventId state found completed
  -- The turns so far settle, and so do those that follow.
  obtain ⟨before, after⟩ := settles_append random turns later settled
  obtain ⟨reached, _⟩ := run_settled random turns (start_settled made) before
  obtain ⟨_, kept⟩ := run_settled random later reached after
  refine ⟨reached.audited.accounted eventId state found completed, ?_⟩
  -- What happens later is a run from the state in between.
  rw [List.foldl_append]
  exact kept eventId state completed found

/-- A tick apart, one order of a panic is submitted and the other one fails. -/
theorem completed_runs_accounted_reactor :
    ∃ state, ([.beforeTick 1 1000, .nextIntents "reactor" 1 ⟨"005930", [], []⟩,
        .afterSubmit 0 true 1000, .beforeTick 2 2000,
        .nextIntents "reactor" 2 ⟨"005930", [], []⟩, .afterSubmit 0 false 2000].foldl (turn .least)
          (start (reactorCoordinator [panicNews firstId 1000 (by decide)]))
        ).coordinator.runs.get? firstId = some state ∧
      state.completed = true ∧ state.submitted + state.dropped = state.planned :=
  have made : EventCoordinator.create [panicNews firstId 1000 (by decide)] [reactor] 1000 0 =
    .ok (reactorCoordinator [panicNews firstId 1000 (by decide)]) := rfl
  -- Two ticks bring two orders, one of which is dropped after its submission.
  have reached : ([.beforeTick 1 1000, .nextIntents "reactor" 1 ⟨"005930", [], []⟩,
      .afterSubmit 0 true 1000, .beforeTick 2 2000,
      .nextIntents "reactor" 2 ⟨"005930", [], []⟩, .afterSubmit 0 false 2000].foldl (turn .least)
        (start (reactorCoordinator [panicNews firstId 1000 (by decide)]))
      ).coordinator.runs.get? firstId = some ⟨firstId, 2, 1, 1, 1, true, true, {"reactor"}⟩ := by
    decide +kernel
  ⟨_, reached, rfl, (completed_runs_accounted .least made _ [] (by decide +kernel) firstId _ reached
    rfl).1⟩

/-- The first of two orders in flight comes back, and the run is completed without the other one. -/
theorem run_completed_early :
    ¬ ∀ (turns later : List ReactionTurn) (eventId : CodePoints) (state : EventRunState),
      (turns.foldl (turn .least)
        (start (reactorCoordinator [panicNews firstId 0 (by decide)]))).coordinator.runs.get?
          eventId = some state →
        state.completed = true →
          state.submitted + state.dropped = state.planned ∧
          ((turns ++ later).foldl (turn .least)
            (start (reactorCoordinator [panicNews firstId 0 (by decide)]))).coordinator.runs.get?
              eventId = some state := by
  intro claimed
  -- One order is submitted and none is dropped, but the run is marked as completed.
  have early := claimed [.beforeTick 1 0, .nextIntents "reactor" 1 ⟨"005930", [], []⟩,
    .afterSubmit 1 true 0] [] firstId ⟨firstId, 2, 1, 0, 1, true, true, {"reactor"}⟩
    (by decide +kernel) rfl
  exact absurd early.1 (by decide)

end ReactionRun

end StockMarket
