import StockMarket.Participants.PlanShape
import StockMarket.Runner.Coordinator

/-! What a coordinator knows of its traders, and how the orders of each event add up. -/

namespace StockMarket

/-- The plan that each user follows, with the id of the event that it came from. -/
abbrev Holdings := String → Option (CodePoints × ResolvedReactionPlan)

/-- A new plan is followed by every user that it has a reaction for. -/
def Holdings.take (held : Holdings) (eventId : CodePoints) (reactions : List ResolvedReactionPlan) :
    Holdings :=
  reactions.foldl (fun held reaction =>
    Function.update held reaction.userId (some (eventId, reaction))) held

/-- Plans are followed one after the other. -/
def Holdings.follow (held : Holdings) (plans : List ResolvedEventPlan) : Holdings :=
  plans.foldl (fun held plan => held.take plan.event.eventId plan.reactions) held

/-- What the users follow after a number of plans. -/
def latestPlans (plans : List ResolvedEventPlan) : Holdings :=
  Holdings.follow (fun _ => none) plans

/-- Plans are followed one list after the other. -/
theorem Holdings.follow_append (held : Holdings) (first second : List ResolvedEventPlan) :
    held.follow (first ++ second) = (held.follow first).follow second :=
  List.foldl_append

namespace EventCoordinator

/-- What the run of an event has counted, nothing when there is no run. -/
def count (coordinator : EventCoordinator) (field : EventRunState → Nat) (eventId : CodePoints) : Nat :=
  ((coordinator.runs.get? eventId).map field).getD 0

/-- The traders, their events, and the runs know of each other. -/
structure Coordinated (held : Holdings) (coordinator : EventCoordinator) : Prop where
  named : ∀ {userId trader}, coordinator.traders.get? userId = some trader → trader.userId = userId
  follows : ∀ {userId trader}, coordinator.traders.get? userId = some trader →
    trader.plan = (held userId).map Prod.snd
  assigned : ∀ userId, coordinator.traderEvent.get? userId =
    ((held userId).filter fun entry => entry.2.activated).map Prod.fst
  listed : ∀ {userId eventId}, coordinator.traderEvent.get? userId = some eventId →
    ∃ run, coordinator.runs.get? eventId = some run ∧ userId ∈ run.userIds
  lagged : ∀ {eventId run}, coordinator.runs.get? eventId = some run →
    (coordinator.eventMaxLag.get? eventId).isSome = true

/-- Planned orders are submitted, dropped, left to their traders, or in flight, by their events. -/
structure Balanced (flying : List (Option CodePoints)) (coordinator : EventCoordinator) : Prop where
  each : ∀ eventId, coordinator.count EventRunState.planned eventId =
    coordinator.count EventRunState.submitted eventId +
      coordinator.count EventRunState.dropped eventId + coordinator.remainingOf eventId +
        flying.count (some eventId)
  overall : coordinator.reactionsPlanned = coordinator.reactionsSubmitted +
    coordinator.reactionsDropped +
      coordinator.traders.total (fun _ trader => trader.remainingReactionOrders) + flying.length

/-- A trader that still has orders is left alone. -/
def Untouched (coordinator next : EventCoordinator) : Prop :=
  ∀ userId trader, coordinator.traders.get? userId = some trader →
    0 < trader.remainingReactionOrders → next.traders.get? userId = some trader

/-- What two steps leave untouched is untouched. -/
theorem Untouched.trans {first second third : EventCoordinator} (before : Untouched first second)
    (after : Untouched second third) : Untouched first third :=
  fun userId trader found busy => after userId trader (before userId trader found busy) busy

/-- A part of a call that counts no order as back, after which the users follow given plans. -/
structure Accounted (held : Holdings) (coordinator next : EventCoordinator) : Prop where
  coordinated : Coordinated held next
  balanced : ∀ {flying}, Balanced flying coordinator → Balanced flying next
  planner : next.planner = coordinator.planner
  liveEvents : next.liveEvents = coordinator.liveEvents

/-- Accounts are carried on from step to step. -/
theorem Accounted.trans {held held' : Holdings} {first second third : EventCoordinator}
    (before : Accounted held first second) (after : Accounted held' second third) :
    Accounted held' first third where
  coordinated := after.coordinated
  balanced := after.balanced ∘ before.balanced
  planner := after.planner.trans before.planner
  liveEvents := after.liveEvents.trans before.liveEvents

section Laws

variable {held : Holdings} {coordinator next : EventCoordinator} {flying : List (Option CodePoints)}

/-- A trader that still has orders follows a plan of the event to which it is assigned. -/
theorem Coordinated.busy (ok : Coordinated held coordinator) {userId : String}
    {trader : EventReactiveTrader} (found : coordinator.traders.get? userId = some trader)
    (busy : 0 < trader.remainingReactionOrders) :
    ∃ eventId plan, held userId = some (eventId, plan) ∧ trader.plan = some plan ∧
      plan.activated = true ∧ coordinator.traderEvent.get? userId = some eventId := by
  have follows := ok.follows found
  have assigned := ok.assigned userId
  unfold EventReactiveTrader.remainingReactionOrders EventReactiveTrader.activePlan at busy
  -- A trader without a plan has nothing left.
  cases holding : held userId with
  | none =>
    rw [follows, holding] at busy
    exact absurd busy (Nat.lt_irrefl 0)
  | some entry =>
    obtain ⟨eventId, plan⟩ := entry
    rw [holding, Option.map_some] at follows
    rw [follows, Option.filter_some] at busy
    -- Neither has one that does not react.
    cases active : plan.activated with
    | false =>
      rw [active] at busy
      exact absurd busy (Nat.lt_irrefl 0)
    | true =>
      rw [holding, Option.filter_some, if_pos active, Option.map_some] at assigned
      exact ⟨eventId, plan, rfl, follows, active, assigned⟩

/-- Traders that are not assigned to an event have nothing left. -/
theorem Coordinated.idle (ok : Coordinated held coordinator) {userId : String}
    {trader : EventReactiveTrader} (found : coordinator.traders.get? userId = some trader)
    (free : coordinator.traderEvent.get? userId = none) : trader.remainingReactionOrders = 0 := by
  by_contra busy
  obtain ⟨eventId, _, _, _, _, assigned⟩ := ok.busy found (Nat.pos_of_ne_zero busy)
  rw [free] at assigned
  cases assigned

/-- The runs may change as long as they keep their users. -/
theorem Coordinated.modify (ok : Coordinated held coordinator)
    {eventId : CodePoints} {change : EventRunState → EventRunState}
    (traders : next.traders = coordinator.traders)
    (traderEvent : next.traderEvent = coordinator.traderEvent)
    (eventMaxLag : next.eventMaxLag = coordinator.eventMaxLag)
    (runs : next.runs = coordinator.runs.modify eventId change)
    (users : ∀ run, (change run).userIds = run.userIds) : Coordinated held next where
  named := traders ▸ ok.named
  follows := traders ▸ ok.follows
  assigned := traderEvent ▸ ok.assigned
  listed := by
    intro userId other found
    rw [traderEvent] at found
    -- The event has its run as before, perhaps a changed one with the same users.
    obtain ⟨run, stored, inside⟩ := ok.listed found
    rw [runs, Dict.get?_modify, stored]
    split
    · exact ⟨change run, rfl, (users run).symm ▸ inside⟩
    · exact ⟨run, rfl, inside⟩
  lagged := by
    intro other run found
    rw [runs, Dict.get?_modify] at found
    rw [eventMaxLag]
    split at found
    · obtain ⟨before, stored, _⟩ := Option.map_eq_some_iff.mp found
      exact ok.lagged stored
    · exact ok.lagged found

/-- What is counted by a changed run. -/
theorem count_modify {field : EventRunState → Nat} {eventId other : CodePoints}
    {change : EventRunState → EventRunState} {run : EventRunState}
    (runs : next.runs = coordinator.runs.modify eventId change)
    (found : coordinator.runs.get? eventId = some run) :
    next.count field other =
      if other = eventId then field (change run) else coordinator.count field other := by
  -- Only the run of the identifier is changed.
  unfold count
  rw [runs, Dict.get?_modify]
  split
  · rename_i same
    rw [same, found]
    rfl
  · rfl

/-- A count that a change does not concern stays. -/
theorem count_modify_same {field : EventRunState → Nat} {eventId : CodePoints} (other : CodePoints)
    {change : EventRunState → EventRunState}
    (runs : next.runs = coordinator.runs.modify eventId change)
    (same : ∀ run, field (change run) = field run) :
    next.count field other = coordinator.count field other := by
  -- The change of a run leaves what is counted.
  unfold count
  rw [runs, Dict.get?_modify]
  split
  · rw [Option.map_map, Function.comp_def]
    simp only [same]
  · rfl

/-- Recorded drops leave everything in place that the traders depend on. -/
theorem Coordinated.recordDrops (ok : Coordinated held coordinator) (eventId : CodePoints)
    (dropped : Nat) : Coordinated held (coordinator.recordDrops eventId dropped) :=
  ok.modify rfl rfl rfl rfl fun _ => rfl

/-- A counted submission leaves everything in place that the traders depend on. -/
theorem Coordinated.recordSubmit (ok : Coordinated held coordinator) (eventId : CodePoints)
    (lag : Int) : Coordinated held (coordinator.recordSubmit eventId lag) :=
  ok.modify rfl rfl rfl rfl fun _ => rfl

/-- Completing a run marks it, and nothing else. -/
theorem Coordinated.maybeComplete (ok : Coordinated held coordinator) (eventId : CodePoints) :
    Coordinated held (coordinator.maybeComplete eventId) := by
  -- In all three branches the run lists the same users.
  refine ok.modify rfl rfl rfl rfl fun run => ?_
  split_ifs
  · rfl
  · rfl
  · rfl

/-- A completed run has counted what it had counted. -/
theorem count_maybeComplete {field : EventRunState → Nat}
    (plain : ∀ run : EventRunState, field { run with completed := true } = field run)
    (eventId other : CodePoints) :
    (coordinator.maybeComplete eventId).count field other = coordinator.count field other := by
  refine count_modify_same other rfl fun run => ?_
  -- A run is marked, or it stays as it is.
  split_ifs
  · rfl
  · rfl
  · exact plain run

/-- Completing a run does not count anything. -/
theorem Balanced.maybeComplete (balanced : Balanced flying coordinator) (eventId : CodePoints) :
    Balanced flying (coordinator.maybeComplete eventId) where
  each := by
    intro other
    rw [count_maybeComplete (fun _ => rfl), count_maybeComplete (fun _ => rfl),
      count_maybeComplete (fun _ => rfl)]
    exact balanced.each other
  overall := balanced.overall

/-- All runs may be completed one after the other, and the traders are left alone. -/
theorem maybeComplete_all (eventIds : List CodePoints) : ∀ coordinator : EventCoordinator,
    Coordinated held coordinator →
      Accounted held coordinator (eventIds.foldl EventCoordinator.maybeComplete coordinator) ∧
        (eventIds.foldl EventCoordinator.maybeComplete coordinator).traders =
          coordinator.traders := by
  induction eventIds with
  | nil => exact fun coordinator ok => ⟨⟨ok, id, rfl, rfl⟩, rfl⟩
  | cons eventId later ih =>
    intro coordinator ok
    -- One run after the other is completed, and each keeps what the next one needs.
    have first : Accounted held coordinator (coordinator.maybeComplete eventId) :=
      ⟨ok.maybeComplete eventId, fun balanced => balanced.maybeComplete eventId, rfl, rfl⟩
    obtain ⟨rest, traders⟩ := ih _ first.coordinated
    exact ⟨first.trans rest, traders⟩

/-- Every trader keeps its plan, and orders that are consumed stay consumed. -/
def Progressed (coordinator next : EventCoordinator) : Prop :=
  ∀ userId trader, coordinator.traders.get? userId = some trader →
    ∃ later, next.traders.get? userId = some later ∧ later.plan = trader.plan ∧
      trader.consumed <+: later.consumed

/-- Without a step, nothing has progressed. -/
theorem Progressed.rfl : Progressed coordinator coordinator :=
  fun _ trader found => ⟨trader, found, Eq.refl _, List.prefix_rfl⟩

/-- Progress adds up. -/
theorem Progressed.trans {third : EventCoordinator} (before : Progressed coordinator next)
    (after : Progressed next third) : Progressed coordinator third := by
  intro userId trader found
  obtain ⟨middle, found, same, more⟩ := before userId trader found
  obtain ⟨last, found, same', more'⟩ := after userId middle found
  exact ⟨last, found, same'.trans same, more.trans more'⟩

/-- One trader that keeps its plan may consume more of it. -/
theorem Progressed.set {userId : String} {trader later : EventReactiveTrader}
    (found : coordinator.traders.get? userId = some trader) (plan : later.plan = trader.plan)
    (consumed : trader.consumed <+: later.consumed)
    (traders : next.traders = coordinator.traders.set userId later) :
    Progressed coordinator next := by
  intro other before stored
  rw [traders, Dict.get?_set]
  -- The trader itself follows its plan further, and the others stay.
  split
  · rename_i same
    rw [same, found] at stored
    cases stored
    exact ⟨later, Eq.refl _, plan, consumed⟩
  · exact ⟨before, stored, Eq.refl _, List.prefix_rfl⟩

/-- A trader that keeps its plan stays coordinated. -/
theorem Coordinated.set (ok : Coordinated held coordinator) {userId : String}
    {trader later : EventReactiveTrader}
    (found : coordinator.traders.get? userId = some trader)
    (settings : later.settings = trader.settings) (plan : later.plan = trader.plan) :
    Coordinated held { coordinator with traders := coordinator.traders.set userId later } where
  named := by
    intro other current stored
    rw [Dict.get?_set] at stored
    split at stored
    · -- It is the trader that has been replaced, under the same user.
      rename_i same
      cases stored
      rw [same, ← ok.named found]
      exact congrArg TraderSettings.userId settings
    · exact ok.named stored
  follows := by
    intro other current stored
    rw [Dict.get?_set] at stored
    split at stored
    · rename_i same
      cases stored
      rw [same, ← ok.follows found]
      exact plan
    · exact ok.follows stored
  assigned := ok.assigned
  listed := ok.listed
  lagged := ok.lagged

/-- What one trader has left counts for the event that it is assigned to. -/
def share (coordinator : EventCoordinator) (eventId : CodePoints) (userId : String)
    (trader : EventReactiveTrader) : Nat :=
  if coordinator.traderEvent.get? userId = some eventId then trader.remainingReactionOrders else 0

/-- A change of one trader and of its event moves only the share of that trader. -/
theorem remainingOf_set {userId : String} {trader later : EventReactiveTrader}
    (found : coordinator.traders.get? userId = some trader)
    (traders : next.traders = coordinator.traders.set userId later)
    (others : ∀ other, other ≠ userId →
      next.traderEvent.get? other = coordinator.traderEvent.get? other) (eventId : CodePoints) :
    next.remainingOf eventId + coordinator.share eventId userId trader =
      coordinator.remainingOf eventId + next.share eventId userId later := by
  -- Only the trader itself has another event now.
  have alike : ∀ other value, other ≠ userId →
      coordinator.share eventId other value = next.share eventId other value := by
    intro other value differs
    rw [share, share, others other differs]
  show next.traders.total (next.share eventId) + _ = coordinator.traders.total _ + _
  rw [traders]
  exact Dict.total_set found later alike

/-- A change of one trader moves what all traders have left by what it has left. -/
theorem remaining_set {userId : String} {trader : EventReactiveTrader}
    (found : coordinator.traders.get? userId = some trader) (later : EventReactiveTrader) :
    (coordinator.traders.set userId later).total (fun _ trader => trader.remainingReactionOrders) +
        trader.remainingReactionOrders =
      coordinator.traders.total (fun _ trader => trader.remainingReactionOrders) +
        later.remainingReactionOrders :=
  Dict.total_set found later fun _ _ _ => Eq.refl _

/-- Nothing moves when a trader is replaced by one that has as much left. -/
theorem Balanced.idle (balanced : Balanced flying coordinator) {userId : String}
    {trader later : EventReactiveTrader} (found : coordinator.traders.get? userId = some trader)
    (changed : next = { coordinator with traders := coordinator.traders.set userId later })
    (same : later.remainingReactionOrders = trader.remainingReactionOrders) :
    Balanced flying next where
  each := by
    intro other
    have left := remainingOf_set found (congrArg EventCoordinator.traders changed)
      (fun _ _ => by rw [changed]) other
    have before := balanced.each other
    -- The trader counts as much as before for every event.
    have shares : next.share other userId later = coordinator.share other userId trader := by
      rw [share, share, same, changed]
    have counts : ∀ field, next.count field other = coordinator.count field other :=
      fun field => by rw [changed, count, count]
    rw [counts, counts, counts]
    omega
  overall := by
    have before := balanced.overall
    have totals := remaining_set found later
    rw [changed]
    simp only
    omega

/-- Drops are counted for the run of their event. -/
theorem count_recordDrops {eventId : CodePoints} {run : EventRunState}
    (found : coordinator.runs.get? eventId = some run) (dropped : Nat) (other : CodePoints) :
    (coordinator.recordDrops eventId dropped).count EventRunState.planned other =
        coordinator.count EventRunState.planned other ∧
      (coordinator.recordDrops eventId dropped).count EventRunState.submitted other =
        coordinator.count EventRunState.submitted other ∧
      (coordinator.recordDrops eventId dropped).count EventRunState.dropped other =
        coordinator.count EventRunState.dropped other + if other = eventId then dropped else 0 := by
  refine ⟨count_modify_same other (Eq.refl _) fun _ => Eq.refl _,
    count_modify_same other (Eq.refl _) fun _ => Eq.refl _, ?_⟩
  rw [count_modify (Eq.refl _) found]
  -- Only the run of the event counts the drops.
  split_ifs with same
  · rw [same, count, found]
    exact Eq.refl _
  · exact (Nat.add_zero _).symm

/-- A submission is counted for the run of its event. -/
theorem count_recordSubmit {eventId : CodePoints} {run : EventRunState}
    (found : coordinator.runs.get? eventId = some run) (lag : Int) (other : CodePoints) :
    (coordinator.recordSubmit eventId lag).count EventRunState.planned other =
        coordinator.count EventRunState.planned other ∧
      (coordinator.recordSubmit eventId lag).count EventRunState.submitted other =
        coordinator.count EventRunState.submitted other + (if other = eventId then 1 else 0) ∧
      (coordinator.recordSubmit eventId lag).count EventRunState.dropped other =
        coordinator.count EventRunState.dropped other := by
  refine ⟨count_modify_same other (Eq.refl _) fun _ => Eq.refl _, ?_,
    count_modify_same other (Eq.refl _) fun _ => Eq.refl _⟩
  -- The run of the event gains one, and the others gain nothing.
  rw [count_modify (Eq.refl _) found]
  split_ifs with same
  · rw [same, count, found]
    exact Eq.refl _
  · exact (Nat.add_zero _).symm

/-- One order less is in flight for the event that it comes back to. -/
theorem count_back {eventId : CodePoints} {later : List (Option CodePoints)}
    (back : (some eventId :: later).Perm flying) (other : CodePoints) :
    flying.count (some other) =
      later.count (some other) + if other = eventId then 1 else 0 := by
  rw [← back.count_eq, List.count_cons]
  simp only [beq_iff_eq, Option.some.injEq]
  simp only [eq_comm]

/-- An order that comes back as failed is dropped. -/
theorem Balanced.recordDrop (balanced : Balanced flying coordinator) {eventId : CodePoints}
    {run : EventRunState} {later : List (Option CodePoints)}
    (found : coordinator.runs.get? eventId = some run)
    (back : (some eventId :: later).Perm flying) :
    Balanced later (coordinator.recordDrops eventId 1) where
  each := by
    intro other
    have before := balanced.each other
    obtain ⟨planned, submitted, dropped⟩ := count_recordDrops found 1 other
    have same : (coordinator.recordDrops eventId 1).remainingOf other =
      coordinator.remainingOf other := Eq.refl _
    -- The order is not in flight any more, and counts as dropped.
    rw [count_back back] at before
    rw [planned, submitted, dropped, same]
    omega
  overall := by
    have before := balanced.overall
    have one := back.length_eq
    rw [List.length_cons] at one
    simp only [EventCoordinator.recordDrops]
    omega

/-- An order that comes back as submitted is counted so. -/
theorem Balanced.recordSubmit (balanced : Balanced flying coordinator) {eventId : CodePoints}
    {run : EventRunState} {later : List (Option CodePoints)}
    (found : coordinator.runs.get? eventId = some run)
    (back : (some eventId :: later).Perm flying) (lag : Int) :
    Balanced later (coordinator.recordSubmit eventId lag) where
  each := by
    intro other
    have before := balanced.each other
    obtain ⟨planned, submitted, dropped⟩ := count_recordSubmit found lag other
    have same : (coordinator.recordSubmit eventId lag).remainingOf other =
      coordinator.remainingOf other := Eq.refl _
    -- The order is not in flight any more, and counts as submitted.
    rw [count_back back] at before
    rw [planned, submitted, dropped, same]
    omega
  overall := by
    have before := balanced.overall
    have one := back.length_eq
    rw [List.length_cons] at one
    simp only [EventCoordinator.recordSubmit]
    omega

/-- Orders that a trader gives up are counted for the event to which it is assigned. -/
theorem Balanced.transfer {flying' : List (Option CodePoints)} (balanced : Balanced flying coordinator)
    {userId : String} {eventId : CodePoints} {trader later : EventReactiveTrader} {moved : Nat}
    (found : coordinator.traders.get? userId = some trader)
    (assigned : coordinator.traderEvent.get? userId = some eventId)
    (traders : next.traders = coordinator.traders.set userId later)
    (traderEvent : next.traderEvent = coordinator.traderEvent)
    (given : later.remainingReactionOrders + moved = trader.remainingReactionOrders)
    (planned : next.reactionsPlanned = coordinator.reactionsPlanned ∧
      ∀ other, next.count EventRunState.planned other = coordinator.count EventRunState.planned other)
    (settled : ∀ other, next.count EventRunState.submitted other +
        next.count EventRunState.dropped other + flying'.count (some other) =
      coordinator.count EventRunState.submitted other +
        coordinator.count EventRunState.dropped other + flying.count (some other) +
          if other = eventId then moved else 0)
    (overall : next.reactionsSubmitted + next.reactionsDropped + flying'.length =
      coordinator.reactionsSubmitted + coordinator.reactionsDropped + flying.length + moved) :
    Balanced flying' next where
  each := by
    intro other
    have before := balanced.each other
    have same := planned.2 other
    have more := settled other
    have left := remainingOf_set found traders (fun _ _ => by rw [traderEvent]) other
    simp only [share, traderEvent, assigned, Option.some.injEq] at left
    -- What the trader gives up is missing from its own event, and settled there.
    by_cases mine : eventId = other
    · rw [if_pos mine, if_pos mine] at left
      rw [if_pos mine.symm] at more
      omega
    · rw [if_neg mine, if_neg mine] at left
      rw [if_neg fun same => mine same.symm] at more
      omega
  overall := by
    -- The same holds for all traders and all events together.
    have before := balanced.overall
    have totals := remaining_set found later
    rw [traders]
    omega

/-- The orders of one trader that are dropped as too late are counted for its event. -/
theorem dropLateOrdersOf_spec (ok : Coordinated held coordinator) (elapsedMs tick : Int)
    (userId : String) :
    Accounted held coordinator (coordinator.dropLateOrdersOf elapsedMs tick userId) ∧
      Progressed coordinator (coordinator.dropLateOrdersOf elapsedMs tick userId) := by
  unfold dropLateOrdersOf
  split
  · -- The trader is assigned to an event, by whose time its orders are late.
    rename_i trader eventId found assigned
    simp only
    generalize (if eventId ∈ coordinator.liveEventIds then tick * coordinator.tickIntervalMs
      else elapsedMs) = schedulerMs
    generalize (coordinator.eventMaxLag.get? eventId).getD 0 = lag
    obtain ⟨settings, plan, rest⟩ :=
      trader.dropLateOrders_spec schedulerMs coordinator.tickIntervalMs lag
    have consumed := trader.dropLateOrders_consumed schedulerMs coordinator.tickIntervalMs lag
    generalize trader.dropLateOrders schedulerMs coordinator.tickIntervalMs lag = after
      at settings plan rest consumed
    obtain ⟨later, dropped⟩ := after
    have kept := ok.set found settings plan
    obtain ⟨run, stored, _⟩ := ok.listed assigned
    simp only at rest ⊢
    split_ifs with none_dropped
    · -- Nothing is late, and the trader moves on with as much as it had.
      refine ⟨⟨kept, fun balanced => ?_, Eq.refl _, Eq.refl _⟩,
        Progressed.set found plan consumed (Eq.refl _)⟩
      refine balanced.transfer found assigned (Eq.refl _) (Eq.refl _) rest
        ⟨Eq.refl _, fun _ => Eq.refl _⟩ (fun other => ?_) ?_
      · rw [none_dropped, ite_self]
        exact Eq.refl _
      · rw [none_dropped]
        exact Eq.refl _
    · -- What is late is moved from the trader to the drops of its event.
      refine ⟨⟨kept.recordDrops eventId dropped, fun balanced => ?_, Eq.refl _, Eq.refl _⟩,
        Progressed.set found plan consumed (Eq.refl _)⟩
      have counted := count_recordDrops (show
        { coordinator with traders := coordinator.traders.set userId later }.runs.get? eventId =
          some run from stored) dropped
      refine balanced.transfer found assigned (Eq.refl _) (Eq.refl _) rest
        ⟨Eq.refl _, fun other => (counted other).1⟩ (fun other => ?_) ?_
      · obtain ⟨_, submitted, dropped⟩ := counted other
        rw [submitted, dropped]
        simp only [count]
        omega
      · simp only [EventCoordinator.recordDrops]
        omega
  · -- A trader without an event has nothing to drop.
    exact ⟨⟨ok, id, Eq.refl _, Eq.refl _⟩, Progressed.rfl⟩

/-- All late orders are counted for their events. -/
theorem dropLateOrders_spec (ok : Coordinated held coordinator) (elapsedMs tick : Int) :
    Accounted held coordinator (coordinator.dropLateOrders elapsedMs tick) ∧
      Progressed coordinator (coordinator.dropLateOrders elapsedMs tick) := by
  -- The induction is on the users whose orders are looked through.
  unfold dropLateOrders
  generalize coordinator.traders.keys = userIds
  induction userIds generalizing coordinator with
  | nil => exact ⟨⟨ok, id, Eq.refl _, Eq.refl _⟩, Progressed.rfl⟩
  | cons userId later ih =>
    obtain ⟨first, first_progress⟩ := dropLateOrdersOf_spec ok elapsedMs tick userId
    obtain ⟨rest, rest_progress⟩ := ih first.coordinated
    exact ⟨first.trans rest, first_progress.trans rest_progress⟩

/-- A trader without orders left is taken off its event without any drop. -/
theorem abandonPreviousEvent_idle {trader : EventReactiveTrader} {userId : String}
    (idle : trader.remainingReactionOrders = 0) :
    coordinator.abandonPreviousEvent trader userId =
      ({ coordinator with traderEvent := coordinator.traderEvent.erase userId }, 0) := by
  unfold abandonPreviousEvent
  simp only [idle, if_true]
  split <;> exact Eq.refl _

/-- What a trader is handed: its plan, and its event when it reacts. -/
def handOut (coordinator : EventCoordinator) (eventId : CodePoints) (reaction : ResolvedReactionPlan)
    (applied : EventReactiveTrader) : EventCoordinator :=
  activate { coordinator with
    traderEvent := coordinator.traderEvent.erase reaction.userId
    traders := coordinator.traders.set reaction.userId applied } eventId reaction

/-- The events of the traders once one of them has been handed its plan. -/
theorem handOut_traderEvent (eventId : CodePoints) (reaction : ResolvedReactionPlan)
    (applied : EventReactiveTrader) (other : String) :
    (coordinator.handOut eventId reaction applied).traderEvent.get? other =
      if other = reaction.userId then (if reaction.activated then some eventId else none)
      else coordinator.traderEvent.get? other := by
  unfold handOut activate
  -- A trader that does not react is taken off its event.
  cases reaction.activated with
  | false =>
    rw [if_pos (by decide), Dict.get?_erase]
    exact Eq.refl _
  | true =>
    rw [if_neg (by decide), Dict.get?_set, Dict.get?_erase]
    -- A trader that reacts is put on the new event.
    by_cases same : other = reaction.userId
    · rw [if_pos same, if_pos same]
      exact Eq.refl _
    · rw [if_neg same, if_neg same, if_neg same]

/-- The traders once one of them has been handed its plan. -/
theorem handOut_traders (eventId : CodePoints) (reaction : ResolvedReactionPlan)
    (applied : EventReactiveTrader) :
    (coordinator.handOut eventId reaction applied).traders =
      coordinator.traders.set reaction.userId applied := by
  unfold handOut activate
  split <;> exact Eq.refl _

/-- The runs once a trader has been handed its plan: they list it, and count what it plans. -/
theorem handOut_runs {eventId : CodePoints} {run : EventRunState}
    (started : coordinator.runs.get? eventId = some run) (reaction : ResolvedReactionPlan)
    (applied : EventReactiveTrader) :
    (∀ other found, coordinator.runs.get? other = some found →
      ∃ later, (coordinator.handOut eventId reaction applied).runs.get? other = some later ∧
        found.userIds ⊆ later.userIds) ∧
    (∀ other found, (coordinator.handOut eventId reaction applied).runs.get? other = some found →
      ∃ before, coordinator.runs.get? other = some before) ∧
    (reaction.activated = true → ∃ later,
      (coordinator.handOut eventId reaction applied).runs.get? eventId = some later ∧
        reaction.userId ∈ later.userIds) ∧
    ∀ other,
      (coordinator.handOut eventId reaction applied).count EventRunState.planned other =
        coordinator.count EventRunState.planned other +
          (if other = eventId ∧ reaction.activated = true then reaction.orderCount else 0) ∧
      (coordinator.handOut eventId reaction applied).count EventRunState.submitted other =
        coordinator.count EventRunState.submitted other ∧
      (coordinator.handOut eventId reaction applied).count EventRunState.dropped other =
        coordinator.count EventRunState.dropped other := by
  unfold handOut activate
  cases active : reaction.activated with
  -- Without a reaction the runs are left alone.
  | false =>
    rw [if_pos (by decide)]
    refine ⟨fun other found stored => ⟨found, stored, Finset.Subset.refl _⟩,
      fun other found stored => ⟨found, stored⟩, nofun, fun other => ?_⟩
    rw [if_neg (by simp)]
    exact ⟨Eq.refl _, Eq.refl _, Eq.refl _⟩
  | true =>
    rw [if_neg (by decide)]
    refine ⟨fun other found stored => ?_, fun other found stored => ?_, fun _ => ?_,
      fun other => ⟨?_, count_modify_same other (Eq.refl _) fun _ => Eq.refl _,
        count_modify_same other (Eq.refl _) fun _ => Eq.refl _⟩⟩
    · -- The run of the event gets one more user, and loses none.
      rw [Dict.get?_modify, stored]
      split_ifs
      · exact ⟨_, Eq.refl _, Finset.subset_insert _ _⟩
      · exact ⟨found, Eq.refl _, Finset.Subset.refl _⟩
    · rw [Dict.get?_modify] at stored
      split_ifs at stored
      · obtain ⟨before, found, _⟩ := Option.map_eq_some_iff.mp stored
        exact ⟨before, found⟩
      · exact ⟨found, stored⟩
    · rw [Dict.get?_modify, if_pos (Eq.refl _), started]
      exact ⟨_, Eq.refl _, Finset.mem_insert_self _ _⟩
    · -- The run counts the orders that the trader has been handed.
      rw [count_modify (Eq.refl _) started]
      by_cases same : other = eventId
      · rw [if_pos same, if_pos ⟨same, Eq.refl _⟩, same, count, started]
        exact Eq.refl _
      · rw [if_neg same, if_neg fun both => same both.1]
        exact (Nat.add_zero _).symm

/-- Handing out a plan counts its orders overall, and concerns no submission, planner or lag. -/
theorem handOut_register (eventId : CodePoints) (reaction : ResolvedReactionPlan)
    (applied : EventReactiveTrader) :
    (coordinator.handOut eventId reaction applied).reactionsPlanned =
      coordinator.reactionsPlanned + (if reaction.activated then reaction.orderCount else 0) ∧
    (coordinator.handOut eventId reaction applied).reactionsSubmitted =
      coordinator.reactionsSubmitted ∧
    (coordinator.handOut eventId reaction applied).reactionsDropped =
      coordinator.reactionsDropped ∧
    (coordinator.handOut eventId reaction applied).planner = coordinator.planner ∧
    (coordinator.handOut eventId reaction applied).liveEvents = coordinator.liveEvents ∧
    (coordinator.handOut eventId reaction applied).eventMaxLag = coordinator.eventMaxLag := by
  unfold handOut activate
  cases reaction.activated <;>
    exact ⟨Eq.refl _, Eq.refl _, Eq.refl _, Eq.refl _, Eq.refl _, Eq.refl _⟩

/-- A trader that has been handed its plan follows it, and is assigned to its event. -/
theorem handOut_coordinated (ok : Coordinated held coordinator) {eventId : CodePoints}
    {run : EventRunState} {reaction : ResolvedReactionPlan} {trader applied : EventReactiveTrader}
    (started : coordinator.runs.get? eventId = some run)
    (taken : trader.applyPlan reaction = .ok applied) :
    Coordinated (Function.update held reaction.userId (some (eventId, reaction)))
      (coordinator.handOut eventId reaction applied) := by
  obtain ⟨own, _, settings, plan, _⟩ := EventReactiveTrader.applyPlan_ok taken
  obtain ⟨kept, known, lists, _⟩ := handOut_runs started reaction applied
  obtain ⟨_, _, _, _, _, lags⟩ := coordinator.handOut_register eventId reaction applied
  have events := coordinator.handOut_traderEvent eventId reaction applied
  have traders := coordinator.handOut_traders eventId reaction applied
  refine ⟨?_, ?_, ?_, ?_, ?_⟩
  · -- Every trader is still kept under its own user.
    intro userId current stored
    rw [traders, Dict.get?_set] at stored
    split_ifs at stored with same
    · cases stored
      rw [same, own]
      exact congrArg TraderSettings.userId settings
    · exact ok.named stored
  · -- The trader follows its new plan, and the others the plans that they had.
    intro userId current stored
    rw [traders, Dict.get?_set] at stored
    split_ifs at stored with same
    · cases stored
      rw [same, Function.update_self]
      exact plan
    · rw [Function.update_of_ne same]
      exact ok.follows stored
  · -- The trader is assigned to the new event exactly when it reacts.
    intro userId
    rw [events]
    by_cases same : userId = reaction.userId
    · rw [if_pos same, same, Function.update_self, Option.filter_some]
      cases reaction.activated <;> exact Eq.refl _
    · rw [if_neg same, Function.update_of_ne same]
      exact ok.assigned userId
  · -- The run of the new event lists the trader, and the others are listed as before.
    intro userId other assigned
    rw [events] at assigned
    split_ifs at assigned with same active
    · cases assigned
      rw [same]
      exact lists active
    · obtain ⟨before, stored, inside⟩ := ok.listed assigned
      obtain ⟨later, stored, more⟩ := kept other before stored
      exact ⟨later, stored, more inside⟩
  · -- Every run is one that had a lag already.
    intro other found stored
    obtain ⟨before, stored⟩ := known other found stored
    rw [lags]
    exact ok.lagged stored

/-- A trader that had nothing left adds its new orders to the planned ones and to those left. -/
theorem handOut_balanced {flying : List (Option CodePoints)} (balanced : Balanced flying coordinator)
    {eventId : CodePoints} {run : EventRunState} {reaction : ResolvedReactionPlan}
    {trader applied : EventReactiveTrader} (started : coordinator.runs.get? eventId = some run)
    (found : coordinator.traders.get? reaction.userId = some trader)
    (idle : trader.remainingReactionOrders = 0) (taken : trader.applyPlan reaction = .ok applied) :
    Balanced flying (coordinator.handOut eventId reaction applied) := by
  obtain ⟨_, _, _, _, planned⟩ := EventReactiveTrader.applyPlan_ok taken
  obtain ⟨_, _, _, counts⟩ := handOut_runs started reaction applied
  obtain ⟨overall, submitted, dropped, _⟩ := coordinator.handOut_register eventId reaction applied
  have events := coordinator.handOut_traderEvent eventId reaction applied
  have traders := coordinator.handOut_traders eventId reaction applied
  refine ⟨fun other => ?_, ?_⟩
  · have before := balanced.each other
    obtain ⟨planned_count, submitted_count, dropped_count⟩ := counts other
    -- The trader has no share before, and what it plans afterwards.
    have left := remainingOf_set found traders (fun user differs => by
      rw [events, if_neg differs]) other
    simp only [share, events, if_true, idle, ite_self] at left
    rw [planned] at left
    rw [planned_count, submitted_count, dropped_count]
    cases active : reaction.activated with
    | false =>
      simp only [active, Bool.false_eq_true, if_false, and_false, ite_self] at left ⊢
      omega
    | true =>
      -- The count of this event grows by the orders of the reaction, and no other count does.
      by_cases same : eventId = other
      · simp only [active, same, if_true, and_self] at left ⊢
        omega
      · simp only [active, if_true, Option.some.injEq, same, Ne.symm same, if_false,
          and_true] at left ⊢
        omega
  · -- Over all events, the books change by the orders of the new plan.
    have before := balanced.overall
    have totals := remaining_set found applied
    rw [idle, planned] at totals
    rw [overall, submitted, dropped, traders]
    omega

/-- Handing a plan to a trader that has nothing left keeps the books. -/
theorem handOut_accounted (ok : Coordinated held coordinator) {eventId : CodePoints}
    {run : EventRunState} {reaction : ResolvedReactionPlan} {trader applied : EventReactiveTrader}
    (started : coordinator.runs.get? eventId = some run)
    (found : coordinator.traders.get? reaction.userId = some trader)
    (idle : trader.remainingReactionOrders = 0) (taken : trader.applyPlan reaction = .ok applied) :
    Accounted (Function.update held reaction.userId (some (eventId, reaction))) coordinator
      (coordinator.handOut eventId reaction applied) := by
  obtain ⟨_, _, _, planner, live, _⟩ := coordinator.handOut_register eventId reaction applied
  -- Nothing but the traders, their events and the runs is concerned.
  exact ⟨handOut_coordinated ok started taken,
    fun balanced => handOut_balanced balanced started found idle taken, planner, live⟩

/-- The first reaction is handed out to its trader, and the others follow. -/
theorem assignPlans_cons {eventId : CodePoints} {reaction : ResolvedReactionPlan}
    {trader applied : EventReactiveTrader}
    (found : coordinator.traders.get? reaction.userId = some trader)
    (idle : trader.remainingReactionOrders = 0) (taken : trader.applyPlan reaction = .ok applied)
    (later : List ResolvedReactionPlan) :
    assignPlans eventId coordinator (reaction :: later) =
      ((assignPlans eventId (coordinator.handOut eventId reaction applied) later).1,
        (assignPlans eventId (coordinator.handOut eventId reaction applied) later).2.map
          fun more => 0 + more) := by
  simp only [assignPlans, found, abandonPreviousEvent_idle idle, taken, handOut]

/-- Reactions of traders that have nothing left are handed out one by one, without any drop. -/
theorem assignPlans_spec {eventId : CodePoints} (reactions : List ResolvedReactionPlan) :
    ∀ {held : Holdings} {coordinator : EventCoordinator}, Coordinated held coordinator →
      (∃ run, coordinator.runs.get? eventId = some run) →
      (reactions.map ResolvedReactionPlan.userId).Nodup →
      (∀ reaction ∈ reactions, ∃ trader, coordinator.traders.get? reaction.userId = some trader ∧
        trader.remainingReactionOrders = 0 ∧ reaction.symbol = trader.symbol) →
      Accounted (held.take eventId reactions) coordinator
          (assignPlans eventId coordinator reactions).1 ∧
        (assignPlans eventId coordinator reactions).2 = .ok 0 ∧
        ∀ userId, userId ∉ reactions.map ResolvedReactionPlan.userId →
          (assignPlans eventId coordinator reactions).1.traders.get? userId =
            coordinator.traders.get? userId := by
  induction reactions with
  | nil =>
    intro held coordinator ok _ _ _
    exact ⟨⟨ok, id, Eq.refl _, Eq.refl _⟩, Eq.refl _, fun _ _ => Eq.refl _⟩
  | cons reaction later ih =>
    intro held coordinator ok started distinct free
    obtain ⟨trader, found, idle, traded⟩ := free reaction List.mem_cons_self
    -- The trader has the user and the symbol that the reaction is for.
    have applies : ∃ applied, trader.applyPlan reaction = .ok applied :=
      EventReactiveTrader.applyPlan_of_same (ok.named found).symm traded
    obtain ⟨applied, taken⟩ := applies
    obtain ⟨run, stored⟩ := started
    rw [List.map_cons, List.nodup_cons] at distinct
    have first := handOut_accounted ok stored found idle taken
    have traders := coordinator.handOut_traders eventId reaction applied
    obtain ⟨opened, still, _⟩ := (handOut_runs stored reaction applied).1 eventId run stored
    -- The traders of the later reactions are others.
    have others : ∀ other, other ≠ reaction.userId →
        (coordinator.handOut eventId reaction applied).traders.get? other =
          coordinator.traders.get? other := by
      intro other differs
      rw [traders, Dict.get?_set, if_neg differs]
    obtain ⟨rest, none_dropped, outside⟩ := ih first.coordinated ⟨opened, still⟩ distinct.2
      fun other member => by
        obtain ⟨current, stored, idle, traded⟩ := free other (List.mem_cons_of_mem _ member)
        have differs : other.userId ≠ reaction.userId := fun same =>
          distinct.1 (same ▸ List.mem_map_of_mem member)
        exact ⟨current, (others _ differs).trans stored, idle, traded⟩
    rw [assignPlans_cons found idle taken, none_dropped]
    refine ⟨first.trans rest, Eq.refl _, fun userId absent => ?_⟩
    -- A trader without a reaction is left alone by the first reaction and by all others.
    rw [List.map_cons, List.mem_cons, not_or] at absent
    exact (outside userId absent.2).trans (others userId absent.1)

/-- An opened run has counted nothing yet. -/
theorem Coordinated.openRun (ok : Coordinated held coordinator) (eventId : CodePoints) (lag : Int) :
    Accounted held coordinator (coordinator.openRun eventId lag) ∧
      ∃ run, (coordinator.openRun eventId lag).runs.get? eventId = some run := by
  unfold EventCoordinator.openRun
  cases started : coordinator.runs.get? eventId with
  -- The run was opened earlier, and only the lag is noted again.
  | some run =>
    refine ⟨⟨⟨ok.named, ok.follows, ok.assigned, ok.listed, ?_⟩,
      fun balanced => ⟨balanced.each, balanced.overall⟩, Eq.refl _, Eq.refl _⟩, run, started⟩
    intro other found stored
    rw [Dict.get?_set]
    split_ifs
    · exact Eq.refl _
    · exact ok.lagged stored
  -- The new run has no users and no counts.
  | none =>
    refine ⟨⟨⟨ok.named, ok.follows, ok.assigned, ?_, ?_⟩, fun balanced => ⟨?_, balanced.overall⟩,
      Eq.refl _, Eq.refl _⟩, .start eventId, ?_⟩
    · intro userId other assigned
      obtain ⟨run, stored, inside⟩ := ok.listed assigned
      -- A trader is assigned to an event with a run, which this event had not.
      have differs : other ≠ eventId := by
        intro same
        rw [same, started] at stored
        cases stored
      exact ⟨run, by rw [Dict.get?_set, if_neg differs, stored], inside⟩
    · intro other found stored
      rw [Dict.get?_set] at stored ⊢
      split_ifs at stored ⊢
      · exact Eq.refl _
      · exact ok.lagged stored
    · intro other
      have before := balanced.each other
      unfold count at before ⊢
      simp only [Dict.get?_set]
      split_ifs with same
      · rw [same, started] at before
        rw [same]
        exact before
      · exact before
    · rw [Dict.get?_set, if_pos (Eq.refl _)]

end Laws

end EventCoordinator

end StockMarket
