import StockMarket.Runner.TickClock

/-! Time that passes before the first tick, and the orders that are dropped for it. -/

namespace StockMarket

namespace EventCoordinator

section Drops

variable {G : Type} (random : RandomSource G)

/--
An order is dropped before a tick.

Its trader has neither emitted nor dropped it when the due events are applied, but has afterwards.
-/
def Dropped (coordinator : EventCoordinator) (tick now : Int) (userId : String) (eventId : CodePoints)
    (offset : Int) : Prop :=
  ∃ trader plan index later,
    (coordinator.applied random now).1.traders.get? userId = some trader ∧
    (coordinator.applied random now).1.traderEvent.get? userId = some eventId ∧
    trader.plan = some plan ∧ plan.orderTickOffsets[index]? = some offset ∧
    index ∉ trader.consumed ∧
    (coordinator.beforeTick random tick now).1.traders.get? userId = some later ∧
    index ∈ later.consumed

/-- Whether an order is dropped can be computed. -/
theorem dropped_iff (coordinator : EventCoordinator) (tick now : Int) (userId : String)
    (eventId : CodePoints) (offset : Int) :
    coordinator.Dropped random tick now userId eventId offset ↔
      (((coordinator.applied random now).1.traders.get? userId).any fun trader =>
        trader.plan.any fun plan =>
          ((coordinator.beforeTick random tick now).1.traders.get? userId).any fun later =>
            later.consumed.any fun index =>
              plan.orderTickOffsets[index]? = some offset ∧ index ∉ trader.consumed) = true ∧
      (coordinator.applied random now).1.traderEvent.get? userId = some eventId := by
  -- Both say the same, in another order.
  simp only [Option.any_eq_true, List.any_eq_true, decide_eq_true_eq]
  constructor
  · rintro ⟨trader, plan, index, later, found, assigned, follows, listed, there, stored, gone⟩
    exact ⟨⟨trader, found, plan, follows, later, stored, index, gone, listed, there⟩, assigned⟩
  · rintro ⟨⟨trader, found, plan, follows, later, stored, index, gone, listed, there⟩, assigned⟩
    exact ⟨trader, plan, index, later, found, assigned, follows, listed, there, stored, gone⟩

/-- Whether an order was dropped is read off the coordinator. -/
instance (coordinator : EventCoordinator) (tick now : Int) (userId : String) (eventId : CodePoints)
    (offset : Int) : Decidable (coordinator.Dropped random tick now userId eventId offset) :=
  decidable_of_iff _ (coordinator.dropped_iff random tick now userId eventId offset).symm

/--
Whether the orders of a candidate can be emitted before they are late, given the waiting time.

Under the id of a live event, lateness is a matter of the tick, whatever time has passed.
-/
def inTime (live : Bool) (tickIntervalMs tick elapsedMs : Int) (event : NewsShockEvent)
    (candidate : ReactionCandidate) : Bool :=
  let delay := random.drawnDelay event candidate
  let lag := event.preset.definition.maxSchedulerLagMs
  let waited := elapsedMs - (tick - 1) * tickIntervalMs
  startsAhead tickIntervalMs tick event.startsAfterMs delay &&
    if live then tickIntervalMs ≤ lag || 0 < event.startsAfterMs + delay
    else waited ≤ lag || 0 < event.startsAfterMs + delay && waited ≤ lag + tickIntervalMs

/-- Whether that holds of all candidates that react to due events which the planner does not know. -/
def allInTime (tick elapsedMs : Int) : EventCoordinator → List NewsShockEvent → Bool
  | _, [] => true
  | coordinator, event :: later =>
    ((coordinator.planner.processedEvents.get? event.eventId).isSome ||
      (random.reacting event coordinator.candidates).all
        (inTime random (event.eventId ∈ coordinator.liveEventIds) coordinator.tickIntervalMs tick
          elapsedMs event)) &&
    match coordinator.applyEvent random event with
    | (_, .error _) => true
    | (next, .ok _) => allInTime tick elapsedMs next later

end Drops

section Late

variable {coordinator : EventCoordinator}

/-- An order that is late for the event that its trader is assigned to. -/
def LateOrder (coordinator : EventCoordinator) (elapsedMs tick : Int) (userId : String)
    (plan : ResolvedReactionPlan) (index : Nat) : Prop :=
  ∃ eventId offset, coordinator.traderEvent.get? userId = some eventId ∧
    plan.orderTickOffsets[index]? = some offset ∧
    (coordinator.eventMaxLag.get? eventId).getD 0 <
      (if eventId ∈ coordinator.liveEventIds then tick * coordinator.tickIntervalMs else elapsedMs) -
        offset * coordinator.tickIntervalMs

/-- The positions that are left stand in the plan, with offsets that pass the test. -/
theorem left_offset {trader : EventReactiveTrader} {plan : ResolvedReactionPlan}
    {test : Int → Bool} {index : Nat} (member : index ∈ trader.left plan test) :
    ∃ offset, plan.orderTickOffsets[index]? = some offset ∧ test offset = true := by
  unfold EventReactiveTrader.left at member
  -- The position comes from the list of offsets with their places.
  obtain ⟨⟨offset, place⟩, inside, rfl⟩ := List.mem_map.mp member
  obtain ⟨listed, passes⟩ := List.mem_filter.mp inside
  exact ⟨offset, List.mk_mem_zipIdx_iff_getElem?.mp listed, (of_decide_eq_true passes).2⟩

/-- A trader that loses orders keeps its plan, and the lost orders are late. -/
theorem dropLateOrders_late (trader : EventReactiveTrader) (elapsedMs tickIntervalMs lag : Int)
    {index : Nat}
    (gone : index ∈ (trader.dropLateOrders elapsedMs tickIntervalMs lag).1.consumed)
    (there : index ∉ trader.consumed) :
    ∃ plan offset, trader.plan = some plan ∧ plan.orderTickOffsets[index]? = some offset ∧
      lag < elapsedMs - offset * tickIntervalMs := by
  unfold EventReactiveTrader.dropLateOrders at gone
  -- The trader has a plan, or there is nothing that it could lose.
  split at gone
  · exact absurd gone there
  · rename_i plan current
    split_ifs at gone
    · -- The lost positions are added to those that were consumed before.
      rcases List.mem_append.mp gone with before | now
      · exact absurd before there
      · obtain ⟨offset, listed, late⟩ := left_offset now
        exact ⟨plan, offset, current, listed, of_decide_eq_true late⟩
    · exact absurd gone there

/-- What a coordinator has after some late orders are dropped, compared with the one before. -/
structure Settled (coordinator : EventCoordinator) (elapsedMs tick : Int)
    (next : EventCoordinator) : Prop where
  register : next.register = coordinator.register
  traderEvent : next.traderEvent = coordinator.traderEvent
  late : ∀ {userId later}, next.traders.get? userId = some later →
    ∃ trader, coordinator.traders.get? userId = some trader ∧ later.plan = trader.plan ∧
      ∀ index ∈ later.consumed, index ∈ trader.consumed ∨
        ∃ plan, trader.plan = some plan ∧ coordinator.LateOrder elapsedMs tick userId plan index

/-- The late orders of one more trader are dropped. -/
theorem Settled.one {elapsedMs tick : Int} {next : EventCoordinator}
    (settled : coordinator.Settled elapsedMs tick next) (userId : String) :
    coordinator.Settled elapsedMs tick (dropLateOrdersOf elapsedMs tick next userId) := by
  obtain ⟨register, traderEvent, late⟩ := settled
  unfold dropLateOrdersOf
  split
  · rename_i current eventId found assigned
    simp only
    -- The register and the assignments are those of the first coordinator.
    have live : next.liveEventIds = coordinator.liveEventIds :=
      congrArg (fun entry => entry.2.2.2.2) register
    have lags : next.eventMaxLag = coordinator.eventMaxLag :=
      congrArg (fun entry => entry.2.2.1) register
    have interval : next.tickIntervalMs = coordinator.tickIntervalMs :=
      congrArg (fun entry => entry.1.2.2.1) register
    rw [traderEvent] at assigned
    generalize scheduler_eq : (if eventId ∈ next.liveEventIds then
      tick * next.tickIntervalMs else elapsedMs) = schedulerMs
    generalize lag_eq : (next.eventMaxLag.get? eventId).getD 0 = lag
    obtain ⟨_, plan, _⟩ := current.dropLateOrders_spec schedulerMs next.tickIntervalMs lag
    have lost := @dropLateOrders_late current schedulerMs next.tickIntervalMs lag
    generalize current.dropLateOrders schedulerMs next.tickIntervalMs lag = dropped at plan lost
    -- An order that was consumed before is consumed still, and a new one is late.
    have traders : ∀ {other later},
        (next.traders.set userId dropped.1).get? other = some later →
        ∃ trader, coordinator.traders.get? other = some trader ∧ later.plan = trader.plan ∧
          ∀ index ∈ later.consumed, index ∈ trader.consumed ∨
            ∃ plan, trader.plan = some plan ∧
              coordinator.LateOrder elapsedMs tick other plan index := by
      intro other later stored
      rw [Dict.get?_set] at stored
      -- The named trader has lost orders, and all others are as before.
      split_ifs at stored with same
      · cases stored
        subst same
        obtain ⟨trader, before, followed, gone⟩ := late found
        refine ⟨trader, before, plan.trans followed, fun index member => ?_⟩
        -- What was consumed already was accounted for by the earlier steps.
        by_cases there : index ∈ current.consumed
        · exact gone index there
        · obtain ⟨planned, offset, follows, listed, is_late⟩ := lost member there
          refine .inr ⟨planned, followed.symm.trans follows, eventId, offset, assigned, listed, ?_⟩
          rw [← live, ← lags, ← interval, scheduler_eq, lag_eq]
          exact is_late
      · exact late stored
    split_ifs
    · exact ⟨register, traderEvent, traders⟩
    · exact ⟨register, traderEvent, traders⟩
  · exact ⟨register, traderEvent, late⟩

/-- Only late orders are dropped. -/
theorem dropLateOrders_settled (coordinator : EventCoordinator) (elapsedMs tick : Int) :
    coordinator.Settled elapsedMs tick (coordinator.dropLateOrders elapsedMs tick) := by
  have start : coordinator.Settled elapsedMs tick coordinator :=
    ⟨rfl, rfl, fun found => ⟨_, found, rfl, fun _ member => .inl member⟩⟩
  unfold dropLateOrders
  generalize coordinator.traders.keys = userIds
  -- One trader after the other loses its late orders.
  induction userIds using List.reverseRecOn with
  | nil => exact start
  | append_singleton before userId ih =>
    rw [List.foldl_append]
    exact ih.one userId

/-- After the due events, the traders lose their late orders, unless an event could not be applied. -/
theorem beforeTick_traders {G : Type} (random : RandomSource G) (coordinator : EventCoordinator)
    (tick now : Int) :
    (coordinator.beforeTick random tick now).1.traders = (coordinator.applied random now).1.traders ∨
    (coordinator.beforeTick random tick now).1.traders =
      ((coordinator.applied random now).1.dropLateOrders (now - coordinator.startedMs)
        tick).traders := by
  have completed : ∀ (next : EventCoordinator) (eventId : CodePoints),
      (next.maybeComplete eventId).traders = next.traders := fun _ _ => rfl
  unfold beforeTick
  simp only
  split_ifs
  · -- An event could not be applied, so no order is dropped.
    exact .inl rfl
  · -- Completing events leaves the traders alone.
    exact .inr (Machine.foldl_keeps completed _ _)

/-- An order that is dropped before a tick is late for its event. -/
theorem Dropped.late {G : Type} {random : RandomSource G} {tick now : Int}
    {userId : String} {eventId : CodePoints} {offset : Int}
    (dropped : coordinator.Dropped random tick now userId eventId offset) :
    ∃ trader plan, (coordinator.applied random now).1.traders.get? userId = some trader ∧
      (coordinator.applied random now).1.traderEvent.get? userId = some eventId ∧
      trader.plan = some plan ∧ offset ∈ plan.orderTickOffsets ∧
      ((coordinator.applied random now).1.eventMaxLag.get? eventId).getD 0 <
        (if eventId ∈ (coordinator.applied random now).1.liveEventIds then
          tick * (coordinator.applied random now).1.tickIntervalMs
        else now - coordinator.startedMs) -
          offset * (coordinator.applied random now).1.tickIntervalMs := by
  obtain ⟨trader, plan, index, later, found, assigned, follows, listed, there, stored, gone⟩ :=
    dropped
  refine ⟨trader, plan, found, assigned, follows, List.mem_of_getElem? listed, ?_⟩
  -- Only the traders that lost orders have consumed more than before.
  rcases beforeTick_traders random coordinator tick now with same | settled
  · rw [same, found] at stored
    cases stored
    exact absurd gone there
  · rw [settled] at stored
    obtain ⟨before, found', _, late⟩ := (dropLateOrders_settled _ _ _).late stored
    cases found.symm.trans found'
    obtain ⟨planned, follows', eventId', offset', assigned', listed', is_late⟩ :=
      (late index gone).resolve_left there
    -- The order is that of the same trader, the same event and the same position.
    cases follows.symm.trans follows'
    cases assigned.symm.trans assigned'
    cases listed.symm.trans listed'
    exact is_late

end Late

section Fitting

variable {G : Type} {random : RandomSource G} {held : Holdings} {coordinator next : EventCoordinator}
  {waited ticks latest tick : Int} {planned : List (CodePoints × Int)}

/-- A plan was made in a tick, and all of its orders can be emitted before they are late. -/
structure PlannedIn (waited ticks latest : Int) (coordinator : EventCoordinator) (eventId : CodePoints)
    (plan : ResolvedReactionPlan) (tick lag : Int) : Prop where
  begun : 1 ≤ tick
  processed : (coordinator.planner.processedEvents.get? eventId).isSome = true
  lag_eq : coordinator.eventMaxLag.get? eventId = some lag
  lag_nonneg : 0 ≤ lag
  ahead : ∀ offset ∈ plan.orderTickOffsets, tick ≤ max offset 1
  -- An event may become live after it was planned by the clock.
  live : eventId ∈ coordinator.liveEventIds →
    (coordinator.tickIntervalMs ≤ lag ∨ ∀ offset ∈ plan.orderTickOffsets, 1 ≤ offset) ∨
      tick ≤ ticks
  scheduled : eventId ∉ coordinator.liveEventIds → tick ≤ latest ∧
    ∀ offset ∈ plan.orderTickOffsets,
      waited + (max offset 1 - 1) * coordinator.tickIntervalMs -
        offset * coordinator.tickIntervalMs ≤ lag

/-- All plans that are followed were made in time. -/
def AllFit (waited ticks latest : Int) (planned : List (CodePoints × Int)) (held : Holdings)
    (coordinator : EventCoordinator) : Prop :=
  ∀ userId eventId plan, held userId = some (eventId, plan) → plan.activated = true →
    ∃ tick lag, (eventId, tick) ∈ planned ∧
      PlannedIn waited ticks latest coordinator eventId plan tick lag

/-- The planner knows every live event, unless its seeds cannot be made. -/
def LivePlanned (coordinator : EventCoordinator) : Prop :=
  ∀ eventId existing, coordinator.liveEvents.get? eventId = some existing →
    (coordinator.planner.processedEvents.get? existing.eventId).isSome = true ∨
      ¬ existing.Seedable coordinator.allCandidates

/-- Traders that react have numbers that seeds can be made of. -/
def WritableHeld (held : Holdings) (coordinator : EventCoordinator) : Prop :=
  ∀ userId entry settings, held userId = some entry → entry.2.activated = true →
    coordinator.settingsOf userId = some settings → isUnwritable settings.seed = false

/-- Seeds that can be made for the candidates can be made for the traders that are busy. -/
theorem WritableHeld.seedable (writable : WritableHeld held coordinator)
    (ok : Coordinated held coordinator) {event : NewsShockEvent}
    (seedable : event.Seedable coordinator.candidates) :
    event.Seedable coordinator.allCandidates := by
  refine ⟨seedable.1, seedable.2, fun candidate member traded => ?_⟩
  obtain ⟨userId, trader, found, rfl⟩ := mem_allCandidates.mp member
  -- An idle trader is a candidate now, and a busy one was when its plan was made.
  rcases Nat.eq_zero_or_pos trader.remainingReactionOrders with idle | busy
  · refine seedable.3 _ (List.mem_map.mpr ⟨trader, List.mem_filter.mpr ⟨?_, ?_⟩, rfl⟩) traded
    · exact List.mem_map.mpr ⟨(userId, trader), Dict.get?_eq_some_iff.mp found, rfl⟩
    · exact decide_eq_true idle
  · obtain ⟨eventId, plan, holding, _, active, _⟩ := ok.busy found busy
    refine writable userId (eventId, plan) trader.settings holding active ?_
    rw [settingsOf, found, Option.map_some]

/-- What the traders do with their plans does not change their settings. -/
theorem WritableHeld.congr (writable : WritableHeld held coordinator)
    (same : next.settingsOf = coordinator.settingsOf) : WritableHeld held next := by
  unfold WritableHeld
  rw [same]
  exact writable

/-- What holds of the plans depends on the register only, and there not on the schedule. -/
theorem AllFit.congr (fit : AllFit waited ticks latest planned held coordinator)
    (interval : next.tickIntervalMs = coordinator.tickIntervalMs)
    (same : next.register.2 = coordinator.register.2) :
    AllFit waited ticks latest planned held next := by
  -- Each part is a projection of the register, which is the same.
  have planner : next.planner = coordinator.planner := congrArg (fun entry => entry.1) same
  have lags : next.eventMaxLag = coordinator.eventMaxLag := congrArg (fun entry => entry.2.1) same
  have live : next.liveEventIds = coordinator.liveEventIds :=
    congrArg (fun entry => entry.2.2.2) same
  intro userId eventId plan holding active
  obtain ⟨tick, lag, listed, begun, processed, lag_eq, nonneg, ahead, living, scheduled⟩ :=
    fit _ _ _ holding active
  exact ⟨tick, lag, listed, begun, planner ▸ processed, lags ▸ lag_eq, nonneg, ahead,
    by rw [live, interval]; exact living, by rw [live, interval]; exact scheduled⟩

/-- The live events stay known while the register and the settings of the traders do. -/
theorem LivePlanned.congr (known : LivePlanned coordinator)
    (same : next.register.2 = coordinator.register.2)
    (settings : next.settingsOf = coordinator.settingsOf) : LivePlanned next := by
  -- The planner and the live events are parts of the register.
  have planner : next.planner = coordinator.planner := congrArg (fun entry => entry.1) same
  have events : next.liveEvents = coordinator.liveEvents :=
    congrArg (fun entry => entry.2.2.1) same
  intro eventId existing found
  rw [events] at found
  rw [planner]
  exact (known _ _ found).imp id fun unseeded seedable =>
    unseeded (seedable_congr settings.symm seedable)

/-- Time passes for the plans. -/
theorem AllFit.mono (fit : AllFit waited ticks latest planned held coordinator) {ticks' latest' : Int}
    (more : ticks ≤ ticks') (later : latest ≤ latest') :
    AllFit waited ticks' latest' planned held coordinator := by
  intro userId eventId plan holding active
  obtain ⟨tick, lag, listed, begun, processed, lag_eq, nonneg, ahead, living, scheduled⟩ :=
    fit _ _ _ holding active
  -- A later tick only widens what is allowed.
  exact ⟨tick, lag, listed, begun, processed, lag_eq, nonneg, ahead,
    fun live => (living live).imp id fun before => before.trans more,
    fun other => ⟨(scheduled other).1.trans later, (scheduled other).2⟩⟩

/-- What a user follows after a new plan is that, or what it followed before. -/
theorem Holdings.take_some {eventId : CodePoints} {reactions : List ResolvedReactionPlan}
    {userId : String} {entry : CodePoints × ResolvedReactionPlan}
    (found : held.take eventId reactions userId = some entry) :
    held userId = some entry ∨
      entry.1 = eventId ∧ entry.2 ∈ reactions ∧ entry.2.userId = userId := by
  unfold Holdings.take at found
  -- The last reaction of a user is what it follows.
  induction reactions using List.reverseRecOn with
  | nil => exact .inl found
  | append_singleton before reaction ih =>
    rw [List.foldl_append, List.foldl_cons, List.foldl_nil, Function.update_apply] at found
    split_ifs at found with own
    · cases found
      exact .inr ⟨rfl, List.mem_append_right _ (List.mem_singleton_self _), own.symm⟩
    · exact (ih found).imp id fun made => ⟨made.1, List.mem_append_left _ made.2.1, made.2.2⟩

/-- The orders of a new plan fit: they lie ahead, and are not late before their ticks. -/
structure Fits (waited latest : Int) (coordinator : EventCoordinator) (eventId : CodePoints)
    (reaction : ResolvedReactionPlan) (tick lag : Int) : Prop where
  ahead : ∀ offset ∈ reaction.orderTickOffsets, tick ≤ max offset 1
  live : eventId ∈ coordinator.liveEventIds →
    coordinator.tickIntervalMs ≤ lag ∨ ∀ offset ∈ reaction.orderTickOffsets, 1 ≤ offset
  scheduled : eventId ∉ coordinator.liveEventIds → tick ≤ latest ∧
    ∀ offset ∈ reaction.orderTickOffsets,
      waited + (max offset 1 - 1) * coordinator.tickIntervalMs -
        offset * coordinator.tickIntervalMs ≤ lag

/-- When the plan of an applied event fits, all plans that are followed fit afterwards. -/
theorem AllFit.applyEvent (random : RandomSource G) (ok : Coordinated held coordinator)
    (fit : AllFit waited ticks latest planned held coordinator) (event : NewsShockEvent)
    (begun : 1 ≤ tick)
    (made : ∀ plan abandoned,
      (coordinator.applyEvent random event).2 = .ok (.planned plan abandoned) →
        ∀ reaction ∈ plan.reactions, reaction.activated = true →
          Fits waited latest coordinator event.eventId reaction tick plan.maxSchedulerLagMs) :
    AllFit waited ticks latest
      (planned ++ ([(coordinator.applyEvent random event).2].filterMap planOf).map fun plan =>
        (plan.event.eventId, tick))
      (held.follow ([(coordinator.applyEvent random event).2].filterMap planOf))
      (coordinator.applyEvent random event).1 := by
  have applied := applyEvent_applied random ok event
  have registered := @applyEvent_planned _ random coordinator event
  generalize coordinator.applyEvent random event = result at applied registered made ⊢
  obtain ⟨next, outcome⟩ := result
  -- The event was refused, and no plan is added.
  cases applied with
  | failed other =>
    show AllFit waited ticks latest (planned ++ []) held _
    rwa [List.append_nil]
  -- The planner knew the event, and no plan is added.
  | deduplicated known =>
    show AllFit waited ticks latest (planned ++ []) held _
    rw [List.append_nil]
    exact fit.congr rfl rfl
  | planned about fresh coordinated balanced processed live untouched =>
    rename_i plan
    obtain ⟨_, _, register⟩ := registered rfl
    show AllFit waited ticks latest (planned ++ [(plan.event.eventId, tick)])
      (held.take plan.event.eventId plan.reactions) next
    rw [about]
    have interval : next.tickIntervalMs = coordinator.tickIntervalMs :=
      congrArg (fun entry => entry.1.2.2.1) register
    have lags : next.eventMaxLag = _ := congrArg (fun entry => entry.2.2.1) register
    have living : next.liveEventIds = coordinator.liveEventIds :=
      congrArg (fun entry => entry.2.2.2.2) register
    intro userId eventId followed holding active
    -- The plan is an old one, or has just been made.
    rcases Holdings.take_some holding with before | ⟨rfl, member, _⟩
    · obtain ⟨other, lag, listed, begun, known, lag_eq, nonneg, ahead, is_live, scheduled⟩ :=
        fit _ _ _ before active
      -- The planner knew that event, so that it is another one.
      have differs : eventId ≠ event.eventId := by
        intro same
        rw [same, fresh] at known
        cases known
      refine ⟨other, lag, List.mem_append_left _ listed, begun, ?_, ?_, nonneg, ahead,
        by rw [living, interval]; exact is_live, by rw [living, interval]; exact scheduled⟩
      · rw [processed, Dict.get?_set, if_neg differs]
        exact known
      · rw [lags, Dict.get?_set, if_neg differs]
        exact lag_eq
    · obtain ⟨ahead, is_live, scheduled⟩ := made plan 0 rfl followed member active
      have some_lag := plan.maxSchedulerLagMs_pos
      refine ⟨tick, plan.maxSchedulerLagMs, List.mem_append_right _ (List.mem_singleton_self _),
        begun, ?_, ?_, by omega, ahead, fun inside => .inl ?_,
        by rw [living, interval]; exact scheduled⟩
      · rw [processed, Dict.get?_set, if_pos rfl]
        rfl
      · rw [lags, Dict.get?_set, if_pos rfl]
      · rw [interval]
        exact is_live (living ▸ inside)

/-- A plan is handed only to traders whose numbers seeds can be made of. -/
theorem WritableHeld.applyEvent (random : RandomSource G) (ok : Coordinated held coordinator)
    (writable : WritableHeld held coordinator) (event : NewsShockEvent) :
    WritableHeld (held.follow ([(coordinator.applyEvent random event).2].filterMap planOf))
      (coordinator.applyEvent random event).1 := by
  have settings := applyEvent_settings random coordinator event
  have applied := applyEvent_applied random ok event
  have planned := @applyEvent_planned _ random coordinator event
  generalize coordinator.applyEvent random event = result at applied planned settings ⊢
  obtain ⟨next, outcome⟩ := result
  cases applied with
  | failed other => exact writable
  | deduplicated known => exact writable.congr settings
  | planned about fresh coordinated balanced processed live untouched =>
    rename_i plan
    obtain ⟨_, resolved, _⟩ := planned rfl
    have seedable := RandomSource.seedable_of_resolve resolved
    show WritableHeld (held.take plan.event.eventId plan.reactions) next
    intro userId entry own holding active found
    rw [settings] at found
    -- The plan is an old one, or was made for a candidate whose key was made.
    rcases Holdings.take_some holding with before | ⟨_, member, rfl⟩
    · exact writable _ entry own before active found
    · obtain ⟨candidate, inside, user, symbol⟩ := (resolve_ok resolved).2 _ member
      have traded : candidate.symbol = event.symbol := by
        rw [← symbol, plan.symbols_match _ member, about]
      have short := seedable.3 candidate inside traded
      obtain ⟨trader, idle, rfl⟩ := List.mem_map.mp inside
      obtain ⟨item, stored, rfl⟩ := List.mem_map.mp (List.mem_filter.mp idle).1
      -- The trader is stored under the user that the plan is for.
      have kept := Dict.get?_eq_some_iff.mpr stored
      have named : entry.2.userId = item.1 := user.trans (ok.named kept)
      rw [settingsOf, named, kept, Option.map_some, Option.some.injEq] at found
      rw [← found]
      exact short

/-- The planner knows an event once it was applied, unless its seeds cannot be made. -/
theorem applyEvent_known (sound : random.Sound) (ok : Coordinated held coordinator)
    (event : NewsShockEvent) :
    ((coordinator.applyEvent random event).1.planner.processedEvents.get?
        event.eventId).isSome = true ∨ ¬ event.Seedable coordinator.allCandidates := by
  have applied := applyEvent_applied random ok event
  have raises := applyEvent_raises_iff sound ok event
  generalize coordinator.applyEvent random event = result at applied raises ⊢
  obtain ⟨next, outcome⟩ := result
  cases applied with
  | failed other =>
    -- The event is refused as the planner knows another one by its id, or cannot make the seeds.
    have refused := of_decide_eq_true (raises.mp ⟨_, rfl⟩)
    rcases refused with conflicting | ⟨_, unseeded⟩
    · left
      unfold conflicts at conflicting
      simp only
      cases known : Dict.get? _ event.eventId with
      | none =>
        rw [known] at conflicting
        cases conflicting
      | some previous => rfl
    · exact .inr fun seedable => unseeded (seedable_candidates seedable)
  -- The other events are known to the planner afterwards.
  | deduplicated known => exact .inl (known ▸ rfl)
  | planned about fresh coordinated balanced processed live untouched =>
    left
    simp only at processed ⊢
    rw [processed, Dict.get?_set, if_pos rfl]
    rfl

/-- Applying an event receives none. -/
theorem applyEvent_live (random : RandomSource G) (coordinator : EventCoordinator)
    (event : NewsShockEvent) :
    (coordinator.applyEvent random event).1.liveEvents = coordinator.liveEvents ∧
      (coordinator.applyEvent random event).1.liveEventIds = coordinator.liveEventIds := by
  have outcome := planOnce_planned random coordinator.planner event coordinator.candidates
  unfold EventCoordinator.applyEvent
  generalize coordinator.planner.planOnce random event coordinator.candidates = result at outcome ⊢
  obtain ⟨planner, result⟩ := result
  -- Whatever the planner returns, live events are not touched.
  cases outcome with
  | refused known other => exact ⟨rfl, rfl⟩
  | repeated known => exact ⟨rfl, rfl⟩
  | failed fresh raised => exact ⟨rfl, rfl⟩
  | resolved fresh made =>
    have registered := fun next : EventCoordinator => next.assignPlans_register event.eventId
    exact ⟨congrArg (fun entry => entry.2.2.2.1) (registered _ _),
      congrArg (fun entry => entry.2.2.2.2) (registered _ _)⟩

/-- The planner knows the live events once it knew all others, and one of them is applied. -/
theorem livePlanned_applyEvent (sound : random.Sound) (ok : Coordinated held coordinator)
    (event : NewsShockEvent)
    (events : ∀ eventId existing, coordinator.liveEvents.get? eventId = some existing →
      existing = event ∨
        (coordinator.planner.processedEvents.get? existing.eventId).isSome = true ∨
          ¬ existing.Seedable coordinator.allCandidates) :
    LivePlanned (coordinator.applyEvent random event).1 := by
  obtain ⟨live, _⟩ := applyEvent_live random coordinator event
  have known := applyEvent_known sound ok event
  have handled := (applyEvent_applied random ok event).handled ok
  have settings := applyEvent_settings random coordinator event
  -- Seeds that cannot be made before cannot be made afterwards.
  have unseeded : ∀ {other : NewsShockEvent}, ¬ other.Seedable coordinator.allCandidates →
      ¬ other.Seedable (coordinator.applyEvent random event).1.allCandidates :=
    fun unseeded seedable => unseeded (seedable_congr settings.symm seedable)
  intro eventId existing found
  rw [live] at found
  -- The planner forgets no event, and knows the applied one now.
  rcases events _ _ found with rfl | before | impossible
  · exact known.imp id unseeded
  · obtain ⟨previous, stored⟩ := Option.isSome_iff_exists.mp before
    left
    rw [handled.remembered.processed stored]
    rfl
  · exact .inr (unseeded impossible)

/-- Plans that were made before now still fit when their events become live. -/
theorem AllFit.receive (fit : AllFit waited ticks latest planned held coordinator)
    (settled : latest ≤ ticks) (received : CodePoints) (created : NewsShockEvent) :
    AllFit waited ticks latest planned held { coordinator with
      liveEvents := coordinator.liveEvents.set received created
      liveEventIds := insert received coordinator.liveEventIds } := by
  intro userId eventId plan holding active
  obtain ⟨tick, lag, listed, begun, processed, lag_eq, nonneg, ahead, living, scheduled⟩ :=
    fit _ _ _ holding active
  refine ⟨tick, lag, listed, begun, processed, lag_eq, nonneg, ahead, fun _ => ?_, fun other =>
    scheduled fun before => other (Finset.mem_insert_of_mem before)⟩
  -- A plan for an event that becomes live only now was made in an earlier tick.
  by_cases before : eventId ∈ coordinator.liveEventIds
  · exact living before
  · exact .inr ((scheduled before).1.trans settled)

/-- The reaction of a candidate that is in time has orders that fit. -/
theorem offsets_of_inTime {live : Bool} {tickIntervalMs elapsedMs : Int} {event : NewsShockEvent}
    {candidate : ReactionCandidate} {reaction : ResolvedReactionPlan}
    (positive : 1 ≤ tickIntervalMs)
    (schedule : OnSchedule tickIntervalMs event candidate reaction
      (random.drawnDelay event candidate))
    (reached : tick ≤ 1 ∨ (tick - 2) * tickIntervalMs < event.startsAfterMs)
    (elapsed : elapsedMs = waited + (tick - 1) * tickIntervalMs)
    (good : inTime random live tickIntervalMs tick elapsedMs event candidate = true) :
    (∀ offset ∈ reaction.orderTickOffsets, tick ≤ max offset 1) ∧
      if live then tickIntervalMs ≤ event.preset.definition.maxSchedulerLagMs ∨
        ∀ offset ∈ reaction.orderTickOffsets, 1 ≤ offset
      else ∀ offset ∈ reaction.orderTickOffsets,
        waited + (max offset 1 - 1) * tickIntervalMs - offset * tickIntervalMs ≤
          event.preset.definition.maxSchedulerLagMs := by
  -- The test on a candidate is read as the arithmetic that it stands for.
  unfold inTime at good
  rw [elapsed, Int.add_sub_cancel, Bool.and_eq_true] at good
  obtain ⟨ahead, in_time⟩ := good
  refine ⟨(schedule.ahead_iff positive reached).mpr ahead, ?_⟩
  have starts := ceilDiv_nonneg positive event.startsAfterMs_nonneg
  have delayed := event.preset.definition_valid.reactionDelay.1.trans schedule.delay_range.1
  have delays := ceilDiv_nonneg positive delayed
  cases live with
  | true =>
    simp only [if_true, Bool.or_eq_true, decide_eq_true_eq] at in_time ⊢
    refine in_time.imp id fun later offset member => ?_
    -- What starts after the first moment is not for the tick with number zero.
    have first := schedule.offsets.2 offset member
    have some_start := lt_ceilDiv_iff positive 0 event.startsAfterMs
    have some_delay := lt_ceilDiv_iff positive 0 (random.drawnDelay event candidate)
    rw [Int.zero_mul] at some_start some_delay
    have := event.startsAfterMs_nonneg
    omega
  | false =>
  simp only [Bool.false_eq_true, if_false, Bool.or_eq_true, Bool.and_eq_true,
    decide_eq_true_eq] at in_time ⊢
  intro offset member
  have first := schedule.offsets.2 offset member
  -- An order for a tick has that tick as its time; others go out in the first one.
  by_cases some_tick : 1 ≤ offset
  · rw [max_eq_left some_tick, Int.sub_mul]
    omega
  · -- The first tick is the one with number zero, so that nothing delays the plan.
    have no_start := lt_ceilDiv_iff positive 0 event.startsAfterMs
    have no_delay := lt_ceilDiv_iff positive 0 (random.drawnDelay event candidate)
    have zero : offset = 0 := by omega
    subst zero
    rw [Int.zero_mul] at no_start no_delay ⊢
    rw [max_eq_right (by decide), Int.sub_self, Int.zero_mul]
    omega

/-- A due event whose candidates are in time gets a plan that fits. -/
theorem fits_of_allInTime {elapsedMs : Int} (sound : random.Sound)
    (ok : Coordinated held coordinator)
    (interval : coordinator.planner.tickIntervalMs = coordinator.tickIntervalMs)
    (elapsed : elapsedMs = waited + (tick - 1) * coordinator.tickIntervalMs)
    {event : NewsShockEvent}
    (reached : tick ≤ 1 ∨ (tick - 2) * coordinator.tickIntervalMs < event.startsAfterMs)
    (good : ((coordinator.planner.processedEvents.get? event.eventId).isSome ||
      (random.reacting event coordinator.candidates).all
        (inTime random (event.eventId ∈ coordinator.liveEventIds) coordinator.tickIntervalMs tick
          elapsedMs event)) = true)
    {plan : ResolvedEventPlan} {abandoned : Nat}
    (made : (coordinator.applyEvent random event).2 = .ok (.planned plan abandoned)) :
    ∀ reaction ∈ plan.reactions, reaction.activated = true →
      Fits waited tick coordinator event.eventId reaction tick plan.maxSchedulerLagMs := by
  intro reaction member active
  -- The event is new to the planner, so the test was made for its candidates.
  obtain ⟨fresh, resolved, _⟩ := applyEvent_planned made
  have positive := coordinator.planner.tickIntervalMs_pos
  rw [interval] at resolved positive
  obtain ⟨lag, timed, _⟩ := resolve_times sound positive (candidates_unique ok) resolved
  obtain ⟨candidate, reacts, schedule⟩ := timed reaction member active
  rw [fresh, Option.isSome_none, Bool.false_or] at good
  obtain ⟨ahead, in_time⟩ := offsets_of_inTime positive schedule reached elapsed
    (List.all_eq_true.mp good candidate reacts)
  -- Lateness is measured by the tick or by the clock.
  refine ⟨ahead, fun live => ?_, fun other => ⟨le_refl tick, ?_⟩⟩
  · rw [decide_eq_true live, if_pos rfl] at in_time
    rw [lag]
    exact in_time
  · rw [decide_eq_false other, if_neg Bool.false_ne_true] at in_time
    rw [lag]
    exact in_time

/-- The due events that are applied in time get plans that fit. -/
theorem applyDue_fit {elapsedMs : Int} (sound : random.Sound) (begun : 1 ≤ tick)
    (events : List NewsShockEvent) : ∀ {held : Holdings} {coordinator : EventCoordinator}
      {planned : List (CodePoints × Int)}, Coordinated held coordinator →
      AllFit waited ticks tick planned held coordinator → LivePlanned coordinator →
      WritableHeld held coordinator → coordinator.planner.tickIntervalMs = coordinator.tickIntervalMs →
      elapsedMs = waited + (tick - 1) * coordinator.tickIntervalMs →
      (∀ event ∈ events,
        tick ≤ 1 ∨ (tick - 2) * coordinator.tickIntervalMs < event.startsAfterMs) →
      coordinator.allInTime random tick elapsedMs events = true →
      AllFit waited ticks tick
          (planned ++ ((coordinator.applyDue random events).2.filterMap planOf).map fun plan =>
            (plan.event.eventId, tick))
          (held.follow ((coordinator.applyDue random events).2.filterMap planOf))
          (coordinator.applyDue random events).1 ∧
        LivePlanned (coordinator.applyDue random events).1 ∧
        WritableHeld (held.follow ((coordinator.applyDue random events).2.filterMap planOf))
          (coordinator.applyDue random events).1 := by
  induction events with
  | nil =>
    intro held coordinator planned ok fit known writable _ _ _ _
    show AllFit waited ticks tick (planned ++ []) held coordinator ∧ _
    rw [List.append_nil]
    exact ⟨fit, known, writable⟩
  | cons event later ih =>
    -- The first event is planned, and the later ones by the coordinator after it.
    intro held coordinator planned ok fit known writable interval elapsed reached good
    obtain ⟨first_good, good⟩ := (Bool.and_eq_true _ _).mp good
    have first := fit.applyEvent random ok event begun fun plan abandoned made =>
      fits_of_allInTime sound ok interval elapsed (reached event List.mem_cons_self)
        first_good made
    have first_known := livePlanned_applyEvent sound ok event
      fun eventId existing found => .inr (known eventId existing found)
    have first_writable := writable.applyEvent random ok event
    have handled := (applyEvent_applied random ok event).handled ok
    have scheduled := applyEvent_schedule random coordinator event
    unfold applyDue
    generalize coordinator.applyEvent random event = result
      at first first_known first_writable handled scheduled good ⊢
    obtain ⟨next, outcome⟩ := result
    cases outcome with
    -- An error stops the others from being applied.
    | error error => exact ⟨first, first_known, first_writable⟩
    | ok applied =>
      have same_interval : next.tickIntervalMs = coordinator.tickIntervalMs :=
        congrArg (fun entry => entry.2.2.1) scheduled
      have same_planner : next.planner.tickIntervalMs = coordinator.planner.tickIntervalMs :=
        congrArg (fun entry => entry.2.2.2) scheduled
      have rest := ih handled.coordinated first first_known first_writable
        (same_planner.trans (interval.trans same_interval.symm)) (same_interval ▸ elapsed)
        (fun other member => same_interval ▸ reached other (List.mem_cons_of_mem _ member)) good
      rw [List.append_assoc, ← List.map_append, ← Holdings.follow_append,
        ← List.filterMap_append] at rest
      exact rest

end Fitting

end EventCoordinator

open EventCoordinator

namespace TimedRun

section Waiting

variable {G : Type} {random : RandomSource G} {run : TimedRun} {waited : Int}

/-- Whether the ticks begin after a waiting time, each one interval after the one before it. -/
def spaced (waited : Int) (run : TimedRun) : CoordinatorCall → Bool
  | .beforeTick tick now =>
    tick = run.ticks + 1 ∧ now - run.coordinator.startedMs =
      waited + run.ticks * run.coordinator.tickIntervalMs
  | .marketEvent _ tick => tick = run.ticks + 1
  | _ => true

/-- Whether the due events of a call are planned in time. -/
def timely (random : RandomSource G) (run : TimedRun) : CoordinatorCall → Bool
  | .beforeTick tick now =>
    let elapsedMs := now - run.coordinator.startedMs
    allInTime random tick elapsedMs
      { run.coordinator with source := (run.coordinator.source.dueEvents elapsedMs).1 }
      (run.coordinator.source.dueEvents elapsedMs).2
  | _ => true

/-- All plans that are followed after the last tick fit. -/
structure Fitting (waited : Int) (run : TimedRun) : Prop where
  counted : run.Counted
  live : LivePlanned run.coordinator
  plans : ∃ held, Coordinated held run.coordinator ∧
    AllFit waited run.ticks run.ticks run.planned held run.coordinator ∧
      WritableHeld held run.coordinator

/-- A market event is made under its id, for the time of its tick. -/
theorem marketEventOf_fields {coordinator : EventCoordinator}
    {eventId : CodePoints} {symbol direction impact label source : String} {tick : Int}
    {created : NewsShockEvent}
    (made : coordinator.marketEventOf eventId symbol direction impact label source tick =
      some created) :
    created.eventId = eventId ∧ created.startsAfterMs = tick * coordinator.tickIntervalMs ∧
      1 ≤ tick := by
  -- The tick has begun, and all fields of the event are valid.
  unfold marketEventOf at made
  split_ifs at made with early
  obtain ⟨directionHint, _, made⟩ := Option.bind_eq_some_iff.mp made
  obtain ⟨preset, _, made⟩ := Option.bind_eq_some_iff.mp made
  unfold NewsShockEvent.create at made
  split_ifs at made
  · cases made
    exact ⟨rfl, rfl, by omega⟩
  · cases made
  · cases made
  · cases made

/-- Before a tick, events that are planned in time get plans that fit. -/
theorem Fitting.beforeTick (sound : random.Sound) (fitting : run.Fitting waited) {held : Holdings}
    (ok : Coordinated held run.coordinator)
    (fit : AllFit waited run.ticks run.ticks run.planned held run.coordinator)
    (writable : WritableHeld held run.coordinator) {tick now : Int}
    (on_time : run.spaced waited (.beforeTick tick now) = true)
    (in_time : run.timely random (.beforeTick tick now) = true) :
    Coordinated (held.follow ((run.coordinator.applied random now).2.filterMap planOf))
        (run.coordinator.applied random now).1 ∧
      AllFit waited run.ticks tick
        (run.planned ++ ((run.coordinator.applied random now).2.filterMap planOf).map fun plan =>
          (plan.event.eventId, tick))
        (held.follow ((run.coordinator.applied random now).2.filterMap planOf))
        (run.coordinator.applied random now).1 ∧
      LivePlanned (run.coordinator.applied random now).1 ∧
      WritableHeld (held.follow ((run.coordinator.applied random now).2.filterMap planOf))
        (run.coordinator.applied random now).1 := by
  obtain ⟨⟨_, interval, ordered, begun, later⟩, known, _⟩ := fitting
  obtain ⟨rfl, elapsed⟩ := of_decide_eq_true on_time
  -- Taking due events out of the source changes nothing that is known of the plans.
  have taken : Coordinated held { run.coordinator with
      source := (run.coordinator.source.dueEvents (now - run.coordinator.startedMs)).1 } :=
    ⟨ok.named, ok.follows, ok.assigned, ok.listed, ok.lagged⟩
  -- The due events start after the tick before the last one.
  have reached : ∀ event ∈ (run.coordinator.source.dueEvents
      (now - run.coordinator.startedMs)).2, run.ticks + 1 ≤ 1 ∨
        (run.ticks + 1 - 2) * run.coordinator.tickIntervalMs < event.startsAfterMs := by
    intro event member
    rw [show run.ticks + 1 - 2 = run.ticks - 1 by omega]
    refine (later event (ordered.mem_dueEvents.mp member).1).imp (fun first => ?_) id
    omega
  refine ⟨(applyDue_handled random _ taken).coordinated, ?_⟩
  exact applyDue_fit sound (show 1 ≤ run.ticks + 1 by omega) _ taken
    ((fit.mono (le_refl _) (show run.ticks ≤ run.ticks + 1 by omega)).congr rfl rfl)
    (known.congr rfl rfl) (writable.congr rfl) interval (by rw [Int.add_sub_cancel]; exact elapsed)
    reached in_time

/-- Nothing is followed at first. -/
theorem Fitting.start {events : List NewsShockEvent} {participants : List TraderSettings}
    {tickIntervalMs now : Int} {coordinator : EventCoordinator}
    (made : create events participants tickIntervalMs now = .ok coordinator) :
    (TimedRun.start coordinator).Fitting waited := by
  refine ⟨.start made, ?_, _, (create_coordinated made).1, fun userId eventId plan holding => ?_,
    fun userId entry settings holding => ?_⟩
  · -- No event is live when the coordinator is created.
    obtain ⟨_, made⟩ := passed made
    cases made
    exact fun eventId existing found => nomatch found
  · cases holding
  · cases holding

/-- Calls of traders leave the plans as they are. -/
theorem Fitting.traders (fitting : run.Fitting waited) {request : CoordinatorCall}
    (counted : (run.turn random request).1.Counted)
    (same : (run.coordinator.call random request).1.register = run.coordinator.register)
    (silent : (run.coordinator.call random request).2.outcomes = [])
    (ticks : (run.turn random request).1.ticks = run.ticks) :
    (run.turn random request).1.Fitting waited := by
  obtain ⟨_, known, held, ok, fit, writable⟩ := fitting
  have called := (call_called random ok request).coordinated
  rw [silent] at called
  -- A call without outcomes plans nothing.
  have planned : (run.turn random request).1.planned = run.planned := by
    show run.planned ++ ((run.coordinator.call random request).2.outcomes.filterMap planOf).map _ = _
    rw [silent]
    exact List.append_nil run.planned
  have interval : (run.coordinator.call random request).1.tickIntervalMs =
      run.coordinator.tickIntervalMs := congrArg (fun entry => entry.1.2.2.1) same
  have rest := congrArg Prod.snd same
  have settings := call_settings random run.coordinator request
  refine ⟨counted, known.congr rest settings, held, called, ?_, writable.congr settings⟩
  rw [planned, ticks]
  exact fit.congr interval rest

/-- A market event that is planned in its tick gets a plan that fits. -/
theorem Fitting.marketEvent (sound : random.Sound) (fitting : run.Fitting waited)
    {event : EventItem} {tick : Int} (on_time : run.spaced waited (.marketEvent event tick) = true) :
    (run.turn random (.marketEvent event tick)).1.Fitting waited := by
  have counted := @Counted.turn _ random _ fitting.counted (.marketEvent event tick) trivial
  -- The event is new, already live, or refused.
  obtain ⟨⟨_, interval, _, begun, _⟩, known, held, ok, fit, writable⟩ := fitting
  have now : tick = run.ticks + 1 := of_decide_eq_true on_time
  have applied := applyMarketEvent_cases random run.coordinator event.eventId event.symbol
    event.direction event.impact event.headline event.source tick
  suffices settled : LivePlanned (run.coordinator.applyMarketEvent random event.eventId event.symbol
        event.direction event.impact event.headline event.source tick).1 ∧
      ∃ held', Coordinated held' (run.coordinator.applyMarketEvent random event.eventId
          event.symbol event.direction event.impact event.headline event.source tick).1 ∧
        AllFit waited run.ticks run.ticks
          (run.planned ++ ([(run.coordinator.applyMarketEvent random event.eventId event.symbol
            event.direction event.impact event.headline event.source tick).2].filterMap
              planOf).map fun plan => (plan.event.eventId, tick))
          held' (run.coordinator.applyMarketEvent random event.eventId event.symbol
            event.direction event.impact event.headline event.source tick).1 ∧
        WritableHeld held' (run.coordinator.applyMarketEvent random event.eventId event.symbol
            event.direction event.impact event.headline event.source tick).1 from
    ⟨counted, settled.1, settled.2⟩
  generalize run.coordinator.applyMarketEvent random event.eventId event.symbol event.direction
    event.impact event.headline event.source tick = result at applied ⊢
  rcases applied with ⟨created, fresh, made, rfl⟩ | ⟨existing, live, rfl⟩ | ⟨error, _, rfl⟩
  · -- A new event is recorded as live, and then applied like a due one.
    obtain ⟨named, starts, _⟩ := marketEventOf_fields made
    have recorded := ok.receive event.eventId created
    have received := fit.receive (le_refl _) event.eventId created
    have handled := (applyEvent_applied random recorded created).handled recorded
    refine ⟨livePlanned_applyEvent sound recorded created fun eventId existing found => ?_, _,
      handled.coordinated, received.applyEvent random recorded created (by omega)
        fun plan abandoned planned reaction member active => ?_,
      (writable.congr rfl).applyEvent random recorded created⟩
    · -- The planner knows the live events; the recorded one is the applied one.
      rw [Dict.get?_set] at found
      split_ifs at found
      · cases found
        exact .inl rfl
      · exact .inr (known _ _ found)
    · -- The first order of a market event is for the tick that it comes in, or for a later one.
      obtain ⟨_, resolved, _⟩ := applyEvent_planned planned
      have positive := run.coordinator.planner.tickIntervalMs_pos
      change random.resolve run.coordinator.planner.tickIntervalMs _ _ = _ at resolved
      rw [interval] at resolved positive
      obtain ⟨_, timed, _⟩ := resolve_times sound positive (candidates_unique recorded) resolved
      obtain ⟨candidate, _, schedule⟩ := timed reaction member active
      have later := (lt_ceilDiv_iff positive (tick - 1) created.startsAfterMs).mpr (by
        rw [starts, Int.sub_mul]
        omega)
      have delayed := ceilDiv_nonneg positive
        (created.preset.definition_valid.reactionDelay.1.trans schedule.delay_range.1)
      have orders := schedule.offsets.2
      refine ⟨fun offset inside => ?_, fun _ => .inr fun offset inside => ?_,
        fun other => absurd ?_ other⟩
      · have := orders offset inside
        omega
      · have := orders offset inside
        omega
      · rw [named]
        exact Finset.mem_insert_self _ _
  · -- An event that is live already was recorded before, and is applied again.
    have handled := (applyEvent_applied random ok existing).handled ok
    refine ⟨livePlanned_applyEvent sound ok existing fun eventId other found => .inr
      (known eventId other found), _, handled.coordinated,
      fit.applyEvent random ok existing (by omega) fun plan abandoned planned => ?_,
      writable.applyEvent random ok existing⟩
    -- A live event is not planned again, and not later either where its seeds cannot be made.
    obtain ⟨fresh, resolved, _⟩ := applyEvent_planned planned
    rcases known _ _ live with processed | unseeded
    · rw [fresh] at processed
      cases processed
    · exact absurd (writable.seedable ok (RandomSource.seedable_of_resolve resolved)) unseeded
  · -- A refused event changes nothing.
    refine ⟨known, held, ok, ?_, writable⟩
    show AllFit waited run.ticks run.ticks (run.planned ++ []) held run.coordinator
    rwa [List.append_nil]

/-- Every call that keeps to the schedule leaves plans that fit. -/
theorem Fitting.turn (sound : random.Sound) (nonneg : 0 ≤ waited) (fitting : run.Fitting waited)
    {request : CoordinatorCall} (on_time : run.spaced waited request = true)
    (in_time : run.timely random request = true) :
    (run.turn random request).1.Fitting waited := by
  cases request with
  | beforeTick tick now =>
    -- The tick first plans its due events, and then drops what is late.
    have start := fitting
    obtain ⟨counted, _, held, ok, fit, writable⟩ := fitting
    obtain ⟨_, all_fit, live, all_writable⟩ := start.beforeTick sound ok fit writable on_time in_time
    obtain ⟨same, outcomes⟩ := beforeTick_register random run.coordinator tick now
    have called := (call_called random ok (.beforeTick tick now)).coordinated
    obtain ⟨rfl, elapsed⟩ := of_decide_eq_true on_time
    have punctual : run.Punctual (.beforeTick (run.ticks + 1) now) := ⟨rfl, by omega⟩
    -- Dropping late orders changes no settings, and neither did the due events.
    have settings : (run.coordinator.beforeTick random (run.ticks + 1) now).1.settingsOf =
        (run.coordinator.applied random now).1.settingsOf :=
      (call_settings random run.coordinator (.beforeTick (run.ticks + 1) now)).trans
        (applied_settings random run.coordinator now).symm
    refine ⟨counted.turn punctual, live.congr (congrArg Prod.snd same) settings, _, called, ?_, ?_⟩
    rotate_left
    · show WritableHeld (held.follow
        ((run.coordinator.beforeTick random (run.ticks + 1) now).2.filterMap planOf)) _
      rw [outcomes]
      exact all_writable.congr settings
    show AllFit waited (run.ticks + 1) (run.ticks + 1) (run.planned ++
      (((run.coordinator.beforeTick random _ now).2.filterMap planOf).map fun plan =>
        (plan.event.eventId, run.ticks + 1)))
      (held.follow ((run.coordinator.beforeTick random _ now).2.filterMap planOf)) _
    rw [outcomes]
    exact (all_fit.mono (by omega) (le_refl _)).congr
      (congrArg (fun entry => entry.1.2.2.1) same) (congrArg Prod.snd same)
  | marketEvent event tick => exact fitting.marketEvent sound on_time
  -- Traders are asked for orders, which changes no plan.
  | nextIntents userId tick snapshot =>
    exact fitting.traders (fitting.counted.turn trivial)
      (run.coordinator.nextIntents_register userId tick snapshot) rfl rfl
  | afterSubmit intent submitted tick now =>
    exact fitting.traders (fitting.counted.turn trivial)
      (run.coordinator.afterSubmit_register intent submitted tick now) rfl rfl

/-- A dropped order of a plan that fits could have been emitted in an earlier tick. -/
theorem Fitting.dropped (sound : random.Sound) (fitting : run.Fitting waited) {tick now : Int}
    (on_time : run.spaced waited (.beforeTick tick now) = true)
    (in_time : run.timely random (.beforeTick tick now) = true) {userId : String} {eventId : CodePoints}
    {offset : Int} (dropped : run.coordinator.Dropped random tick now userId eventId offset) :
    ∃ applied, (eventId, applied) ∈ (run.turn random (.beforeTick tick now)).1.planned ∧
      applied ≤ max offset 1 ∧ max offset 1 < tick := by
  have start := fitting
  obtain ⟨counted, _, held, ok, fit, writable⟩ := fitting
  obtain ⟨ok, fit, _⟩ := start.beforeTick sound ok fit writable on_time in_time
  obtain ⟨rfl, elapsed⟩ := of_decide_eq_true on_time
  have planned : (run.turn random (.beforeTick (run.ticks + 1) now)).1.planned = run.planned ++
      ((run.coordinator.applied random now).2.filterMap planOf).map fun plan =>
        (plan.event.eventId, run.ticks + 1) := by
    rw [← (beforeTick_register random run.coordinator (run.ticks + 1) now).2]
    rfl
  rw [planned]
  have interval : (run.coordinator.applied random now).1.tickIntervalMs =
      run.coordinator.tickIntervalMs :=
    congrArg (fun entry => entry.2.2.1) (applyDue_schedule random _ _)
  have positive := counted.interval ▸ run.coordinator.planner.tickIntervalMs_pos
  obtain ⟨trader, plan, found, assigned, follows, inside, late⟩ := dropped.late
  -- The trader follows a plan of the event that it is assigned to.
  have active : ∃ entry, held.follow ((run.coordinator.applied random now).2.filterMap planOf)
      userId = some entry ∧ entry.2.activated = true ∧ entry.1 = eventId := by
    rw [ok.assigned userId, Option.map_eq_some_iff] at assigned
    obtain ⟨entry, kept, same⟩ := assigned
    obtain ⟨holding, active⟩ := Option.filter_eq_some_iff.mp kept
    exact ⟨entry, holding, active, same⟩
  obtain ⟨⟨_, followed⟩, holding, active, rfl⟩ := active
  have same := (ok.follows found).symm.trans follows
  rw [holding, Option.map_some, Option.some.injEq] at same
  subst same
  obtain ⟨applied, lag, listed, begun, _, lag_eq, nonneg, ahead, live, scheduled⟩ :=
    fit _ _ _ holding active
  refine ⟨applied, listed, ahead offset inside, ?_⟩
  rw [lag_eq, Option.getD_some, interval] at late
  have first := ahead offset inside
  -- A live event is measured by the number of the tick, others by the clock.
  split_ifs at late with living
  · have before : offset * run.coordinator.tickIntervalMs <
        (run.ticks + 1) * run.coordinator.tickIntervalMs := by omega
    have earlier := Int.lt_of_mul_lt_mul_right before (by omega)
    rcases live living with (bounded | started) | old
    · -- An order for the tick with number zero is late one interval and the bound after it.
      rw [interval] at bounded
      have counted_from := followed.orderTickOffsets_nonneg offset inside
      have some_ticks : 1 ≤ offset ∨ 1 < run.ticks + 1 := by
        by_contra neither
        obtain ⟨zero, few⟩ := not_or.mp neither
        obtain rfl : offset = 0 := by omega
        have short : (run.ticks + 1) * run.coordinator.tickIntervalMs ≤
            1 * run.coordinator.tickIntervalMs :=
          Int.mul_le_mul_of_nonneg_right (by omega) (by omega)
        omega
      omega
    · have := started offset inside
      omega
    · omega
  · -- The clock of the tick has passed the last time for the order.
    have on_schedule := (scheduled living).2 offset inside
    rw [interval] at on_schedule
    have before : (max offset 1 - 1) * run.coordinator.tickIntervalMs <
        run.ticks * run.coordinator.tickIntervalMs := by omega
    have earlier := Int.lt_of_mul_lt_mul_right before (by omega)
    omega

end Waiting

end TimedRun

end StockMarket
