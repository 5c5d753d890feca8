import StockMarket.Participants.PlanTimes
import StockMarket.Runner.DueEvents

/-! Plans are made by the clock and followed by the ticks: whether their ticks are still to come. -/

namespace StockMarket

namespace EventCoordinator

section Planned

variable {G : Type} {random : RandomSource G} {held : Holdings} {coordinator : EventCoordinator}

/-- A planned event was new, its plan was made for the candidates, and its lag is kept. -/
theorem applyEvent_planned {event : NewsShockEvent} {plan : ResolvedEventPlan} {abandoned : Nat}
    (planned : (coordinator.applyEvent random event).2 = .ok (.planned plan abandoned)) :
    coordinator.planner.processedEvents.get? event.eventId = none ∧
      random.resolve coordinator.planner.tickIntervalMs event coordinator.candidates = .ok plan ∧
      (coordinator.applyEvent random event).1.register = (coordinator.schedule,
        { coordinator.planner with
          processedEvents := coordinator.planner.processedEvents.set event.eventId event },
        coordinator.eventMaxLag.set event.eventId plan.maxSchedulerLagMs, coordinator.liveEvents,
        coordinator.liveEventIds) := by
  have outcome := planOnce_planned random coordinator.planner event coordinator.candidates
  unfold applyEvent at planned ⊢
  generalize coordinator.planner.planOnce random event coordinator.candidates = result
    at outcome planned ⊢
  obtain ⟨planner, result⟩ := result
  cases outcome with
  | refused known other => cases planned
  | repeated known => cases planned
  | failed fresh raised => cases planned
  | resolved fresh made =>
    rename_i resolved
    simp only at planned ⊢
    -- The plan that is returned is the one that was resolved.
    have same : resolved = plan := by
      generalize assignPlans _ _ _ = assigned at planned
      obtain ⟨next, result⟩ := assigned
      cases result with
      | error error => cases planned
      | ok count => exact (Applied.planned.inj (Except.ok.inj planned)).1
    subst same
    exact ⟨fresh, made, assignPlans_register _ _ _⟩

/-- A plan that is made before a tick is that of a due event, for candidates with distinct users. -/
theorem applyDue_planned (events : List NewsShockEvent) : ∀ {held : Holdings}
    {coordinator : EventCoordinator}, Coordinated held coordinator →
      ∀ {plan : ResolvedEventPlan} {abandoned : Nat},
        .ok (.planned plan abandoned) ∈ (coordinator.applyDue random events).2 →
        plan.event ∈ events ∧ ∃ candidates : List ReactionCandidate,
          (candidates.map ReactionCandidate.userId).Nodup ∧
          random.resolve coordinator.planner.tickIntervalMs plan.event candidates = .ok plan := by
  induction events with
  | nil => exact fun _ _ _ member => absurd member List.not_mem_nil
  | cons event later ih =>
    intro held coordinator ok plan abandoned member
    have handled := (applyEvent_applied random ok event).handled ok
    have planned := @applyEvent_planned _ random coordinator event plan abandoned
    have scheduled := applyEvent_schedule random coordinator event
    unfold applyDue at member
    generalize coordinator.applyEvent random event = result at handled planned scheduled member
    obtain ⟨next, outcome⟩ := result
    -- A plan that the first event brings is made for the candidates of now.
    have first : outcome = .ok (.planned plan abandoned) → plan.event = event ∧
        ∃ candidates : List ReactionCandidate, (candidates.map ReactionCandidate.userId).Nodup ∧
          random.resolve coordinator.planner.tickIntervalMs event candidates = .ok plan := by
      intro same
      obtain ⟨_, made, _⟩ := planned same
      exact ⟨(resolve_ok made).1, coordinator.candidates, candidates_unique ok, made⟩
    -- The first due event is applied; it makes a plan, a duplicate, or an error.
    cases outcome with
    | error error => cases List.mem_singleton.mp member
    | ok applied =>
      rcases List.mem_cons.mp member with same | inside
      · obtain ⟨about, made⟩ := first same.symm
        exact ⟨about ▸ List.mem_cons_self, about ▸ made⟩
      · -- Later events are planned by the coordinator that the first one leaves.
        obtain ⟨listed, made⟩ := ih handled.coordinated inside
        have interval : next.planner.tickIntervalMs = coordinator.planner.tickIntervalMs :=
          congrArg (fun entry => entry.2.2.2) scheduled
        exact ⟨List.mem_cons_of_mem _ listed, interval ▸ made⟩

end Planned

end EventCoordinator

open EventCoordinator

/-- A coordinator, the ticks so far, and the events that were planned, each with its tick. -/
structure TimedRun where
  coordinator : EventCoordinator
  ticks : Int
  planned : List (CodePoints × Int)

namespace TimedRun

section Turns

variable {G : Type} (random : RandomSource G)

/-- The tick that a call is made in; a tick begins with the poll for market events. -/
def tickOf (run : TimedRun) : CoordinatorCall → Int
  | .beforeTick tick _ => tick
  | .marketEvent _ tick => tick
  | _ => run.ticks

/-- A call of the runner, with the clock noted. -/
def turn (run : TimedRun) (request : CoordinatorCall) : TimedRun × CoordinatorReply :=
  let (coordinator, reply) := run.coordinator.call random request
  (⟨coordinator, match request with
      | .beforeTick tick _ => tick
      | _ => run.ticks,
    run.planned ++ (reply.outcomes.filterMap planOf).map fun plan =>
      (plan.event.eventId, run.tickOf request)⟩, reply)

/-- A run of turns that never faults. -/
def turnTotal (run : TimedRun) (request : CoordinatorCall) :
    Except Empty (TimedRun × CoordinatorReply) :=
  .ok (run.turn random request)

/-- A coordinator before its first tick. -/
def start (coordinator : EventCoordinator) : TimedRun := ⟨coordinator, 0, []⟩

/-- A run after a number of calls. -/
def after (run : TimedRun) (calls : List CoordinatorCall) : TimedRun :=
  (Machine.runTotal (turn random) run calls).1

/-- Whether the ticks keep to their schedule: each begins within its interval of the clock. -/
def onClock (run : TimedRun) : CoordinatorCall → Bool
  | .beforeTick tick now =>
    tick = run.ticks + 1 ∧
      (tick - 1) * run.coordinator.tickIntervalMs ≤ now - run.coordinator.startedMs ∧
      now - run.coordinator.startedMs < tick * run.coordinator.tickIntervalMs
  | _ => true

end Turns

/-- A coordinator whose ticks are counted, and that has applied all events up to the last tick. -/
structure Counted (run : TimedRun) : Prop where
  coordinated : ∃ held, Coordinated held run.coordinator
  interval : run.coordinator.planner.tickIntervalMs = run.coordinator.tickIntervalMs
  ordered : run.coordinator.source.Ordered
  counted : 0 ≤ run.ticks
  later : ∀ event ∈ run.coordinator.source.pending,
    run.ticks = 0 ∨ (run.ticks - 1) * run.coordinator.tickIntervalMs < event.startsAfterMs

/-- A call before a tick is for the next one, and not before the earliest time of it. -/
def Punctual (run : TimedRun) : CoordinatorCall → Prop
  | .beforeTick tick now => tick = run.ticks + 1 ∧
      run.ticks * run.coordinator.tickIntervalMs ≤ now - run.coordinator.startedMs
  | _ => True

section Clock

variable {G : Type} {random : RandomSource G} {run : TimedRun}

/-- A new coordinator has counted no ticks. -/
theorem Counted.start {events : List NewsShockEvent} {participants : List TraderSettings}
    {tickIntervalMs now : Int} {coordinator : EventCoordinator}
    (made : create events participants tickIntervalMs now = .ok coordinator) :
    (TimedRun.start coordinator).Counted := by
  have coordinated := (create_coordinated made).1
  -- The coordinator has been made of valid arguments.
  obtain ⟨_, made⟩ := passed made
  cases made
  exact ⟨⟨_, coordinated⟩, rfl, SyntheticEventSource.create_ordered events, le_refl 0,
    fun _ _ => .inl rfl⟩

/-- Punctual calls are counted. -/
theorem Counted.turn (counted : run.Counted) {request : CoordinatorCall}
    (punctual : run.Punctual request) : (run.turn random request).1.Counted := by
  obtain ⟨⟨held, ok⟩, interval, ordered, nonneg, later⟩ := counted
  have scheduled := call_schedule random run.coordinator request
  have coordinated := (call_called random ok request).coordinated
  have source : (run.turn random request).1.coordinator.source = _ := congrArg Prod.fst scheduled
  have ticked : (run.turn random request).1.coordinator.tickIntervalMs = _ :=
    congrArg (fun entry => entry.2.2.1) scheduled
  have planner : (run.turn random request).1.coordinator.planner.tickIntervalMs = _ :=
    congrArg (fun entry => entry.2.2.2) scheduled
  -- Each field is followed through the call that the run makes.
  refine ⟨⟨_, coordinated⟩, ?_, ?_, ?_, ?_⟩
  · rw [ticked, planner]
    cases request <;> exact interval
  · -- Only a poll takes events out of the source, and keeps the rest in order.
    rw [source]
    cases request with
    | beforeTick tick now => exact ordered.dueEvents _
    | marketEvent event tick => exact ordered
    | nextIntents userId tick snapshot => exact ordered
    | afterSubmit intent submitted tick now => exact ordered
  · -- Only a tick moves the count, by one.
    cases request with
    | beforeTick tick now =>
      show 0 ≤ tick
      have := punctual.1
      omega
    | marketEvent event tick => exact nonneg
    | nextIntents userId tick snapshot => exact nonneg
    | afterSubmit intent submitted tick now => exact nonneg
  · rw [source, ticked]
    cases request with
    | beforeTick tick now =>
      intro event waiting
      obtain ⟨rfl, reached⟩ := punctual
      -- An event that was not due starts after the time of this tick.
      have late := (ordered.mem_pending waiting).2
      refine .inr ?_
      show (run.ticks + 1 - 1) * _ < _
      rw [Int.add_sub_cancel]
      -- The clock has reached the tick's time, and the event was later than the clock.
      exact reached.trans_lt late
    | marketEvent event tick => exact later
    | nextIntents userId tick snapshot => exact later
    | afterSubmit intent submitted tick now => exact later

/-- No call changes the length of a tick, or the time of the start. -/
theorem turn_settings (random : RandomSource G) (run : TimedRun) (request : CoordinatorCall) :
    (run.turn random request).1.coordinator.tickIntervalMs = run.coordinator.tickIntervalMs ∧
      (run.turn random request).1.coordinator.startedMs = run.coordinator.startedMs := by
  -- What a call keeps is said once for all calls.
  have scheduled := call_schedule random run.coordinator request
  have ticked : (run.turn random request).1.coordinator.tickIntervalMs = _ :=
    congrArg (fun entry => entry.2.2.1) scheduled
  have started : (run.turn random request).1.coordinator.startedMs = _ :=
    congrArg (fun entry => entry.2.1) scheduled
  rw [ticked, started]
  cases request <;> exact ⟨rfl, rfl⟩

/-- The clock runs beside the coordinator. -/
theorem after_coordinator (calls : List CoordinatorCall) : ∀ run : TimedRun,
    (run.after random calls).coordinator = run.coordinator.reachedBy random calls := by
  induction calls with
  | nil => exact fun _ => rfl
  | cons first later ih => exact fun run => ih (run.turn random first).1

/-- One more call makes one more turn. -/
theorem after_concat (calls : List CoordinatorCall) (last : CoordinatorCall) : ∀ run : TimedRun,
    run.after random (calls ++ [last]) = ((run.after random calls).turn random last).1 := by
  induction calls with
  | nil => exact fun _ => rfl
  | cons first later ih => exact fun run => ih (run.turn random first).1

/-- Calls on the clock are punctual. -/
theorem punctual_of_onClock {request : CoordinatorCall} (kept : run.onClock request = true) :
    run.Punctual request := by
  -- Only the call before a tick reads the clock.
  cases request with
  | beforeTick tick now =>
    obtain ⟨rfl, reached, _⟩ := of_decide_eq_true kept
    rw [Int.add_sub_cancel] at reached
    exact ⟨rfl, reached⟩
  | marketEvent event tick => trivial
  | nextIntents userId tick snapshot => trivial
  | afterSubmit intent submitted tick now => trivial

/--
The orders that are planned in a tick lie ahead of it, with one exception.

The ticks keep to their schedule. The exception is a plan that a candidate reacts to without a
delay, for an event that has started by the earliest time of a tick other than the first one.
-/
theorem planned_ahead_iff (sound : random.Sound) {events : List NewsShockEvent}
    {participants : List TraderSettings} {tickIntervalMs started : Int}
    {coordinator : EventCoordinator}
    (made : create events participants tickIntervalMs started = .ok coordinator)
    (calls : List CoordinatorCall) {tick now : Int}
    (kept : Machine.throughout (turnTotal random) onClock (start coordinator)
      (calls ++ [.beforeTick tick now]) = true)
    {plan : ResolvedEventPlan} {abandoned : Nat}
    (planned : .ok (.planned plan abandoned) ∈
      ((coordinator.reachedBy random calls).beforeTick random tick now).2) :
    ∃ candidates : List ReactionCandidate,
      random.resolve tickIntervalMs plan.event candidates = .ok plan ∧
      ((∀ reaction ∈ plan.reactions, reaction.activated = true →
        ∀ offset ∈ reaction.orderTickOffsets, tick ≤ max offset 1) ↔
      tick ≤ 1 ∨ (tick - 1) * tickIntervalMs < plan.event.startsAfterMs ∨
        ∀ candidate ∈ random.reacting plan.event candidates,
          random.drawnDelay plan.event candidate ≠ 0) := by
  -- The clock condition covers the calls before, and the tick itself.
  obtain ⟨before, last⟩ := (Machine.throughout_append calls _ _).mp kept
  have settings : coordinator.tickIntervalMs = tickIntervalMs := by
    obtain ⟨_, made⟩ := passed made
    cases made
    rfl
  -- All calls before the tick are punctual, so its run is counted.
  have invariant : ((start coordinator).after random calls).Counted ∧
      ((start coordinator).after random calls).coordinator.tickIntervalMs = tickIntervalMs :=
    Machine.runTotal_throughout
      (fun run => run.Counted ∧ run.coordinator.tickIntervalMs = tickIntervalMs)
      (fun run request holds meets => ⟨holds.1.turn (punctual_of_onClock meets),
        (turn_settings random _ request).1.trans holds.2⟩) calls _ ⟨.start made, settings⟩ before
  have punctual := punctual_of_onClock ((Machine.throughout_cons rfl).mp last).1
  change Punctual ((start coordinator).after random calls) _ at punctual
  -- The run of the coordinator is the one that the ticks are counted along.
  have same : coordinator.reachedBy random calls =
      ((start coordinator).after random calls).coordinator :=
    (after_coordinator calls (start coordinator)).symm
  rw [same] at planned
  generalize (start coordinator).after random calls = run at invariant punctual planned
  obtain ⟨⟨⟨held, ok⟩, interval, ordered, _, later⟩, rfl⟩ := invariant
  rw [(beforeTick_register random run.coordinator tick now).2] at planned
  -- Taking the due events out changes nothing that the coordinator knows.
  have known : Coordinated held { run.coordinator with
      source := (run.coordinator.source.dueEvents (now - run.coordinator.startedMs)).1 } :=
    ⟨ok.named, ok.follows, ok.assigned, ok.listed, ok.lagged⟩
  obtain ⟨due, candidates, unique, resolved⟩ := applyDue_planned _ known planned
  change random.resolve run.coordinator.planner.tickIntervalMs _ _ = _ at resolved
  have positive := run.coordinator.planner.tickIntervalMs_pos
  rw [interval] at resolved positive
  -- The event was not due in the tick before, which it would have started by.
  have reached : tick ≤ 1 ∨
      (tick - 2) * run.coordinator.tickIntervalMs < plan.event.startsAfterMs := by
    rw [punctual.1, show run.ticks + 1 - 2 = run.ticks - 1 by omega]
    refine (later _ (ordered.mem_dueEvents.mp due).1).imp (fun first => ?_) id
    omega
  -- What the plan schedules follows from the times of its reactions.
  obtain ⟨_, timed, answered⟩ := resolve_times sound positive unique resolved
  refine ⟨candidates, resolved, fun all => ?_, fun ahead reaction member active => ?_⟩
  · -- Orders that all lie ahead leave no candidate who reacts at once to a late event.
    by_contra behind
    push Not at behind
    obtain ⟨second, early, candidate, reacts, no_delay⟩ := behind
    obtain ⟨reaction, member, active, schedule⟩ := answered candidate reacts
    have starts := (schedule.ahead_iff positive reached).mp (all reaction member active)
    unfold startsAhead at starts
    rcases of_decide_eq_true starts with first | soon | delayed
    · omega
    · omega
    · -- Each active reaction is that of a candidate, whose delay moves it ahead.
      exact delayed no_delay
  · obtain ⟨candidate, reacts, schedule⟩ := timed reaction member active
    refine (schedule.ahead_iff positive reached).mpr (decide_eq_true ?_)
    exact ahead.imp id (Or.imp id fun all => all candidate reacts)

end Clock

end TimedRun

/-- The plan of an outcome was made in it. -/
theorem planOf_eq_some {outcome : Except ValueError Applied} {plan : ResolvedEventPlan}
    (found : planOf outcome = some plan) : ∃ abandoned, outcome = .ok (.planned plan abandoned) := by
  -- Only an event that was planned has brought a plan.
  cases outcome with
  | error error => cases found
  | ok applied =>
    cases applied with
    | deduplicated => cases found
    | planned made abandoned =>
      cases found
      exact ⟨abandoned, rfl⟩

/-- A panic in the middle of the second tick is planned for the third one. -/
theorem planned_ahead_second : ∃ candidates plan,
    RandomSource.least.resolve 1000 (panicNews firstId 1500 firstNews_present) candidates =
      .ok plan ∧
    ∀ reaction ∈ plan.reactions, reaction.activated = true →
      ∀ offset ∈ reaction.orderTickOffsets, 2 ≤ max offset 1 := by
  -- One participant is registered, and the event is the only one.
  have made : EventCoordinator.create [panicNews firstId 1500 firstNews_present] [reactor] 1000 0 =
    .ok (reactorCoordinator [panicNews firstId 1500 firstNews_present]) := rfl
  have about : (((reactorCoordinator [panicNews firstId 1500 firstNews_present]).reachedBy .least
      [.beforeTick 1 0]).beforeTick .least 2 1500).2.filterMap (fun outcome =>
        (planOf outcome).map ResolvedEventPlan.event) =
      [panicNews firstId 1500 firstNews_present] := by decide +kernel
  -- The outcome of the second tick holds the plan for the event.
  obtain ⟨outcome, member, found⟩ := List.mem_filterMap.mp (about.symm ▸ List.mem_cons_self)
  obtain ⟨plan, planned, same⟩ := Option.map_eq_some_iff.mp found
  obtain ⟨abandoned, rfl⟩ := planOf_eq_some planned
  obtain ⟨candidates, resolved, ahead⟩ :=
    TimedRun.planned_ahead_iff least_sound made [.beforeTick 1 0] (by decide +kernel) member
  rw [same] at resolved ahead
  -- The event starts in the middle of the second tick, so its orders lie ahead.
  exact ⟨candidates, plan, resolved, ahead.mpr (.inr (.inl (by decide)))⟩

/-- A panic in the middle of the first tick is planned in the second one, for the first one. -/
theorem planned_behind_first :
    Machine.throughout (TimedRun.turnTotal .least) TimedRun.onClock
      (.start (reactorCoordinator [panicNews firstId 500 firstNews_present]))
      [.beforeTick 1 0, .beforeTick 2 1000] = true ∧
    ((((reactorCoordinator [panicNews firstId 500 firstNews_present]).reachedBy .least
      [.beforeTick 1 0]).beforeTick .least 2 1000).2.filterMap planOf).any (fun plan =>
        plan.reactions.any fun reaction => reaction.activated &&
          reaction.orderTickOffsets.any fun offset => max offset 1 < 2) = true := by
  decide +kernel

end StockMarket
