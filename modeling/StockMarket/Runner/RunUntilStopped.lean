import StockMarket.Matcher.MarketSession
import StockMarket.Runner.WaitingTime

/-! The loop of a runner, and what the time before its first tick does to reactions. -/

namespace StockMarket

open EventCoordinator

/-- One pass of the loop: what the wall clock reads, and what the coordinator is called for. -/
structure LoopPass where
  wallNow : Instant
  polled : List EventItem
  now : Int
  decided : List (String × BookSnapshot)

/-- The calls of one tick: polled events, the tick itself, and the decisions of the traders. -/
def LoopPass.tickOnce (pass : LoopPass) (tick : Int) : List CoordinatorCall :=
  pass.polled.map (fun event => .marketEvent event tick) ++
    .beforeTick tick pass.now ::
      pass.decided.map fun (userId, snapshot) => .nextIntents userId tick snapshot

/-- The calls that the loop makes after a number of ticks; it waits while the market is closed. -/
def runUntilStopped (mode : MarketMode) : Int → List LoopPass → List CoordinatorCall
  | _, [] => []
  | ticks, pass :: later =>
    if isOpen mode pass.wallNow then
      pass.tickOnce (ticks + 1) ++ runUntilStopped mode (ticks + 1) later
    else runUntilStopped mode ticks later

/-- Whether the ticks come after a waiting time, each one interval after the one before it. -/
def evenlySpaced (mode : MarketMode) (startedMs tickIntervalMs waited : Int) :
    Int → List LoopPass → Bool
  | _, [] => true
  | ticks, pass :: later =>
    if isOpen mode pass.wallNow then
      pass.now - startedMs = waited + ticks * tickIntervalMs &&
        evenlySpaced mode startedMs tickIntervalMs waited (ticks + 1) later
    else evenlySpaced mode startedMs tickIntervalMs waited ticks later

/-- Whether a call is made by the thread of the loop; orders come back in threads of their own. -/
def CoordinatorCall.inLoop : CoordinatorCall → Bool
  | .afterSubmit _ _ _ _ => false
  | _ => true

namespace TimedRun

section Loop

variable {G : Type} (random : RandomSource G) {startedMs tickIntervalMs waited : Int}

/-- Whether calls keep to the schedule, after a number of ticks. -/
def keepsSchedule (startedMs tickIntervalMs waited : Int) : Int → List CoordinatorCall → Bool
  | _, [] => true
  | ticks, .beforeTick tick now :: later =>
    decide (tick = ticks + 1 ∧ now - startedMs = waited + ticks * tickIntervalMs) &&
      keepsSchedule startedMs tickIntervalMs waited tick later
  | ticks, .marketEvent _ tick :: later =>
    decide (tick = ticks + 1) && keepsSchedule startedMs tickIntervalMs waited ticks later
  | ticks, .nextIntents _ _ _ :: later => keepsSchedule startedMs tickIntervalMs waited ticks later
  | ticks, .afterSubmit _ _ _ _ :: later => keepsSchedule startedMs tickIntervalMs waited ticks later

/-- The schedule is a matter of the calls, and not of what becomes of them. -/
theorem throughout_spaced (calls : List CoordinatorCall) : ∀ run : TimedRun,
    Machine.throughout (turnTotal random) (spaced waited) run calls =
      keepsSchedule run.coordinator.startedMs run.coordinator.tickIntervalMs waited run.ticks
        calls := by
  induction calls with
  | nil => exact fun _ => rfl
  | cons first later ih =>
    intro run
    obtain ⟨interval, started⟩ := turn_settings random run first
    -- The first call is checked in the state that it meets, and the others in later ones.
    have unfolded : Machine.throughout (turnTotal random) (spaced waited) run (first :: later) =
        (run.spaced waited first && Machine.throughout (turnTotal random) (spaced waited)
          (run.turn random first).1 later) := rfl
    rw [unfolded, ih, interval, started]
    cases first with
    | beforeTick tick now => rfl
    | marketEvent event tick => rfl
    | nextIntents userId tick snapshot => exact Bool.true_and _
    | afterSubmit intent submitted tick now => exact Bool.true_and _

/-- The threads of the orders do not disturb the schedule. -/
theorem keepsSchedule_filter (calls : List CoordinatorCall) : ∀ ticks : Int,
    keepsSchedule startedMs tickIntervalMs waited ticks (calls.filter CoordinatorCall.inLoop) =
      keepsSchedule startedMs tickIntervalMs waited ticks calls := by
  induction calls with
  | nil => exact fun _ => rfl
  | cons first later ih =>
    intro ticks
    -- Only calls before a tick and market events are on schedule.
    cases first with
    | beforeTick tick now => exact congrArg (and _) (ih tick)
    | marketEvent event tick => exact congrArg (and _) (ih ticks)
    | nextIntents userId tick snapshot => exact ih ticks
    | afterSubmit intent submitted tick now => exact ih ticks

/-- The calls of one tick keep to the schedule, as those that follow do. -/
theorem keepsSchedule_tickOnce (pass : LoopPass) (ticks : Int) (later : List CoordinatorCall) :
    keepsSchedule startedMs tickIntervalMs waited ticks (pass.tickOnce (ticks + 1) ++ later) =
      (decide (pass.now - startedMs = waited + ticks * tickIntervalMs) &&
        keepsSchedule startedMs tickIntervalMs waited (ticks + 1) later) := by
  unfold LoopPass.tickOnce
  rw [List.append_assoc, List.cons_append]
  -- The polled events belong to the tick that is about to begin.
  induction pass.polled with
  | nil =>
    rw [List.map_nil, List.nil_append, keepsSchedule]
    rw [show decide (ticks + 1 = ticks + 1 ∧
      pass.now - startedMs = waited + ticks * tickIntervalMs) =
        decide (pass.now - startedMs = waited + ticks * tickIntervalMs) by simp]
    congr 1
    -- What the traders decide is not on schedule at all.
    induction pass.decided with
    | nil => rfl
    | cons decision decided ih => exact ih
  | cons event polled ih =>
    rw [List.map_cons, List.cons_append, keepsSchedule, ih, decide_eq_true rfl, Bool.true_and]

/-- A loop whose ticks are evenly spaced makes calls that keep to the schedule. -/
theorem keepsSchedule_loop (mode : MarketMode) (passes : List LoopPass) : ∀ ticks : Int,
    keepsSchedule startedMs tickIntervalMs waited ticks (runUntilStopped mode ticks passes) =
      evenlySpaced mode startedMs tickIntervalMs waited ticks passes := by
  -- The ticks are counted on while the market is open.
  induction passes with
  | nil => exact fun _ => rfl
  | cons pass later ih =>
    intro ticks
    unfold runUntilStopped evenlySpaced
    split_ifs
    · -- An open market lets the loop take a tick, and a closed one lets it wait.
      rw [keepsSchedule_tickOnce, ih]
    · exact ih ticks

/--
An order is dropped only after a tick in which its trader could have emitted it.

That tick is not before the one in which its event was planned. The market may have been closed for
any time before the first tick. Every event is planned in time.
-/
theorem dropped_after_tick (sound : random.Sound) {events : List NewsShockEvent}
    {participants : List TraderSettings} {coordinator : EventCoordinator}
    (made : create events participants tickIntervalMs startedMs = .ok coordinator)
    (nonneg : 0 ≤ waited) {mode : MarketMode} {passes : List LoopPass}
    (even : evenlySpaced mode startedMs tickIntervalMs waited 0 passes = true)
    {calls : List CoordinatorCall}
    (loop : calls.filter CoordinatorCall.inLoop = runUntilStopped mode 0 passes)
    (in_time : Machine.throughout (turnTotal random) (timely random) (start coordinator) calls =
      true)
    {earlier later : List CoordinatorCall} {tick now : Int}
    (split : calls = earlier ++ .beforeTick tick now :: later) {userId : String} {eventId : CodePoints}
    {offset : Int}
    (dropped : (coordinator.reachedBy random earlier).Dropped random tick now userId eventId
      offset) :
    ∃ applied, (eventId, applied) ∈
        ((start coordinator).after random (earlier ++ [.beforeTick tick now])).planned ∧
      applied ≤ max offset 1 ∧ max offset 1 < tick := by
  -- The coordinator has kept the start and the interval that it was made with.
  have settings : coordinator.startedMs = startedMs ∧
      coordinator.tickIntervalMs = tickIntervalMs := by
    obtain ⟨_, made⟩ := passed made
    cases made
    exact ⟨rfl, rfl⟩
  have on_time : Machine.throughout (turnTotal random) (spaced waited) (start coordinator) calls =
      true := by
    -- The other threads do not matter, and the loop keeps to the schedule.
    rw [throughout_spaced, ← keepsSchedule_filter, loop]
    show keepsSchedule coordinator.startedMs coordinator.tickIntervalMs waited 0 _ = true
    rw [settings.1, settings.2, keepsSchedule_loop, even]
  have both := Machine.throughout_and on_time in_time
  -- Every call up to this tick is on schedule, and every event was planned in time.
  rw [split] at both
  obtain ⟨before, rest⟩ := (Machine.throughout_append earlier _ _).mp both
  obtain ⟨now_both, _⟩ := (Machine.throughout_cons rfl).mp rest
  have fitting : ((start coordinator).after random earlier).Fitting waited :=
    Machine.runTotal_throughout (fun run => run.Fitting waited)
      (fun run request fitting meets => by
        rw [Bool.and_eq_true] at meets
        exact fitting.turn sound nonneg meets.1 meets.2) earlier _ (.start made) before
  rw [Bool.and_eq_true] at now_both
  -- The order is dropped in the state that the earlier calls have led to.
  have same : ((start coordinator).after random earlier).coordinator =
      coordinator.reachedBy random earlier := after_coordinator earlier (start coordinator)
  rw [← same] at dropped
  rw [after_concat]
  exact fitting.dropped sound now_both.1 now_both.2 dropped

end Loop

end TimedRun

/-- A pass of the loop at noon on a Thursday, when the coordinator is as old as given. -/
def noonPass (now : Int) : LoopPass := ⟨3 * 3600000000, [], now, []⟩

/-- A panic that starts in the first second. -/
def earlyPanic : EventCoordinator :=
  reactorCoordinator [panicNews firstId 500 firstNews_present]

/-- After a second of waiting, the first order of the panic is dropped in the third tick. -/
theorem dropped_after_tick_third : ∃ applied,
    (firstId, applied) ∈ ((TimedRun.start earlyPanic).after .least
      ([.beforeTick 1 1000, .beforeTick 2 2000] ++ [.beforeTick 3 3000])).planned ∧
    applied ≤ max 1 1 ∧ max (1 : Int) 1 < 3 := by
  have made : EventCoordinator.create [panicNews firstId 500 firstNews_present] [reactor] 1000 0 =
    .ok earlyPanic := rfl
  have even : evenlySpaced .scheduled 0 1000 1000 0
    [noonPass 1000, noonPass 2000, noonPass 3000] = true := by decide
  have loop : ([.beforeTick 1 1000, .beforeTick 2 2000, .beforeTick 3 3000] :
      List CoordinatorCall).filter CoordinatorCall.inLoop =
    runUntilStopped .scheduled 0 [noonPass 1000, noonPass 2000, noonPass 3000] := rfl
  -- The order of the first tick is dropped at the third one.
  have dropped : (earlyPanic.reachedBy .least [.beforeTick 1 1000, .beforeTick 2 2000]).Dropped
    .least 3 3000 "reactor" firstId 1 := by decide +kernel
  exact TimedRun.dropped_after_tick .least least_sound made (by decide) even loop
    (by decide +kernel) rfl dropped

/-- After five seconds of waiting, both orders of the panic are dropped before the first tick. -/
theorem waiting_drops_reactions :
    evenlySpaced .scheduled 0 1000 5000 0 [noonPass 5000] = true ∧
    runUntilStopped .scheduled 0 [noonPass 5000] = [.beforeTick 1 5000] ∧
    ((earlyPanic.beforeTick .least 1 5000).2.filterMap planOf).map (fun plan =>
      plan.reactions.map ResolvedReactionPlan.orderTickOffsets) = [[[1, 2]]] ∧
    earlyPanic.Dropped .least 1 5000 "reactor" firstId 1 ∧
    earlyPanic.Dropped .least 1 5000 "reactor" firstId 2 :=
  ⟨by decide, rfl, by decide +kernel, by decide +kernel, by decide +kernel⟩

end StockMarket
