import StockMarket.Runner.CoordinatorCalls

/-! Where the orders of each event are while reactions are emitted and come back at any time. -/

namespace StockMarket

/-- An intent that was emitted, and the event whose plan it was emitted from. -/
structure Emission where
  intent : OrderIntent
  tick : Int
  eventId : Option CodePoints

/-- A coordinator, the plans made so far, and the intents that have not come back yet. -/
structure ReactionRun where
  coordinator : EventCoordinator
  plans : List ResolvedEventPlan
  flying : List Emission

/-- What happens next; any of the intents in flight may come back, as submitted or as failed. -/
inductive ReactionTurn where
  | beforeTick (tick now : Int)
  | marketEvent (event : EventItem) (tick : Int)
  | nextIntents (userId : String) (tick : Int) (snapshot : BookSnapshot)
  | afterSubmit (index : Nat) (submitted : Bool) (now : Int)

namespace ReactionRun

section Turns

variable {G : Type} (random : RandomSource G)

/-- Let a coordinator be called, and remember the plans that it makes. -/
def called (run : ReactionRun) (request : CoordinatorCall) : ReactionRun :=
  let (coordinator, reply) := run.coordinator.call random request
  { run with coordinator, plans := run.plans ++ reply.outcomes.filterMap planOf }

/-- A turn of the runner. -/
def turn (run : ReactionRun) : ReactionTurn → ReactionRun
  | .beforeTick tick now => run.called random (.beforeTick tick now)
  | .marketEvent event tick => run.called random (.marketEvent event tick)
  | .nextIntents userId tick snapshot =>
    let (coordinator, intents) := run.coordinator.nextIntents userId tick snapshot
    let eventId := (latestPlans run.plans userId).map Prod.fst
    { run with
      coordinator
      flying := run.flying ++ intents.map fun intent => ⟨intent, tick, eventId⟩ }
  | .afterSubmit index submitted now =>
    match run.flying[index]? with
    | none => run
    | some emission =>
      { run with
        coordinator := run.coordinator.afterSubmit emission.intent submitted emission.tick now
        flying := run.flying.eraseIdx index }

/-- A run of turns that never faults. -/
def total (run : ReactionRun) (turn : ReactionTurn) : Except Empty (ReactionRun × Unit) :=
  .ok (run.turn random turn, ())

/-- An intent comes back in time when its trader is still assigned to the event that it is from. -/
def inTime (run : ReactionRun) : ReactionTurn → Bool
  | .afterSubmit index _ _ => (run.flying[index]?).all fun emission =>
    run.coordinator.traderEvent.get? emission.intent.userId = emission.eventId
  | _ => true

end Turns

/-- The events of the intents in flight. -/
def sources (run : ReactionRun) : List (Option CodePoints) := run.flying.map Emission.eventId

/-- Every planned order is submitted, dropped, left to its trader, or in flight. -/
structure Conserved (run : ReactionRun) : Prop where
  each : ∀ eventId state, run.coordinator.runs.get? eventId = some state →
    state.planned = state.submitted + state.dropped + run.coordinator.remainingOf eventId +
      run.sources.count (some eventId)
  overall : run.coordinator.reactionsPlanned =
    run.coordinator.reactionsSubmitted + run.coordinator.reactionsDropped +
      run.coordinator.traders.total (fun _ trader => trader.remainingReactionOrders) +
        run.flying.length

/-- Nothing is left to any trader, and nothing is in flight. -/
def Drained (run : ReactionRun) : Prop :=
  run.flying = [] ∧ ∀ userId trader, run.coordinator.traders.get? userId = some trader →
    trader.remainingReactionOrders = 0

/-- Once everything has drained, the planned orders are submitted or dropped. -/
theorem Conserved.drained {run : ReactionRun} (conserved : run.Conserved) (drained : run.Drained) :
    (∀ eventId state, run.coordinator.runs.get? eventId = some state →
      state.submitted + state.dropped = state.planned) ∧
    run.coordinator.reactionsSubmitted + run.coordinator.reactionsDropped =
      run.coordinator.reactionsPlanned := by
  obtain ⟨landed, idle⟩ := drained
  have done : ∀ item ∈ run.coordinator.traders.items, item.2.remainingReactionOrders = 0 :=
    fun item member => idle item.1 item.2 (Dict.get?_eq_some_iff.mpr member)
  -- Nothing left to any trader means that nothing is left of any event.
  refine ⟨fun eventId state found => ?_, ?_⟩
  · have counted := conserved.each eventId state found
    have nothing : run.coordinator.remainingOf eventId = 0 :=
      Dict.total_eq_zero fun item member => by rw [done item member, ite_self]
    rw [nothing, sources, landed] at counted
    exact counted.symm
  · have counted := conserved.overall
    rw [Dict.total_eq_zero done, landed] at counted
    exact counted.symm

/-- What holds as long as intents come back in time. -/
structure Accountable (run : ReactionRun) : Prop where
  coordinated : EventCoordinator.Coordinated (latestPlans run.plans) run.coordinator
  balanced : EventCoordinator.Balanced run.sources run.coordinator
  attributed : ∀ eventId ∈ run.sources, eventId.isSome = true

/-- An accountable run loses nothing. -/
theorem Accountable.conserved {run : ReactionRun} (accountable : run.Accountable) :
    run.Conserved where
  each := by
    intro eventId state found
    have balanced := accountable.balanced.each eventId
    simp only [EventCoordinator.count, found, Option.map_some, Option.getD_some] at balanced
    exact balanced
  overall := by
    have balanced := accountable.balanced.overall
    rwa [sources, List.length_map] at balanced

section Rules

variable {G : Type} (random : RandomSource G) {run : ReactionRun}

/-- A call that leaves the intents in flight alone keeps them accountable. -/
theorem Accountable.called (accountable : run.Accountable) (request : CoordinatorCall)
    (balanced : EventCoordinator.Balanced run.sources
      (run.coordinator.call random request).1) : (run.called random request).Accountable := by
  have called :=
    EventCoordinator.call_called random accountable.coordinated request
  refine ⟨?_, balanced, accountable.attributed⟩
  -- The plans of the call come behind those that were made before.
  have coordinated := called.coordinated
  rw [latestPlans, ← Holdings.follow_append] at coordinated
  exact coordinated

/-- The orders that a trader emits are in flight from then on. -/
theorem Accountable.nextIntents (accountable : run.Accountable) (userId : String) (tick : Int)
    (snapshot : BookSnapshot) :
    (run.turn random (.nextIntents userId tick snapshot)).Accountable := by
  have called := EventCoordinator.nextIntents_called accountable.coordinated userId tick snapshot
  obtain ⟨balanced, followed⟩ := EventCoordinator.nextIntents_balanced accountable.coordinated
    accountable.balanced userId tick snapshot
  generalize emitted : (run.coordinator.nextIntents userId tick snapshot).2 = intents
    at balanced followed
  -- Every intent is marked with the event whose plan its trader follows.
  have flown : (run.turn random (.nextIntents userId tick snapshot)).sources =
      run.sources ++
        List.replicate intents.length ((latestPlans run.plans userId).map Prod.fst) := by
    show (run.flying ++ List.map _ (run.coordinator.nextIntents userId tick snapshot).2).map _ = _
    rw [emitted, List.map_append, List.map_map]
    exact congrArg _ (List.map_const' ..)
  refine ⟨called.coordinated, flown ▸ balanced, fun eventId member => ?_⟩
  rw [flown] at member
  rcases List.mem_append.mp member with before | now
  · exact accountable.attributed eventId before
  · -- A trader that emits anything follows a plan, so that the mark is there.
    obtain ⟨some_emitted, rfl⟩ := List.mem_replicate.mp now
    rw [Option.isSome_map]
    exact followed fun none_emitted => some_emitted (none_emitted ▸ rfl)

/-- An intent that comes back leaves those that stay in flight. -/
theorem Accountable.returning (accountable : run.Accountable) {index : Nat} {emission : Emission}
    (found : run.flying[index]? = some emission) :
    ∃ eventId, emission.eventId = some eventId ∧
      (some eventId :: (run.flying.eraseIdx index).map Emission.eventId).Perm run.sources := by
  obtain ⟨inside, same⟩ := List.getElem?_eq_some_iff.mp found
  -- The intents in flight are the one that comes back and the others.
  have back : (emission.eventId :: (run.flying.eraseIdx index).map Emission.eventId).Perm
      run.sources := by
    have perm := (List.getElem_cons_eraseIdx_perm inside).map Emission.eventId
    rwa [same] at perm
  have named := accountable.attributed emission.eventId (back.subset List.mem_cons_self)
  obtain ⟨eventId, source⟩ := Option.isSome_iff_exists.mp named
  exact ⟨eventId, source, source ▸ back⟩

/-- An intent that comes back in time counts for the event whose plan it was emitted from. -/
theorem Accountable.afterSubmit (accountable : run.Accountable) (index : Nat) (submitted : Bool)
    (now : Int) (timely : run.inTime (.afterSubmit index submitted now) = true) :
    (run.turn random (.afterSubmit index submitted now)).Accountable := by
  simp only [inTime] at timely
  simp only [ReactionRun.turn]
  cases found : run.flying[index]? with
  | none => exact accountable
  | some emission =>
    -- The trader is still on the event that the intent is from.
    rw [found, Option.all_some, decide_eq_true_eq] at timely
    obtain ⟨eventId, source, back⟩ := accountable.returning found
    rw [source] at timely
    have called := EventCoordinator.afterSubmit_called accountable.coordinated emission.intent
      submitted emission.tick now
    refine ⟨called.coordinated, ?_, fun other member =>
      accountable.attributed other (back.subset (List.mem_cons_of_mem _ member))⟩
    exact EventCoordinator.afterSubmit_balanced accountable.coordinated accountable.balanced timely
      back submitted emission.tick now

/-- Every turn in which no intent comes back late keeps the orders accountable. -/
theorem Accountable.turn (accountable : run.Accountable) (turn : ReactionTurn)
    (timely : run.inTime turn = true) : (run.turn random turn).Accountable := by
  -- Each turn of the runner has its own law; a report has to come in time.
  cases turn with
  | beforeTick tick now =>
    exact accountable.called random (.beforeTick tick now)
      ((EventCoordinator.beforeTick_called random accountable.coordinated tick now).2
        accountable.balanced)
  | marketEvent event tick =>
    have applied := EventCoordinator.applyMarketEvent_applied random accountable.coordinated
      event tick
    exact accountable.called random (.marketEvent event tick)
      ((applied.handled accountable.coordinated).balanced accountable.balanced)
  | nextIntents userId tick snapshot => exact accountable.nextIntents random userId tick snapshot
  | afterSubmit index submitted now => exact accountable.afterSubmit random index submitted now timely

/-- Over a run in which no intent comes back late, the orders stay accountable. -/
theorem run_accountable (turns : List ReactionTurn) : ∀ {run : ReactionRun}, run.Accountable →
    Machine.throughout (total random) inTime run turns = true →
      (turns.foldl (ReactionRun.turn random) run).Accountable := by
  induction turns with
  | nil => exact fun accountable _ => accountable
  | cons first later ih =>
    intro run accountable timely
    -- Nothing comes back late in the first turn, nor in the state that it leads to.
    obtain ⟨first_timely, later_timely⟩ := (Machine.throughout_cons rfl).mp timely
    exact ih (accountable.turn random first first_timely) later_timely

end Rules

/-- A run that starts with a new coordinator. -/
def start (coordinator : EventCoordinator) : ReactionRun := ⟨coordinator, [], []⟩

/--
The orders of every event are conserved when no intent comes back late.

Late is an intent whose trader has been taken off the event that the intent was emitted for.
-/
theorem reactions_conserved {G : Type} (random : RandomSource G) {events : List NewsShockEvent}
    {participants : List TraderSettings} {tickIntervalMs now : Int}
    {coordinator : EventCoordinator}
    (made : EventCoordinator.create events participants tickIntervalMs now = .ok coordinator)
    (turns : List ReactionTurn)
    (timely : Machine.throughout (total random) inTime (start coordinator) turns = true) :
    (turns.foldl (turn random) (start coordinator)).Conserved ∧
      ((turns.foldl (turn random) (start coordinator)).Drained →
        (∀ eventId state,
          (turns.foldl (turn random) (start coordinator)).coordinator.runs.get? eventId =
            some state → state.submitted + state.dropped = state.planned) ∧
        (turns.foldl (turn random) (start coordinator)).coordinator.reactionsSubmitted +
            (turns.foldl (turn random) (start coordinator)).coordinator.reactionsDropped =
          (turns.foldl (turn random) (start coordinator)).coordinator.reactionsPlanned) := by
  obtain ⟨coordinated, balanced⟩ := EventCoordinator.create_coordinated made
  -- A new coordinator has planned nothing, and nothing is in flight.
  have ready : (start coordinator).Accountable :=
    ⟨coordinated, balanced, fun eventId member => absurd member List.not_mem_nil⟩
  have accountable := run_accountable random turns ready timely
  exact ⟨accountable.conserved, accountable.conserved.drained⟩

/-- The two orders of a panic come back, one as submitted and one as failed. -/
theorem reactions_conserved_reactor :
    ([.beforeTick 1 0, .nextIntents "reactor" 1 ⟨"005930", [], []⟩, .afterSubmit 1 true 0,
      .afterSubmit 0 false 5].foldl (turn .least)
        (start (reactorCoordinator [panicNews firstId 0 (by decide)]))).Conserved :=
  have made : EventCoordinator.create [panicNews firstId 0 (by decide)] [reactor] 1000 0 =
    .ok (reactorCoordinator [panicNews firstId 0 (by decide)]) := rfl
  (reactions_conserved .least made _ (by decide +kernel)).1

/-- The id of the event after the first one. -/
def secondId : CodePoints := codePoints "second"

/--
The orders of a panic come back after the trader has been planned for the next one.

Both are counted for the next event, which has planned two others that the trader still has.
-/
theorem late_intents_misattributed :
    ¬ ([.beforeTick 1 0, .nextIntents "reactor" 1 ⟨"005930", [], []⟩, .beforeTick 2 1000,
      .afterSubmit 0 true 1000, .afterSubmit 0 true 1000].foldl (turn .least)
        (start (reactorCoordinator
          [panicNews firstId 0 (by decide), panicNews secondId 1000 (by decide)]))).Conserved := by
  intro conserved
  generalize reached : List.foldl _ _ _ = run at conserved
  -- The first event has planned two orders, and has counted neither of them.
  have first : run.coordinator.runs.get? firstId =
      some ⟨firstId, 2, 0, 0, 1, false, true, {"reactor"}⟩ := by
    rw [← reached]
    decide +kernel
  have left : run.coordinator.remainingOf firstId = 0 ∧ run.sources = [] := by
    rw [← reached]
    decide +kernel
  have counted := conserved.each firstId _ first
  rw [left.1, left.2] at counted
  exact absurd counted (by decide)

end ReactionRun

end StockMarket
