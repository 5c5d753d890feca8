import Mathlib.Data.Int.CardIntervalMod
import StockMarket.Runner.Housekeeping

/-! The participants are asked in turn, however many of them a tick gets to. -/

namespace StockMarket

namespace RunnerProgram

/-- Ask participants as a tick does, and say which ones were considered. -/
def considerParticipants (settings : RunnerSettings) (tick cursor : Nat)
    (snapshots : Dict String BookSnapshot) :
    List Nat → RunnerProgram (Except RunnerError (List Nat))
  | [] => return .ok []
  | offset :: later => do
    let free : Bool ← step .hasFreeSlot
    if free then
      let index := (cursor + offset) % settings.participants.length
      match (settings.participants[index]?).bind snapshots.get? with
      | none =>
        let considered ← considerParticipants settings tick cursor snapshots later
        return considered.map (index :: ·)
      | some snapshot =>
        let acquired : Bool ← step (.acquire false)
        if acquired then
          let intents : List OrderIntent ← step (.nextIntents index tick snapshot)
          match ← startIntents tick intents with
          | .error error => return .error error
          | .ok () =>
            let considered ← considerParticipants settings tick cursor snapshots later
            return considered.map (index :: ·)
        else
          return .ok []
    else
      return .ok []

/-- Go on with the next participant in turn, and say which ones were considered. -/
def enqueueConsidered (settings : RunnerSettings) (tick : Nat)
    (snapshots : Dict String BookSnapshot) : RunnerProgram (Except RunnerError (List Nat)) := do
  let count := settings.participants.length
  if count = 0 then
    return .ok []
  else
    let cursor : Nat ← step .cursor
    match ← considerParticipants settings tick cursor snapshots (List.range count) with
    | .error error => return .error error
    | .ok considered =>
      if considered.length ≠ 0 then
        step (.setCursor ((cursor + considered.length) % count))
        return .ok considered
      else
        return .ok considered

/-- One tick that says which participants were considered. -/
def consideringTick (settings : RunnerSettings) : RunnerProgram (Except RunnerError (List Nat)) := do
  let tick ← step .nextTick
  match ← expireOrders with
  | .error error => return .error error
  | .ok () =>
    let snapshots ← fetchSnapshots .empty settings.participants.eraseDups
    enqueueConsidered settings tick snapshots

section Considered

variable (settings : RunnerSettings) (tick cursor : Nat) (snapshots : Dict String BookSnapshot)

/-- As many participants are counted as are said to be considered. -/
theorem askParticipants_eq (offsets : List Nat) :
    askParticipants settings tick cursor snapshots offsets =
      Except.map List.length <$> considerParticipants settings tick cursor snapshots offsets := by
  induction offsets with
  | nil => rfl
  | cons offset later ih =>
    -- One more is counted when one more is said to be considered.
    have further (index : Nat) :
        (askParticipants settings tick cursor snapshots later >>= fun considered =>
          (pure (considered.map (1 + ·)) : RunnerProgram (Except RunnerError Nat))) =
        Except.map List.length <$>
          (considerParticipants settings tick cursor snapshots later >>= fun considered =>
            (pure (considered.map (index :: ·)) : RunnerProgram (Except RunnerError (List Nat)))) := by
      rw [ih, Program.bind_map, Program.map_bind]
      -- The answer is counted, whether the later participants are asked or not.
      refine congrArg _ (funext fun considered => ?_)
      cases considered with
      | error _ => rfl
      | ok considered =>
        exact congrArg (fun count => pure (Except.ok count)) (Nat.add_comm 1 considered.length)
    rw [askParticipants, considerParticipants]
    -- Both ask whether a slot is free.
    refine Program.bind_viewed fun free => ?_
    cases free with
    | false => rfl
    | true =>
      simp only [if_true]
      generalize settings.participants[(cursor + offset) % settings.participants.length]?.bind
        snapshots.get? = book
      cases book with
      | none => exact further _
      | some snapshot =>
        refine Program.bind_viewed fun acquired => ?_
        cases acquired with
        | false => rfl
        | true =>
          simp only [if_true]
          refine Program.bind_viewed fun intents => Program.bind_viewed fun result => ?_
          cases result with
          | error _ => rfl
          | ok _ => exact further _

/-- A tick is one that says who was considered, and keeps it to itself. -/
theorem tickOnce_eq :
    tickOnce settings = Except.map (fun _ => ()) <$> consideringTick settings := by
  refine Program.bind_viewed fun tick => Program.bind_viewed fun result => ?_
  -- The order expiry ends the tick in both.
  cases result with
  | error _ => rfl
  | ok _ =>
    -- Both fetch the same snapshots, and read the same cursor.
    refine Program.bind_viewed fun snapshots => ?_
    unfold enqueueDueIntents enqueueConsidered
    simp only
    split_ifs
    · rfl
    · refine Program.bind_viewed fun cursor => ?_
      rw [askParticipants_eq settings tick cursor snapshots, Program.bind_map]
      refine Program.bind_viewed fun considered => ?_
      cases considered with
      | error _ => rfl
      | ok considered =>
        simp only [Except.map]
        split_ifs <;> rfl

end Considered

end RunnerProgram

/-- What is asked for, as it is served by threads that say who was considered. -/
def RunnerState.serveConsidering (settings : RunnerSettings) (state : RunnerState) :
    RunnerRequest → Option (RunnerState × RunnerProgram (Except RunnerError (List Nat)))
  | .tickOnce => some (state, .consideringTick settings)
  -- Other requests answer with nobody considered.
  | request => (state.serve settings request).map fun served =>
      (served.1, Except.map (fun _ => []) <$> served.2)

/-- The runner, with ticks that say who was considered. -/
def consideringService (settings : RunnerSettings) : Service RunnerOp RunnerOp.Reply
    (Except RunnerError (List Nat)) RunnerState Nat RunnerRequest RunnerNature where
  exec := RunnerState.exec settings
  serve := fun state _ => state.serveConsidering settings

/-- The runner, with the participants that each tick considers. -/
abbrev ConsideringSystem :=
  Shared RunnerOp RunnerOp.Reply (Except RunnerError (List Nat)) RunnerState Nat RunnerRequest

namespace ConsideringSystem

/-- A runner before its first tick. -/
def start (settings : RunnerSettings) : ConsideringSystem := ⟨RunnerState.start settings, .empty⟩

/-- The system after a number of turns, with what the threads have answered. -/
def ran (settings : RunnerSettings) (turns : List RunnerTurnOf) :
    ConsideringSystem × List (Option (RunnerRequest × Except RunnerError (List Nat))) :=
  Machine.runTotal (Shared.step (consideringService settings)) (start settings) turns

/-- The participants that a tick has considered, once it is through. -/
def tickConsidered : Option (RunnerRequest × Except RunnerError (List Nat)) → List (List Nat)
  | some (.tickOnce, .ok considered) => [considered]
  | _ => []

/-- The participants that the ticks of a run have considered, tick by tick. -/
def consideredByTick (settings : RunnerSettings) (turns : List RunnerTurnOf) : List (List Nat) :=
  (ran settings turns).2.flatMap tickConsidered

/-- Whatever is asked for besides a tick says that it has considered nobody. -/
theorem serveConsidering_other {settings : RunnerSettings} {state : RunnerState}
    {request : RunnerRequest} (other : request ≠ .tickOnce) :
    state.serveConsidering settings request = (state.serve settings request).map fun served =>
      (served.1, Except.map (fun _ => []) <$> served.2) := by
  cases request with
  | tickOnce => exact absurd rfl other
  | _ => rfl

/-- Each request is served as by the runner, up to saying who was considered. -/
theorem serve_viewed (settings : RunnerSettings) (state : RunnerState) (request : RunnerRequest) :
    state.serve settings request = (state.serveConsidering settings request).map fun served =>
      (served.1, Except.map (fun _ => ()) <$> served.2) := by
  -- Only a tick says who was considered.
  by_cases ticks : request = .tickOnce
  · subst ticks
    exact congrArg (fun program => some (state, program)) (RunnerProgram.tickOnce_eq settings)
  · rw [serveConsidering_other ticks, Option.map_map]
    -- Where nobody is considered, nothing is left out of the answer.
    have shows (answer : Except RunnerError Unit) :
        Except.map (fun _ => ()) (Except.map (fun _ => ([] : List Nat)) answer) = answer := by
      cases answer <;> rfl
    cases state.serve settings request with
    | none => rfl
    | some served =>
      exact congrArg (fun program => some (served.1, program))
        (Program.map_map_self shows served.2).symm

/-- Saying who was considered changes nothing of what the runner does. -/
theorem ran_viewed (settings : RunnerSettings) (turns : List RunnerTurnOf) :
    Shared.Viewed (Except.map fun _ => ()) (ran settings turns).1
        (RunnerSystem.reached settings turns) ∧
      (Machine.runTotal (Shared.step (runnerService settings)) (RunnerSystem.start settings)
          turns).2 =
        (ran settings turns).2.map
          (Option.map fun output => (output.1, output.2.map fun _ => ())) := by
  have fresh : Shared.Viewed (Except.map fun _ => ()) (start settings)
      (RunnerSystem.start settings) := ⟨rfl, fun _ => rfl⟩
  -- Both systems store the same state, so that operations work alike.
  have execs : (runnerService settings).exec = (consideringService settings).exec := rfl
  have serves : ∀ state thread request, (runnerService settings).serve state thread request =
      ((consideringService settings).serve state thread request).map fun served =>
        (served.1, Except.map (fun _ => ()) <$> served.2) :=
    fun state _ request => serve_viewed settings state request
  exact Shared.Viewed.run execs serves turns fresh

end ConsideringSystem

/-- How far a thread is with asking participants. -/
inductive PollPhase where
  | bystander
  | still
  | polling (cursor : Nat)
  | moved (cursor next : Nat)

/-- The operations on the cursor. -/
def RunnerOp.movesCursor : RunnerOp → Bool
  | .cursor | .setCursor _ => true
  | _ => false

namespace PollPhase

/-- The cursor is read once, and set once after that. -/
def allows : PollPhase → RunnerOp → Bool
  | .still, .setCursor _ => false
  | .still, _ => true
  | .polling _, .cursor => false
  | .polling _, _ => true
  | _, op => !op.movesCursor

/-- Where the cursor is after an operation. -/
def next : PollPhase → (op : RunnerOp) → op.Reply → PollPhase
  | .still, .cursor, cursor => .polling cursor
  | .polling cursor, .setCursor value, _ => .moved cursor value
  | phase, _, _ => phase

/-- An operation that leaves the cursor alone leads out of no phase. -/
theorem next_of_not_movesCursor {phase : PollPhase} {op : RunnerOp} (apart : op.movesCursor = false)
    (reply : op.Reply) : phase.next op reply = phase := by
  -- Only the two operations on the cursor change the phase.
  cases phase <;> cases op <;> first | rfl | cases apart

/-- An operation that leaves the cursor is allowed anywhere. -/
theorem allows_of_not_movesCursor {phase : PollPhase} {op : RunnerOp}
    (apart : op.movesCursor = false) : phase.allows op = true := by
  cases phase <;> cases op <;> first | rfl | cases apart

end PollPhase

/-- The phases move along with the operations. -/
def pollProtocol : Program.Protocol RunnerOp RunnerOp.Reply PollPhase :=
  .moving PollPhase.allows PollPhase.next

/--
What a tick says that it has considered fits the cursor that it has left behind.

It has considered the participants from the old cursor on, and set the cursor behind the last one.
-/
def SaysConsidered (settings : RunnerSettings) (request : RunnerRequest) (phase : PollPhase)
    (answer : Except RunnerError (List Nat)) : Prop :=
  match phase with
  | .moved cursor next => request = .tickOnce ∧ ∃ considered, answer = .ok considered ∧
      considered <+: (List.range settings.participants.length).map
        (fun offset => (cursor + offset) % settings.participants.length) ∧
      next = (cursor + considered.length) % settings.participants.length
  | _ => ∀ considered, answer = .ok considered → considered = []

namespace RunnerProgram

section Phases

variable {α β : Type} {settings : RunnerSettings}

/-- Programs that leave the cursor alone, with what is known of their answers. -/
abbrev LeavesCursor (program : RunnerProgram α) (holds : α → Prop) : Prop :=
  program.Only (fun op => op.movesCursor = false) holds

/-- A program that asks no participant leaves the cursor alone. -/
theorem leavesCursor_of_housekeeps {program : RunnerProgram α} (kept : Housekeeps program) :
    LeavesCursor program fun _ => True :=
  -- Housekeeping asks no participant, and so it has no use for the cursor.
  kept.mono (fun op allowed => by cases op <;> first | rfl | cases allowed) fun _ held => held

/-- A program that leaves the cursor alone stays in its phase. -/
theorem keeps_of_leavesCursor {program : RunnerProgram α} {holds : α → Prop}
    (kept : LeavesCursor program holds) (phase : PollPhase) :
    program.Keeps pollProtocol (fun last answer => last = phase ∧ holds answer) phase :=
  kept.keeps (fun _ apart => PollPhase.allows_of_not_movesCursor apart)
    fun _ reply _ apart turned => turned.trans (PollPhase.next_of_not_movesCursor apart reply)

/-- Handing a job to the pool leaves the cursor. -/
theorem submitToPool_leavesCursor (job : HttpJob) :
    LeavesCursor (submitToPool job) fun _ => True := by
  -- Submitting counts pending work and hands over; a refusal gives both back.
  refine ⟨rfl, fun _ => ⟨rfl, fun answer => ?_⟩⟩
  cases answer with
  | taken => trivial
  | refused | queuedAndRaised => exact ⟨rfl, fun _ => ⟨rfl, fun _ => trivial⟩⟩

/-- Starting jobs leaves the cursor. -/
theorem startWhileFree_leavesCursor (jobs : List HttpJob) :
    LeavesCursor (startWhileFree jobs) fun _ => True := by
  induction jobs with
  | nil => trivial
  | cons job later ih =>
    have started : LeavesCursor (startHttp job false) fun _ => True := by
      refine ⟨rfl, fun acquired => ?_⟩
      cases acquired with
      | false => trivial
      | true =>
        refine (submitToPool_leavesCursor job).bind fun result _ => ?_
        cases result <;> trivial
    -- The jobs go on as long as they find slots.
    refine started.bind fun result _ => ?_
    match result with
    | .ok true => exact ih
    | .ok false => trivial
    | .error _ => trivial

/-- Starting the intents of a participant leaves the cursor. -/
theorem startIntents_leavesCursor (tick : Nat) (intents : List OrderIntent) :
    LeavesCursor (startIntents tick intents) fun _ => True := by
  cases intents with
  | nil => exact ⟨rfl, fun _ => trivial⟩
  | cons intent others =>
    -- The first intent is submitted on the slot at hand.
    refine (submitToPool_leavesCursor (.submit intent tick)).bind fun result _ => ?_
    cases result with
    | error _ => trivial
    | ok _ => exact startWhileFree_leavesCursor _

/-- Whoever was considered comes first among those who were to be asked. -/
theorem considerParticipants_leavesCursor (settings : RunnerSettings) (tick cursor : Nat)
    (snapshots : Dict String BookSnapshot) (offsets : List Nat) :
    LeavesCursor (considerParticipants settings tick cursor snapshots offsets) fun answer =>
      ∀ considered, answer = .ok considered → considered <+: offsets.map fun offset =>
        (cursor + offset) % settings.participants.length := by
  induction offsets with
  -- There is nobody left to ask.
  | nil =>
    intro considered same
    cases same
    exact List.prefix_rfl
  | cons offset later ih =>
    -- Nobody more is considered when the slots are gone.
    have nobody (considered : List Nat) (same : Except.ok (ε := RunnerError) [] = .ok considered) :
        considered <+: (offset :: later).map fun offset =>
          (cursor + offset) % settings.participants.length := by
      cases same
      exact List.nil_prefix
    have further : LeavesCursor
        (considerParticipants settings tick cursor snapshots later >>= fun considered =>
          (pure (considered.map ((cursor + offset) % settings.participants.length :: ·)) :
            RunnerProgram (Except RunnerError (List Nat)))) fun answer =>
        ∀ considered, answer = .ok considered → considered <+: (offset :: later).map fun offset =>
          (cursor + offset) % settings.participants.length := by
      -- Those considered later come right after this participant.
      refine ih.bind fun answer first => ?_
      intro considered same
      cases answer with
      | error _ => cases same
      | ok rest =>
        cases same
        exact List.prefix_cons_inj _ |>.mpr (first rest rfl)
    rw [considerParticipants]
    refine Program.only_perform rfl fun free => ?_
    cases free with
    | false => exact nobody
    | true =>
      simp only [if_true]
      generalize settings.participants[(cursor + offset) % settings.participants.length]?.bind
        snapshots.get? = book
      -- A participant without a book is passed over.
      cases book with
      | none => exact further
      | some snapshot =>
        refine Program.only_perform rfl fun acquired => ?_
        cases acquired with
        | false => exact nobody
        | true =>
          -- The intents are started, and the next participant is asked if that succeeds.
          refine Program.only_perform rfl fun intents =>
            (startIntents_leavesCursor tick intents).bind fun result _ => ?_
          cases result with
          | error _ => exact fun _ same => nomatch same
          | ok _ => exact further

/-- A tick reads the cursor once, and sets it behind the participants that it considered. -/
theorem enqueueConsidered_keeps (settings : RunnerSettings) (tick : Nat)
    (snapshots : Dict String BookSnapshot) :
    (enqueueConsidered settings tick snapshots).Keeps pollProtocol
      (SaysConsidered settings .tickOnce) .still := by
  unfold enqueueConsidered
  simp only
  split_ifs
  · -- Without participants nobody is considered, and the cursor is not read.
    refine .done fun considered same => ?_
    cases same
    rfl
  · refine Program.Keeps.perform_moving rfl fun cursor => ?_
    have kept := keeps_of_leavesCursor (considerParticipants_leavesCursor settings tick cursor
      snapshots (List.range settings.participants.length)) (.polling cursor)
    refine kept.bind fun phase answer ended => ?_
    obtain ⟨rfl, first⟩ := ended
    cases answer with
    -- A failure ends the tick before the cursor is set.
    | error _ => exact .done fun _ same => nomatch same
    | ok considered =>
      simp only
      split_ifs with some_considered
      · -- The cursor is set behind the last one that was considered.
        refine Program.Keeps.perform_moving rfl fun _ => .done ?_
        exact ⟨rfl, considered, rfl, first considered rfl, rfl⟩
      · -- Nobody was considered, and the cursor stays where it is.
        refine .done fun same_list same => ?_
        cases same
        exact List.length_eq_zero_iff.mp (not_not.mp some_considered)

/-- A tick starts without having read the cursor. -/
theorem consideringTick_keeps (settings : RunnerSettings) :
    (consideringTick settings).Keeps pollProtocol (SaysConsidered settings .tickOnce) .still := by
  -- The tick is counted first, and orders are expired.
  refine Program.Keeps.perform_moving rfl fun tick => ?_
  refine (keeps_of_leavesCursor (leavesCursor_of_housekeeps expireOrders_housekeeps) .still).bind
    fun phase result ended => ?_
  obtain ⟨rfl, _⟩ := ended
  cases result with
  | error _ => exact .done fun _ same => nomatch same
  | ok _ =>
    -- Fetching snapshots leaves the cursor alone.
    refine (keeps_of_leavesCursor (leavesCursor_of_housekeeps
      (fetchSnapshots_housekeeps _ _)) .still).bind fun phase snapshots ended => ?_
    obtain ⟨rfl, _⟩ := ended
    exact enqueueConsidered_keeps settings tick snapshots

end Phases

end RunnerProgram

/-- The phase that a thread starts a request in. -/
def RunnerRequest.pollPhase : RunnerRequest → PollPhase
  | .tickOnce => .still
  | _ => .bystander

section Accounts

variable {settings : RunnerSettings} {state state' : RunnerState} {nature : RunnerNature}

/-- Every request is served by a thread that keeps to its phases. -/
theorem serveConsidering_keeps {request : RunnerRequest}
    {program : RunnerProgram (Except RunnerError (List Nat))}
    (served : state.serveConsidering settings request = some (state', program)) :
    program.Keeps pollProtocol (SaysConsidered settings request) request.pollPhase ∧
      state'.cursor = state.cursor := by
  -- Only a tick reads the cursor.
  by_cases ticks : request = .tickOnce
  · subst ticks
    cases served
    exact ⟨RunnerProgram.consideringTick_keeps settings, rfl⟩
  · rw [ConsideringSystem.serveConsidering_other ticks] at served
    obtain ⟨⟨after, plain⟩, started, same⟩ := Option.map_eq_some_iff.mp served
    cases same
    constructor
    · -- The thread stays a bystander, and says that it has considered nobody.
      have kept := served_housekeeps ticks started
      have bystands : (Except.map (fun _ => ([] : List Nat)) <$> plain).Keeps pollProtocol
          (SaysConsidered settings request) .bystander := by
        refine (RunnerProgram.keeps_of_leavesCursor
          (RunnerProgram.leavesCursor_of_housekeeps kept) .bystander).bind fun phase answer ended => ?_
        obtain ⟨rfl, _⟩ := ended
        refine .done fun considered same => ?_
        cases answer with
        | error _ => cases same
        | ok _ => exact (Except.ok.inj same).symm
      cases request with
      | tickOnce => exact absurd rfl ticks
      | _ => exact bystands
    · -- Starting another request leaves the cursor alone.
      cases request with
      | tickOnce => exact absurd rfl ticks
      | cancelAllOpenOrders before afterwards =>
        cases started
        rfl
      | runJob job =>
        simp only [RunnerState.serve] at started
        split at started
        · cases started
        · split_ifs at started
          cases started
          rfl

/-- A report of a submission leaves the cursor. -/
theorem recordSubmit_cursor (intent : OrderIntent) (nowMs : Int)
    (result : CallResult SubmittedOrder) :
    (state.recordSubmit intent nowMs result).cursor = state.cursor := by
  -- Whatever the result is, the cursor has no part in it.
  cases result with
  | raised | backendError => rfl
  | ok order =>
    simp only [RunnerState.recordSubmit]
    split_ifs <;> rfl

/-- A report of a cancellation leaves the cursor. -/
theorem recordCancel_cursor (orderId : String) (result : CallResult CancellationResult) :
    (state.recordCancel orderId result).cursor = state.cursor := by
  match result with
  | .raised | .backendError | .ok .alreadyClosed | .ok .canceled => rfl

/-- An operation leaves the cursor as it is, unless it sets it. -/
theorem exec_cursor {op : RunnerOp} {reply : op.Reply}
    (executed : state.exec settings nature op = some (state', reply)) :
    state'.cursor = match op with
      | .setCursor cursor => cursor
      | _ => state.cursor := by
  -- The operations that change the state in more than one way are split.
  cases op with
  | fetchBook symbol =>
    simp only [RunnerState.exec] at executed
    split at executed <;> cases executed <;> rfl
  | acquire blocking =>
    simp only [RunnerState.exec] at executed
    split_ifs at executed <;> cases executed <;> rfl
  | handOver job =>
    simp only [RunnerState.exec] at executed
    split_ifs at executed
    · cases executed
      cases job <;> rfl
    · cases executed
      rfl
  | submitOrder intent =>
    cases executed
    have abandoned : ∀ (after : RunnerState) (submitted : Option Bool),
        (after.abandon intent submitted).cursor = after.cursor := by
      intro after submitted
      cases submitted <;> rfl
    exact (abandoned _ _).trans (recordSubmit_cursor intent _ _)
  | cancelOrder orderId symbol =>
    cases executed
    exact recordCancel_cursor orderId _
  | _ =>
    cases executed
    rfl

/-- The cursor is where the participants considered so far leave it, unless a tick is under way. -/
def CursorFits (settings : RunnerSettings) (total cursor : Nat) : Option PollPhase → Prop
  | some (.polling read) =>
    read = total % settings.participants.length ∧ cursor = total % settings.participants.length
  | some (.moved read next) => read = total % settings.participants.length ∧ cursor = next
  | _ => cursor = total % settings.participants.length

/-- Only one thread asks participants, and it leaves the cursor where it should be. -/
structure CursorAgrees (settings : RunnerSettings) (loop total cursor : Nat)
    (phases : Dict Nat PollPhase) : Prop where
  others : ∀ thread phase, thread ≠ loop → phases.get? thread = some phase → phase = .bystander
  fits : CursorFits settings total cursor (phases.get? loop)

variable {loop total : Nat} {phases : Dict Nat PollPhase}

/-- An operation of a thread moves its phase and the cursor together. -/
theorem CursorAgrees.performed (agrees : CursorAgrees settings loop total state.cursor phases)
    {thread : Nat} {phase : PollPhase} {op : RunnerOp} {reply : op.Reply}
    (found : phases.get? thread = some phase) (allowed : phase.allows op = true)
    (executed : state.exec settings nature op = some (state', reply)) :
    CursorAgrees settings loop total state'.cursor (phases.set thread (phase.next op reply)) := by
  -- The cursor after the operation is known from what the operation is.
  have after := exec_cursor executed
  constructor
  · intro other later apart known
    rw [Dict.get?_set] at known
    split_ifs at known with same
    · -- A bystander stays one.
      cases known
      have bystands := agrees.others thread phase (same ▸ apart) found
      subst bystands
      rfl
    · exact agrees.others other later apart known
  · rw [Dict.get?_set]
    split_ifs with same
    · subst same
      have fits := agrees.fits
      rw [found] at fits
      cases phase with
      | bystander => cases op <;> first | exact after.trans fits | cases allowed
      | still =>
        cases op with
        | setCursor _ => cases allowed
        | cursor =>
          -- The cursor that is read is the one in store.
          cases executed
          exact ⟨fits, fits⟩
        | _ => exact after.trans fits
      | polling read =>
        -- The thread that polls may set the cursor, and does so once.
        cases op with
        | cursor => cases allowed
        | setCursor cursor => exact ⟨fits.1, after⟩
        | _ => exact ⟨fits.1, after.trans fits.2⟩
      | moved read next => cases op <;> first | exact ⟨fits.1, after.trans fits.2⟩ | cases allowed
    · -- Somebody else performed it, and left the cursor alone.
      have bystands := agrees.others thread phase (Ne.symm same) found
      subst bystands
      have unmoved : state'.cursor = state.cursor := by
        cases op <;> first | exact after | cases allowed
      rw [unmoved]
      exact agrees.fits

/-- A thread that begins has not read the cursor. -/
theorem CursorAgrees.admitted (agrees : CursorAgrees settings loop total state.cursor phases)
    {thread : Nat} {request : RunnerRequest} (alone : request = .tickOnce → thread = loop)
    (free : phases.get? thread = none) :
    CursorAgrees settings loop total state.cursor (phases.set thread request.pollPhase) := by
  have fits := agrees.fits
  constructor
  · intro other later apart known
    rw [Dict.get?_set] at known
    split_ifs at known with same
    · subst same
      cases known
      -- A tick begins in the loop, and other requests do not look at the cursor.
      cases request with
      | tickOnce => exact absurd (alone rfl) apart
      | _ => rfl
    · exact agrees.others other later apart known
  · rw [Dict.get?_set]
    split_ifs with same
    · -- The loop was free, so that the cursor is where the participants left it.
      subst same
      rw [free] at fits
      cases request <;> exact fits
    · exact fits

/-- An answer accounts for the participants that were considered since the cursor was read. -/
theorem CursorAgrees.answered (agrees : CursorAgrees settings loop total state.cursor phases)
    {thread : Nat} {phase : PollPhase} {request : RunnerRequest}
    {answer : Except RunnerError (List Nat)} (found : phases.get? thread = some phase)
    (told : SaysConsidered settings request phase answer) :
    CursorAgrees settings loop
      (total + (ConsideringSystem.tickConsidered (some (request, answer))).flatten.length)
      state.cursor (phases.erase thread) ∧
    ∀ considered ∈ ConsideringSystem.tickConsidered (some (request, answer)),
      considered <+: (List.range settings.participants.length).map fun offset =>
        (total + offset) % settings.participants.length := by
  -- The other threads are still bystanders.
  have others : ∀ other later, other ≠ loop → (phases.erase thread).get? other = some later →
      later = .bystander := by
    intro other later apart known
    rw [Dict.get?_erase] at known
    split_ifs at known
    exact agrees.others other later apart known
  by_cases moves : ∃ read next, phase = .moved read next
  · -- The tick has set the cursor behind the participants that it considered.
    obtain ⟨read, next, rfl⟩ := moves
    obtain ⟨rfl, considered, rfl, first, rfl⟩ := told
    -- Only the loop can have moved the cursor.
    have same : thread = loop := by
      by_contra apart
      cases agrees.others thread _ apart found
    subst same
    have fits := agrees.fits
    rw [found] at fits
    obtain ⟨rfl, stored⟩ := fits
    simp only [Nat.mod_add_mod] at first stored
    refine ⟨⟨others, ?_⟩, ?_⟩
    · rw [Dict.get?_erase, if_pos rfl]
      simpa [ConsideringSystem.tickConsidered, CursorFits] using stored
    · intro other member
      rw [List.mem_singleton.mp member]
      exact first
  · -- Nobody was considered, and the cursor is where it was.
    have nobody : ∀ considered, answer = .ok considered → considered = [] := by
      cases phase with
      | moved read next => exact absurd ⟨read, next, rfl⟩ moves
      | _ => exact told
    have empty : ∀ considered ∈ ConsideringSystem.tickConsidered (some (request, answer)),
        considered = [] := by
      intro considered member
      cases request with
      -- Only the answer of a tick tells of anybody.
      | tickOnce =>
        cases answer with
        | error _ => cases member
        | ok list => exact nobody considered (congrArg Except.ok (List.mem_singleton.mp member).symm)
      | _ => cases member
    refine ⟨⟨others, ?_⟩, fun considered member => empty considered member ▸ List.nil_prefix⟩
    have none_counted : (ConsideringSystem.tickConsidered (some (request, answer))).flatten = [] :=
      List.flatten_eq_nil_iff.mpr empty
    rw [none_counted, List.length_nil, Nat.add_zero, Dict.get?_erase]
    split_ifs with same
    · subst same
      have fits := agrees.fits
      rw [found] at fits
      -- The thread has not set the cursor.
      cases phase with
      | moved read next => exact absurd ⟨read, next, rfl⟩ moves
      | polling read => exact fits.2
      | _ => exact fits
    · exact agrees.fits

variable {system : ConsideringSystem}

/-- One turn leaves the cursor behind those considered, who are the next ones in turn. -/
theorem considering_step (phased : system.Phased pollProtocol (SaysConsidered settings) phases)
    (agrees : CursorAgrees settings loop total system.store.cursor phases) (turn : RunnerTurnOf)
    (alone : ∀ thread, turn = .begin thread .tickOnce → thread = loop) :
    ∃ phases',
      (system.step (consideringService settings) turn).1.Phased pollProtocol
        (SaysConsidered settings) phases' ∧
      CursorAgrees settings loop (total + (ConsideringSystem.tickConsidered
          (system.step (consideringService settings) turn).2).flatten.length)
        (system.step (consideringService settings) turn).1.store.cursor phases' ∧
      ∀ considered ∈ ConsideringSystem.tickConsidered
          (system.step (consideringService settings) turn).2,
        considered <+: (List.range settings.participants.length).map fun offset =>
          (total + offset) % settings.participants.length := by
  have turned : Shared.Turned (consideringService settings) system turn _ _ :=
    Shared.step_turned turn
  generalize system.step (consideringService settings) turn = stepped at turned ⊢
  obtain ⟨after, output⟩ := stepped
  simp only at turned
  -- A turn without an answer considers nobody.
  have nobody : ∀ {next : List Nat}, ∀ considered ∈ ConsideringSystem.tickConsidered none,
      considered <+: next := fun _ member => absurd member List.not_mem_nil
  cases turned with
  | waited => exact ⟨phases, phased, agrees, nobody⟩
  -- The thread begins in the phase of its request.
  | @admitted thread request store program free served =>
    obtain ⟨kept, same⟩ := serveConsidering_keeps served
    refine ⟨_, phased.set store kept, ?_, nobody⟩
    have begun := agrees.admitted (fun ticks => alone thread (ticks ▸ rfl)) (phased.free free)
    exact same ▸ begun
  -- The answer is accounted for, and the thread is gone.
  | @answered thread nature request answer found =>
    obtain ⟨phase, at_phase, kept⟩ := phased.find found
    cases kept with
    | done told => exact ⟨_, phased.erase thread, agrees.answered at_phase told⟩
  | @performed thread nature request op next store reply found executed =>
    obtain ⟨phase, at_phase, kept⟩ := phased.find found
    cases kept with
    | call allowed kept =>
      exact ⟨_, phased.set store (kept reply _ rfl), agrees.performed at_phase allowed executed,
        nobody⟩

end Accounts

section Cycle

variable {count total : Nat}

/-- The first positions of the cycle through a number of participants. -/
def cycle (count total : Nat) : List Nat := (List.range total).map (· % count)

/-- The cycle goes on where it was left. -/
theorem cycle_append {considered : List Nat}
    (next : considered <+: (List.range count).map fun offset => (total + offset) % count) :
    cycle count (total + considered.length) = cycle count total ++ considered := by
  -- No more than one round is considered in a tick.
  have short : considered.length ≤ count := by simpa using next.length_le
  have these : considered =
      (List.range considered.length).map fun offset => (total + offset) % count := by
    conv_lhs => rw [List.prefix_iff_eq_take.mp next]
    rw [← List.map_take, List.take_range, Nat.min_eq_left short]
  rw [cycle, List.range_add, List.map_append, List.map_map]
  exact congrArg (cycle count total ++ ·) these.symm

/-- Nobody comes twice within one round of the cycle. -/
theorem nodup_of_prefix {considered : List Nat}
    (next : considered <+: (List.range count).map fun offset => (total + offset) % count) :
    considered.Nodup := by
  -- Within a round, two offsets give one participant only if they are equal.
  refine next.sublist.nodup (List.Nodup.map_on (fun one inside other inside' same => ?_)
    List.nodup_range)
  have congruent : one ≡ other [MOD count] := Nat.ModEq.add_left_cancel' total same
  exact congruent.eq_of_lt_of_lt (List.mem_range.mp inside) (List.mem_range.mp inside')

/-- Of the first positions, every participant has as many as any other, up to one. -/
theorem count_cycle {participant other : Nat} (inside : participant < count)
    (inside' : other < count) (total : Nat) :
    (cycle count total).count participant ≤ (cycle count total).count other + 1 := by
  -- Each participant comes once in every full round, and perhaps in the last one.
  have counted {position : Nat} (known : position < count) :
      (cycle count total).count position =
        total / count + if position < total % count then 1 else 0 := by
    have congruent : (fun place : Nat => place % count == position) =
        fun place => decide (place ≡ position [MOD count]) := by
      funext place
      simp [Nat.ModEq, Nat.mod_eq_of_lt known, Bool.beq_eq_decide_eq]
    rw [cycle, List.count_eq_countP, List.countP_map]
    -- The positions of the cycle that hold the participant are those of its residue.
    have counted := Nat.count_modEq_card total (by omega : 0 < count) position
    rw [Nat.mod_eq_of_lt known, Nat.count] at counted
    rw [← counted]
    exact congrArg (fun test => (List.range total).countP test) congruent
  rw [counted inside, counted inside']
  split_ifs <;> omega

end Cycle

namespace ConsideringSystem

/-- What one answer says was considered goes on with the cycle. -/
theorem cycle_tickConsidered {count total : Nat}
    {output : Option (RunnerRequest × Except RunnerError (List Nat))}
    (next : ∀ considered ∈ tickConsidered output,
      considered <+: (List.range count).map fun offset => (total + offset) % count) :
    cycle count (total + (tickConsidered output).flatten.length) =
      cycle count total ++ (tickConsidered output).flatten := by
  -- An answer is about one tick, or about none.
  have single : (tickConsidered output).length ≤ 1 := by
    unfold tickConsidered
    split <;> simp
  match tickConsidered output, next, single with
  -- The answer tells of nobody.
  | [], _, _ => exact (List.append_nil _).symm
  | [considered], next, _ =>
    have going := cycle_append (next considered List.mem_cons_self)
    simpa using going

/-- After any turns, those considered are the first ones of the cycle. -/
theorem considering_run {settings : RunnerSettings} {loop : Nat} (turns : List RunnerTurnOf) :
    (∀ thread, .begin thread .tickOnce ∈ turns → thread = loop) →
      ∀ {system : ConsideringSystem} {phases : Dict Nat PollPhase} {total : Nat},
        system.Phased pollProtocol (SaysConsidered settings) phases →
        CursorAgrees settings loop total system.store.cursor phases →
        let lists := (Machine.runTotal (Shared.step (consideringService settings)) system
          turns).2.flatMap tickConsidered
        cycle settings.participants.length (total + lists.flatten.length) =
            cycle settings.participants.length total ++ lists.flatten ∧
          ∀ considered ∈ lists, considered.Nodup := by
  induction turns with
  | nil =>
    intro _ system phases total _ _
    exact ⟨(List.append_nil _).symm, nofun⟩
  | cons turn later ih =>
    intro alone system phases total phased agrees
    -- The first turn goes on with the cycle, and the later ones after it.
    obtain ⟨phases', phased', agrees', next⟩ := considering_step phased agrees turn
      fun thread begins => alone thread (begins ▸ List.mem_cons_self)
    obtain ⟨going, distinct⟩ := ih
      (fun thread begins => alone thread (List.mem_cons_of_mem _ begins)) phased' agrees'
    have now := cycle_tickConsidered next
    simp only [Machine.runTotal, List.flatMap_cons, List.flatten_append, List.length_append]
    refine ⟨?_, fun considered member => ?_⟩
    · rw [← Nat.add_assoc, going, now, List.append_assoc]
    · rcases List.mem_append.mp member with this_turn | afterwards
      · exact nodup_of_prefix (next considered this_turn)
      · exact distinct considered afterwards

/--
The participants are considered in turn, and nobody more than once ahead of anybody else.

The jobs of the pool run between the operations of the ticks, slots come and go, and books cannot
be fetched. The ticks are all made by one thread, and a tick that the pool refuses counts nobody.
-/
theorem considered_round_robin (settings : RunnerSettings) (turns : List RunnerTurnOf) (loop : Nat)
    (alone : ∀ thread, .begin thread .tickOnce ∈ turns → thread = loop) :
    (consideredByTick settings turns).flatten =
        cycle settings.participants.length (consideredByTick settings turns).flatten.length ∧
      (∀ participant other, participant < settings.participants.length →
        other < settings.participants.length →
        (consideredByTick settings turns).flatten.count participant ≤
          (consideredByTick settings turns).flatten.count other + 1) ∧
      ∀ considered ∈ consideredByTick settings turns, considered.Nodup := by
  -- No thread is at work at the start, and the cursor is at the first participant.
  have phased : (start settings).Phased pollProtocol (SaysConsidered settings) .empty :=
    fun _ => rfl
  have agrees : CursorAgrees settings loop 0 (start settings).store.cursor .empty :=
    ⟨fun _ _ _ known => (nomatch known), (Nat.zero_mod _).symm⟩
  obtain ⟨cyclic, distinct⟩ := considering_run turns alone phased agrees
  rw [Nat.zero_add] at cyclic
  have first : (consideredByTick settings turns).flatten =
      cycle settings.participants.length (consideredByTick settings turns).flatten.length :=
    cyclic.symm
  refine ⟨first, fun participant other inside inside' => ?_, distinct⟩
  rw [first]
  exact count_cycle inside inside' _

/-- A single slot is a slot. -/
theorem singleSlot_pos : 1 ≤ 1 := Nat.le_refl 1

/-- Two participants of one symbol, and one slot. -/
def twoParticipants : RunnerSettings := ⟨["005930", "005930"], 1, singleSlot_pos⟩

/-- A tick that asks the first participant, which takes the only slot, and another tick. -/
def saturatedTurns : List RunnerTurnOf :=
  let intends : RunnerNature :=
    ⟨0, some ⟨"005930", [], []⟩, [⟨"lp", "005930", .buy, 69900, 1, none⟩], .taken,
      .ok ⟨"order", 1⟩, .ok .canceled⟩
  .begin 0 .tickOnce :: List.replicate 12 (.resume 0 intends) ++
    .begin 1 (.runJob (.submit ⟨"lp", "005930", .buy, 69900, 1, none⟩ 1)) ::
      List.replicate 5 (.resume 1 intends) ++
    .begin 0 .tickOnce :: List.replicate 12 (.resume 0 intends)

/-- The second tick goes on with the second participant. -/
theorem considered_round_robin_saturated :
    (consideredByTick twoParticipants saturatedTurns).flatten = cycle 2
        (consideredByTick twoParticipants saturatedTurns).flatten.length ∧
      (∀ participant other, participant < 2 → other < 2 →
        (consideredByTick twoParticipants saturatedTurns).flatten.count participant ≤
          (consideredByTick twoParticipants saturatedTurns).flatten.count other + 1) ∧
      ∀ considered ∈ consideredByTick twoParticipants saturatedTurns, considered.Nodup := by
  refine considered_round_robin twoParticipants saturatedTurns 0 fun thread begins => ?_
  simpa [saturatedTurns] using begins

example : consideredByTick twoParticipants saturatedTurns = [[0], [1]] := by decide +kernel

end ConsideringSystem

end StockMarket
