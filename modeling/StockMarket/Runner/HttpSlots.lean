import StockMarket.Runner.HttpRunner

/-! Every slot is given back exactly once, unless the pool raises for a job that it has queued. -/

namespace StockMarket

/-- How far a thread is with its slot, and with the intent or the order that it works on. -/
inductive SlotPhase where
  | free
  | held
  | counted
  | submitting (intent : OrderIntent)
  | reporting (intent : OrderIntent)
  | looking (orderId : String)
  | canceling (orderId : String)
  | working
  | leaving
  | left
  deriving DecidableEq

namespace RunnerOp

/-- Who performs these operations holds a permit. -/
def needsPermit : RunnerOp → Bool
  | .nextIntents _ _ _ | .countPending | .release | .handOver _ | .uncountPending
  | .trackedSymbol _ | .cancelOrder _ _ | .submitOrder _ | .afterSubmit _ _ _ => true
  | _ => false

/-- Who performs these operations is counted as pending. -/
def needsCount : RunnerOp → Bool
  | .handOver _ | .uncountPending | .trackedSymbol _ | .cancelOrder _ _ | .submitOrder _
  | .afterSubmit _ _ _ => true
  | _ => false

/-- The order that an operation is about to cancel. -/
def cancels : RunnerOp → Option String
  | .trackedSymbol orderId => some orderId
  | .cancelOrder orderId _ => some orderId
  | _ => none

/-- The intent that an operation submits or reports. -/
def submits : RunnerOp → List OrderIntent
  | .submitOrder intent | .afterSubmit intent _ _ => [intent]
  | _ => []

end RunnerOp

namespace SlotPhase

/-- A permit is used by the thread that holds it only. -/
def allows : SlotPhase → RunnerOp → Bool
  | .free, op => !op.needsPermit
  | .held, .nextIntents _ _ _ => true
  | .held, .countPending => true
  | .held, .release => true
  | .counted, .handOver _ => true
  | .counted, .uncountPending => true
  | .submitting intent, .submitOrder other => intent = other
  | .reporting intent, .afterSubmit other _ _ => intent = other
  | .looking orderId, .trackedSymbol other => orderId = other
  | .canceling orderId, .cancelOrder other _ => orderId = other
  | .working, .uncountPending => true
  | .leaving, .release => true
  | _, _ => false

/-- A job takes the permit over from the thread that hands it over, if that does not raise. -/
def next : SlotPhase → (op : RunnerOp) → op.Reply → SlotPhase
  | .free, .acquire _, acquired => bif acquired then .held else .free
  | .held, .countPending, _ => .counted
  | .held, .release, _ => .free
  | .counted, .handOver _, answer => bif PoolAnswer.raises answer then .counted else .free
  | .counted, .uncountPending, _ => .held
  | .submitting intent, .submitOrder _, submitted =>
    bif Option.isSome submitted then .reporting intent else .working
  | .reporting _, .afterSubmit _ _ _, _ => .working
  | .looking orderId, .trackedSymbol _, _ => .canceling orderId
  | .canceling _, .cancelOrder _ _, _ => .working
  | .working, .uncountPending, _ => .leaving
  | .leaving, .release, _ => .left
  | phase, _, _ => phase

/-- The permits that a phase holds. -/
def permits : SlotPhase → Nat
  | .free | .left => 0
  | _ => 1

/-- How much a phase counts as pending. -/
def pending : SlotPhase → Nat
  | .free | .held | .leaving | .left => 0
  | _ => 1

/-- The phases of the threads that hand jobs over. -/
def startsJobs : SlotPhase → Bool
  | .free | .held | .counted => true
  | _ => false

/-- The intent that is submitted or reported in a phase. -/
def submits : SlotPhase → List OrderIntent
  | .submitting intent | .reporting intent => [intent]
  | _ => []

/-- The order that is canceled in a phase. -/
def cancels : SlotPhase → Option String
  | .looking orderId => some orderId
  | .canceling orderId => some orderId
  | _ => none

end SlotPhase

/-- The phase in which a job starts. -/
def HttpJob.phase : HttpJob → SlotPhase
  | .submit intent _ => .submitting intent
  | .cancel orderId => .looking orderId

/-- The phases move along with the operations. -/
def slotProtocol : Program.Protocol RunnerOp RunnerOp.Reply SlotPhase where
  allows := fun phase op => phase.allows op = true
  turns := fun phase op reply later => later = phase.next op reply

/-- Everybody ends without a permit. -/
def Finished (request : RunnerRequest) (phase : SlotPhase) (_ : Except RunnerError Unit) : Prop :=
  match request with
  | .runJob _ => phase = .left
  | _ => phase = .free

namespace RunnerProgram

section Keeps

variable {α β : Type} {phase : SlotPhase}

/-- Programs that start and end in given phases, whatever they answer. -/
abbrev Takes (program : RunnerProgram α) (before after : SlotPhase) : Prop :=
  program.Keeps slotProtocol (fun phase _ => phase = after) before

/-- One operation, followed by a program that goes on from the next phase. -/
theorem keeps_step {final : SlotPhase → α → Prop} {op : RunnerOp}
    {rest : op.Reply → RunnerProgram α} (allowed : phase.allows op = true)
    (kept : ∀ reply, (rest reply).Keeps slotProtocol final (phase.next op reply)) :
    (step op >>= rest).Keeps slotProtocol final phase := by
  -- The phase after the operation is determined by its reply.
  refine .call allowed fun reply later turned => ?_
  rw [show later = phase.next op reply from turned]
  exact kept reply

/-- A program is followed by another one that goes on from the phase in which it ends. -/
theorem takes_bind {before middle after : SlotPhase} {program : RunnerProgram α}
    {rest : α → RunnerProgram β} (first : Takes program before middle)
    (second : ∀ answer, Takes (rest answer) middle after) :
    Takes (program >>= rest) before after :=
  first.bind fun _ answer same => same ▸ second answer

/-- An answer is given in whatever phase has been reached. -/
theorem takes_pure (answer : α) : Takes (pure answer : RunnerProgram α) phase phase :=
  .done rfl

/-- Handing a job to the pool uses the permit up. -/
theorem submitToPool_takes (job : HttpJob) : Takes (submitToPool job) .held .free := by
  -- The pool takes the job with its permit, or raises, and then the permit is given back.
  refine keeps_step rfl fun _ => keeps_step rfl fun answer => ?_
  cases answer with
  | taken => exact takes_pure _
  | refused | queuedAndRaised =>
    exact keeps_step rfl fun _ => keeps_step rfl fun _ => takes_pure _

/-- Starting a job leaves no permit behind. -/
theorem startHttp_takes (job : HttpJob) (blocking : Bool) :
    Takes (startHttp job blocking) .free .free := by
  refine keeps_step rfl fun acquired => ?_
  cases acquired with
  | true =>
    -- The job has the permit now, or nobody has it.
    refine takes_bind (submitToPool_takes job) fun answer => ?_
    cases answer <;> exact takes_pure _
  | false => exact takes_pure _

/-- Starting jobs while permits are free leaves none behind. -/
theorem startWhileFree_takes (jobs : List HttpJob) : Takes (startWhileFree jobs) .free .free := by
  -- The induction is on the jobs, and the first one without a slot ends it.
  induction jobs with
  | nil => exact takes_pure _
  | cons job later ih =>
    refine takes_bind (startHttp_takes job false) fun answer => ?_
    match answer with
    | .ok true => exact ih
    | .ok false => exact takes_pure _
    | .error _ => exact takes_pure _

/-- Starting all jobs leaves no permit behind. -/
theorem startAll_takes (jobs : List HttpJob) : Takes (startAll jobs) .free .free := by
  -- The induction is on the jobs, and the first failure ends it.
  induction jobs with
  | nil => exact takes_pure _
  | cons job later ih =>
    refine takes_bind (startHttp_takes job true) fun answer => ?_
    cases answer with
    | ok _ => exact ih
    | error _ => exact takes_pure _

/-- Cancelling old orders leaves no permit behind. -/
theorem expireOrders_takes : Takes expireOrders .free .free :=
  keeps_step rfl fun _ => startWhileFree_takes _

/-- Fetching the books takes no permit. -/
theorem fetchSnapshots_takes (symbols : List String) : ∀ snapshots : Dict String BookSnapshot,
    Takes (fetchSnapshots snapshots symbols) .free .free := by
  induction symbols with
  | nil => exact fun _ => takes_pure _
  | cons symbol later ih =>
    intro snapshots
    -- Books are fetched without any slot.
    refine keeps_step rfl fun book => ?_
    cases book with
    | some snapshot => exact ih _
    | none => exact ih _

/-- Starting the intents of a participant uses the held permit up. -/
theorem startIntents_takes (tick : Nat) (intents : List OrderIntent) :
    Takes (startIntents tick intents) .held .free := by
  cases intents with
  -- Without intents the permit is given back, and otherwise the first job takes it.
  | nil => exact keeps_step rfl fun _ => takes_pure _
  | cons intent others =>
    refine takes_bind (submitToPool_takes _) fun answer => ?_
    cases answer with
    | error _ => exact takes_pure _
    | ok _ => exact startWhileFree_takes _

/-- Asking the participants leaves no permit behind. -/
theorem askParticipants_takes (settings : RunnerSettings) (tick cursor : Nat)
    (snapshots : Dict String BookSnapshot) (offsets : List Nat) :
    Takes (askParticipants settings tick cursor snapshots offsets) .free .free := by
  induction offsets with
  | nil => exact takes_pure _
  | cons offset later ih =>
    have going : Takes (askParticipants settings tick cursor snapshots later >>= fun considered =>
        pure (considered.map (1 + ·))) .free .free := takes_bind ih fun _ => takes_pure _
    refine keeps_step rfl fun free => ?_
    cases free with
    | false => exact takes_pure _
    | true =>
      simp only [if_true]
      split
      · exact going
      · -- A slot that was free may be gone by now, which ends the round.
        refine keeps_step rfl fun acquired => ?_
        cases acquired with
        | false => exact takes_pure _
        | true =>
          -- The permit is held while the participant decides.
          refine keeps_step rfl fun intents =>
            takes_bind (startIntents_takes tick intents) fun answer => ?_
          cases answer with
          | error _ => exact takes_pure _
          | ok _ => exact going

/-- Enqueueing what is due leaves no permit behind. -/
theorem enqueueDueIntents_takes (settings : RunnerSettings) (tick : Nat)
    (snapshots : Dict String BookSnapshot) :
    Takes (enqueueDueIntents settings tick snapshots) .free .free := by
  unfold enqueueDueIntents
  simp only
  -- A tick without participants or without a free slot asks nobody.
  split_ifs
  · exact takes_pure _
  · -- The cursor is moved behind those that were asked.
    refine keeps_step rfl fun cursor =>
      takes_bind (askParticipants_takes settings tick cursor snapshots _) fun answer => ?_
    cases answer with
    | error _ => exact takes_pure _
    | ok considered =>
      simp only
      split_ifs
      · exact keeps_step rfl fun _ => takes_pure _
      · exact takes_pure _

/-- A tick leaves no permit behind. -/
theorem tickOnce_takes (settings : RunnerSettings) : Takes (tickOnce settings) .free .free := by
  -- A tick expires orders, fetches the books, and then asks the participants.
  refine keeps_step rfl fun tick => takes_bind expireOrders_takes fun answer => ?_
  cases answer with
  | error _ => exact takes_pure _
  | ok _ =>
    exact takes_bind (fetchSnapshots_takes _ _) fun snapshots =>
      enqueueDueIntents_takes settings tick snapshots

/-- Waiting for the pool takes no permit. -/
theorem waitForIdle_takes (looks : Nat) : Takes (waitForIdle looks) .free .free := by
  -- The induction is on how often the pool is looked at.
  induction looks with
  | zero => exact takes_pure _
  | succ looks ih =>
    refine keeps_step rfl fun idle => ?_
    cases idle with
    | true => exact takes_pure _
    | false => exact ih

/-- Cancelling at the end leaves no permit behind. -/
theorem cancelAllOpenOrders_takes (before afterwards : Nat) :
    Takes (cancelAllOpenOrders before afterwards) .free .free := by
  refine takes_bind (waitForIdle_takes before) fun answer => ?_
  cases answer with
  | error _ => exact takes_pure _
  | ok _ =>
    -- Every cancellation waits for its own permit.
    refine keeps_step rfl fun orderIds => takes_bind (startAll_takes _) fun answer => ?_
    cases answer with
    | error _ => exact takes_pure _
    | ok _ => exact waitForIdle_takes afterwards

/-- Whatever comes of a submission, the slot is still to be given back. -/
theorem submitIntent_takes (intent : OrderIntent) (tick : Nat) :
    Takes (submitIntent intent tick) (.submitting intent) .working := by
  refine keeps_step (decide_eq_true rfl) fun submitted => ?_
  -- It is reported, or ended by an error that nobody handles.
  cases submitted with
  | some submitted => exact .call (decide_eq_true rfl) fun _ _ turned => turned ▸ takes_pure _
  | none => exact takes_pure _

/-- A job gives its slot back whatever comes of it. -/
theorem runJob_takes (job : HttpJob) : Takes (runJob job) job.phase .left := by
  -- The last two operations undo the count and the permit.
  have ending : Takes (step .uncountPending >>= fun _ => step .release >>= fun _ =>
      (pure (.ok ()) : RunnerProgram (Except RunnerError Unit))) .working .left :=
    keeps_step rfl fun _ => keeps_step rfl fun _ => takes_pure _
  cases job with
  | submit intent tick => exact takes_bind (submitIntent_takes intent tick) fun _ => ending
  | cancel orderId =>
    exact keeps_step (decide_eq_true rfl) fun _ => keeps_step (decide_eq_true rfl) fun _ => ending

end Keeps

end RunnerProgram

section Accounts

variable {settings : RunnerSettings} {state state' : RunnerState} {nature : RunnerNature}

/-- What a state knows about slots. -/
def RunnerState.slots (state : RunnerState) : Nat × Int × List HttpJob × Nat × Nat × Nat :=
  (state.permits, state.pending, state.pool, state.acquired, state.released, state.doubled)

/-- Recording what came of a submission concerns no slot. -/
theorem recordSubmit_slots (intent : OrderIntent) (nowMs : Int)
    (result : CallResult SubmittedOrder) :
    (state.recordSubmit intent nowMs result).slots = state.slots := by
  cases result with
  | ok order =>
    -- An order is tracked, or it is not.
    simp only [RunnerState.recordSubmit]
    split_ifs <;> rfl
  | backendError => rfl
  | raised => rfl

/-- An error that ends a submission concerns no slot. -/
theorem abandon_slots (intent : OrderIntent) (submitted : Option Bool) :
    (state.abandon intent submitted).slots = state.slots := by
  cases submitted <;> rfl

/-- Recording what came of a cancellation concerns no slot. -/
theorem recordCancel_slots (orderId : String) (result : CallResult CancellationResult) :
    (state.recordCancel orderId result).slots = state.slots := by
  match result with
  | .ok .canceled | .ok .alreadyClosed | .backendError | .raised => rfl

/-- The operations that take, count, hand over, or give back a slot. -/
def RunnerOp.movesSlot : RunnerOp → Bool
  | .acquire _ | .release | .countPending | .uncountPending | .handOver _ => true
  | _ => false

/-- All other operations leave the slots alone. -/
theorem exec_slots_same {op : RunnerOp} {reply : op.Reply} (unmoved : op.movesSlot = false)
    (executed : state.exec settings nature op = some (state', reply)) :
    state'.slots = state.slots := by
  cases op with
  | acquire _ | release | countPending | uncountPending | handOver _ => cases unmoved
  -- Fetching and reporting touch other fields of the runner.
  | fetchBook symbol =>
    simp only [RunnerState.exec] at executed
    split at executed <;> cases executed <;> rfl
  | submitOrder intent =>
    cases executed
    exact (abandon_slots intent _).trans
      (recordSubmit_slots intent nature.nowMs nature.submitted)
  | cancelOrder orderId symbol =>
    cases executed
    exact recordCancel_slots orderId nature.canceled
  | nextTick | expiredIds | outstandingIds | isIdle | cursor | setCursor _ | hasFreeSlot
  | nextIntents _ _ _ | trackedSymbol _ | afterSubmit _ _ _ =>
    cases executed
    rfl

/-- An operation that leaves the slots alone leaves the thread what it has. -/
theorem next_same {phase : SlotPhase} {op : RunnerOp} (unmoved : op.movesSlot = false)
    (allowed : phase.allows op = true) (reply : op.Reply) :
    (phase.next op reply).permits = phase.permits ∧
      (phase.next op reply).pending = phase.pending := by
  cases op with
  | acquire _ | release | countPending | uncountPending | handOver _ => cases unmoved
  | submitOrder intent =>
    -- Whether there is something to report, the permit and the count stay.
    cases phase <;> first
      | exact ⟨rfl, rfl⟩
      | (cases reply <;> exact ⟨rfl, rfl⟩)
  | _ => cases phase <;> exact ⟨rfl, rfl⟩

variable (state) in
/-- What a state knows about slots after a job has been queued. -/
theorem enqueue_slots (job : HttpJob) (answer : PoolAnswer) :
    (state.enqueue job answer).slots = (state.permits, state.pending, state.pool ++ [job],
      state.acquired, state.released, state.doubled + answer.raises.toNat) := by
  cases job <;> rfl

/-- What a thread holds moves along with the operation that it performs. -/
theorem exec_slots {phase : SlotPhase} {op : RunnerOp} {reply : op.Reply}
    (allowed : phase.allows op = true)
    (executed : state.exec settings nature op = some (state', reply)) :
    state'.permits + (phase.next op reply).permits + state'.pool.length + state.doubled =
        state.permits + phase.permits + state.pool.length + state'.doubled ∧
      state'.pending + phase.pending + state.pool.length + state'.doubled =
        state.pending + (phase.next op reply).pending + state'.pool.length + state.doubled ∧
      state'.acquired + state.released + phase.permits + state.pool.length + state'.doubled =
        state.acquired + state'.released + (phase.next op reply).permits + state'.pool.length +
          state.doubled := by
  cases unmoved : op.movesSlot with
  | false =>
    have same := exec_slots_same unmoved executed
    obtain ⟨permits, pending⟩ := next_same unmoved allowed reply
    -- Neither the state nor the thread has any slot more or less.
    simp only [RunnerState.slots, Prod.mk.injEq] at same
    obtain ⟨sames, samePending, samePool, sameAcquired, sameReleased, sameDoubled⟩ := same
    rw [sames, samePending, samePool, sameAcquired, sameReleased, sameDoubled, permits, pending]
    omega
  | true =>
    cases op with
    | acquire blocking =>
      simp only [RunnerState.exec] at executed
      -- Acquiring takes a permit from the state to the thread, if there is one.
      split_ifs at executed with some_left
      · cases executed
        cases phase <;> first
          | exact absurd allowed Bool.false_ne_true
          | (simp only [SlotPhase.next, SlotPhase.permits, SlotPhase.pending, cond_true, true_and]
             omega)
      · cases executed
        cases phase <;> first
          | exact absurd allowed Bool.false_ne_true
          | exact ⟨rfl, rfl, rfl⟩
    -- What becomes of the permit depends on how the pool answers.
    | handOver job =>
      simp only [RunnerState.exec] at executed
      have counted : phase = .counted := by
        cases phase <;> first
          | rfl
          | exact absurd allowed Bool.false_ne_true
      subst counted
      have queued := enqueue_slots state job nature.pool
      simp only [RunnerState.slots, Prod.mk.injEq] at queued
      obtain ⟨permits, pending, pool, acquired, released, doubled⟩ := queued
      cases answer : nature.pool with
      | taken =>
        -- The count and the permit go from the thread to the pool.
        rw [answer] at executed permits pending pool acquired released doubled
        cases executed
        rw [permits, pending, pool, acquired, released, doubled, List.length_append]
        simp only [SlotPhase.next, SlotPhase.permits, SlotPhase.pending, PoolAnswer.raises,
          cond_false, Bool.toNat_false, List.length_singleton]
        omega
      | refused =>
        rw [answer] at executed
        cases executed
        exact ⟨rfl, rfl, rfl⟩
      | queuedAndRaised =>
        -- The job has a count and a permit now, and so has the thread.
        rw [answer] at executed permits pending pool acquired released doubled
        cases executed
        rw [permits, pending, pool, acquired, released, doubled, List.length_append]
        simp only [SlotPhase.next, SlotPhase.permits, SlotPhase.pending, PoolAnswer.raises,
          cond_true, Bool.toNat_true, List.length_singleton]
        omega
    -- Releasing and counting concern only the state and the thread.
    | release | countPending | uncountPending =>
      cases executed
      cases phase <;> first
        | exact absurd allowed Bool.false_ne_true
        | (simp only [SlotPhase.next, SlotPhase.permits, SlotPhase.pending, true_and, and_true]
           omega)
    | _ => cases unmoved

/--
The slots that are taken are those of the threads and those of the waiting jobs.

For each job that was queued by a call that raised, there is one permit too many.
-/
structure SlotsAgree (settings : RunnerSettings) (state : RunnerState)
    (phases : Dict Nat SlotPhase) : Prop where
  permits : state.permits + phases.total (fun _ phase => phase.permits) + state.pool.length =
    settings.httpConcurrency + state.doubled
  pending : state.pending + state.doubled =
    phases.total (fun _ phase => phase.pending) + state.pool.length
  acquired : state.acquired + state.doubled =
    state.released + phases.total (fun _ phase => phase.permits) + state.pool.length

variable (settings) in
/-- A worker takes over the job that it takes out of the pool. -/
theorem admit_job {job : HttpJob} {program : RunnerProgram (Except RunnerError Unit)}
    (admitted : state.serve settings (.runJob job) = some (state', program)) :
    ∃ later, state.pool = job :: later ∧ state' = { state with pool := later } ∧
      program = .runJob job := by
  simp only [RunnerState.serve] at admitted
  -- The job must be the first one that waits.
  split at admitted
  · cases admitted
  · rename_i next later waiting
    split_ifs at admitted with same
    cases admitted
    exact ⟨later, same ▸ waiting, rfl, rfl⟩

section Moves

variable {phases : Dict Nat SlotPhase} {thread : Nat} {phase : SlotPhase}

/-- A thread that holds nothing may come in. -/
theorem SlotsAgree.set_new (agrees : SlotsAgree settings state phases)
    (free : phases.get? thread = none) (permits : phase.permits = 0) (pending : phase.pending = 0) :
    SlotsAgree settings state (phases.set thread phase) where
  permits := by
    rw [Dict.total_set_new free, permits]
    exact agrees.permits
  pending := by
    rw [Dict.total_set_new free, pending]
    exact agrees.pending
  acquired := by
    rw [Dict.total_set_new free, permits]
    exact agrees.acquired

/-- A job that leaves the pool keeps its permit. -/
theorem SlotsAgree.set_job (agrees : SlotsAgree settings state phases)
    (free : phases.get? thread = none) {job : HttpJob} {later : List HttpJob}
    (waiting : state.pool = job :: later) :
    SlotsAgree settings { state with pool := later } (phases.set thread job.phase) := by
  obtain ⟨permits, pending, acquired⟩ := agrees
  rw [waiting, List.length_cons] at permits pending acquired
  -- A job has a permit and a count while it waits, and its thread has them afterwards.
  have holds : job.phase.permits = 1 ∧ job.phase.pending = 1 := by cases job <;> exact ⟨rfl, rfl⟩
  refine ⟨?_, ?_, ?_⟩
  · rw [Dict.total_set_new free, holds.1]
    simp only
    omega
  · rw [Dict.total_set_new free, holds.2]
    simp only
    omega
  · rw [Dict.total_set_new free, holds.1]
    simp only
    omega

/-- An operation moves what the thread holds along. -/
theorem SlotsAgree.exec (agrees : SlotsAgree settings state phases)
    (found : phases.get? thread = some phase) {op : RunnerOp} {reply : op.Reply}
    (allowed : phase.allows op = true)
    (executed : state.exec settings nature op = some (state', reply)) :
    SlotsAgree settings state' (phases.set thread (phase.next op reply)) := by
  obtain ⟨permits, pending, acquired⟩ := agrees
  obtain ⟨permits', pending', acquired'⟩ := exec_slots allowed executed
  -- Only the phase of this thread changes.
  have held := Dict.total_replace found (phase.next op reply) fun _ phase => phase.permits
  have counted := Dict.total_replace found (phase.next op reply) fun _ phase => phase.pending
  exact ⟨by omega, by omega, by omega⟩

/-- A thread that holds nothing may go. -/
theorem SlotsAgree.erase (agrees : SlotsAgree settings state phases)
    (found : phases.get? thread = some phase) {request : RunnerRequest}
    {answer : Except RunnerError Unit} (ended : Finished request phase answer) :
    SlotsAgree settings state (phases.erase thread) := by
  -- Whoever has finished has no permit and is not counted.
  have nothing : phase.permits = 0 ∧ phase.pending = 0 := by
    cases request <;> (cases ended; exact ⟨rfl, rfl⟩)
  obtain ⟨permits, pending, acquired⟩ := agrees
  rw [Dict.total_eq found, nothing.1, Nat.zero_add] at permits acquired
  rw [Dict.total_eq found, nothing.2, Nat.zero_add] at pending
  exact ⟨permits, pending, acquired⟩

end Moves

/-- Every turn keeps the slots in agreement with the phases. -/
theorem slots_step {system : RunnerSystem} {phases : Dict Nat SlotPhase}
    (phased : system.Phased slotProtocol Finished phases)
    (agrees : SlotsAgree settings system.store phases) (turn : RunnerTurnOf) :
    ∃ phases', (system.step (runnerService settings) turn).1.Phased slotProtocol Finished phases' ∧
      SlotsAgree settings (system.step (runnerService settings) turn).1.store phases' := by
  refine (phased.step turn (SlotsAgree settings) agrees ?_ ?_ ?_).imp
    fun phases' held => ⟨held.1, held.2.1⟩
  · intro thread request store program _ free admitted
    -- A new thread starts without a permit, or with that of the job that it takes out of the pool.
    cases request with
    | tickOnce =>
      cases admitted
      exact ⟨.free, RunnerProgram.tickOnce_takes settings, agrees.set_new free rfl rfl⟩
    | cancelAllOpenOrders before afterwards =>
      cases admitted
      exact ⟨.free, RunnerProgram.cancelAllOpenOrders_takes before afterwards,
        agrees.set_new free rfl rfl⟩
    | runJob job =>
      obtain ⟨later, waiting, rfl, rfl⟩ := admit_job settings admitted
      exact ⟨job.phase, RunnerProgram.runJob_takes job, agrees.set_job free waiting⟩
  · intro thread nature request op next store reply phase _ _ found allowed executed
    exact ⟨phase.next op reply, rfl, agrees.exec found allowed executed⟩
  · intro thread request phase answer found ended
    exact agrees.erase found ended

/-- In every run the threads keep to their phases, and the slots agree with them. -/
theorem slots_run (turns : List RunnerTurnOf) : ∀ {system : RunnerSystem}
    {phases : Dict Nat SlotPhase}, system.Phased slotProtocol Finished phases →
      SlotsAgree settings system.store phases →
        ∃ phases',
          (Machine.runTotal (Shared.step (runnerService settings)) system turns).1.Phased
            slotProtocol Finished phases' ∧
          SlotsAgree settings
            (Machine.runTotal (Shared.step (runnerService settings)) system turns).1.store
            phases' :=
  Shared.Phased.run slots_step turns

end Accounts

/-- Whether a thread is about to do something that takes a permit. -/
def holdsPermit {α : Type} : RunnerProgram α → Bool
  | .done _ => false
  | .call op _ => op.needsPermit

/-- Whether a thread is about to do something that takes being counted. -/
def isCounted {α : Type} : RunnerProgram α → Bool
  | .done _ => false
  | .call op _ => op.needsCount

/-- Whether a thread runs a job that it has not finished. -/
def unfinishedJob : RunnerRequest → RunnerProgram (Except RunnerError Unit) → Bool
  | .runJob _, .call _ _ => true
  | _, _ => false

namespace RunnerSystem

/-- The permits that are held: by the threads, and by the jobs that wait in the pool. -/
def heldPermits (system : RunnerSystem) : Nat :=
  system.threads.total (fun _ entry => (holdsPermit entry.2).toNat) + system.store.pool.length

/-- The jobs that were handed to the pool and are not finished. -/
def unfinishedJobs (system : RunnerSystem) : Nat :=
  system.threads.total (fun _ entry => (unfinishedJob entry.1 entry.2).toNat) +
    system.store.pool.length

/-- No thread that runs a tick or cancels everything is holding a permit. -/
def NoneStarting (system : RunnerSystem) : Prop :=
  ∀ thread request program, system.threads.get? thread = some (request, program) →
    holdsPermit program = true → unfinishedJob request program = true

section Reading

variable {system : RunnerSystem} {phases : Dict Nat SlotPhase}

/-- The operations of a phase take what the phase has. -/
theorem allows_needs {phase : SlotPhase} {op : RunnerOp} (allowed : phase.allows op = true) :
    op.needsPermit.toNat = phase.permits ∧ op.needsCount.toNat = phase.pending := by
  -- What a phase does not allow is never performed in it.
  cases phase <;> cases op <;> first
    | exact ⟨rfl, rfl⟩
    | exact absurd allowed Bool.false_ne_true

/-- What a thread is about to do tells whether it holds a permit, and whether it is counted. -/
theorem phase_of_program {request : RunnerRequest}
    {program : RunnerProgram (Except RunnerError Unit)} {phase : SlotPhase}
    (kept : program.Keeps slotProtocol (Finished request) phase) :
    (holdsPermit program).toNat = phase.permits ∧ (isCounted program).toNat = phase.pending := by
  cases kept with
  | done ended => cases request <;> (cases ended; exact ⟨rfl, rfl⟩)
  | call allowed _ => exact allows_needs allowed

/-- Every operation has some reply. -/
instance (op : RunnerOp) : Inhabited op.Reply :=
  ⟨match op with
    | .nextTick | .cursor => (0 : Nat)
    | .expiredIds | .outstandingIds | .nextIntents _ _ _ => []
    | .isIdle | .hasFreeSlot | .acquire _ => false
    | .handOver _ => PoolAnswer.refused
    | .fetchBook _ | .submitOrder _ => none
    | .trackedSymbol _ => ""
    | .setCursor _ | .release | .countPending | .uncountPending | .cancelOrder _ _
    | .afterSubmit _ _ _ => ()⟩

/-- Whoever hands jobs over goes on doing so. -/
theorem startsJobs_next {phase : SlotPhase} {op : RunnerOp} (starts : phase.startsJobs = true)
    (allowed : phase.allows op = true) (reply : op.Reply) :
    (phase.next op reply).startsJobs = true := by
  -- The phases are gone through with the operations that they allow.
  cases phase <;> cases op <;> first
    | rfl
    | exact absurd starts Bool.false_ne_true
    | exact absurd allowed Bool.false_ne_true
    | (cases reply <;> rfl)

/-- A job never comes to a phase of the threads that hand jobs over. -/
theorem job_phase {job : HttpJob} {program : RunnerProgram (Except RunnerError Unit)}
    {phase : SlotPhase} (kept : program.Keeps slotProtocol (Finished (.runJob job)) phase) :
    phase.startsJobs = false := by
  -- Such a phase would be kept up to the end, where a job has left.
  induction kept with
  | done ended =>
    cases ended
    rfl
  | @call phase op _ allowed _ ih =>
    rw [← Bool.not_eq_true]
    intro starts
    have later := ih default _ rfl
    rw [startsJobs_next starts allowed] at later
    cases later

/-- What the threads are about to do takes as much as their phases have. -/
theorem totals_of_phased (phased : system.Phased slotProtocol Finished phases) :
    system.threads.total (fun _ entry => (holdsPermit entry.2).toNat) =
        phases.total (fun _ phase => phase.permits) ∧
      system.threads.total (fun _ entry => (isCounted entry.2).toNat) =
        phases.total (fun _ phase => phase.pending) := by
  -- The sums agree thread by thread.
  refine ⟨Dict.total_eq_total fun thread => ?_, Dict.total_eq_total fun thread => ?_⟩
  all_goals
    cases found : system.threads.get? thread with
    | none =>
      rw [phased.free found]
      rfl
    | some entry =>
      obtain ⟨phase, at_phase, kept⟩ := phased.find found
      rw [at_phase]
      first
        | exact (phase_of_program kept).1
        | exact (phase_of_program kept).2

/-- A job that is not finished holds a permit. -/
theorem unfinished_holds {request : RunnerRequest}
    {program : RunnerProgram (Except RunnerError Unit)} {phase : SlotPhase}
    (kept : program.Keeps slotProtocol (Finished request) phase) :
    -- Only a job may be unfinished.
    (unfinishedJob request program).toNat ≤ (holdsPermit program).toNat := by
  cases request with
  | tickOnce | cancelAllOpenOrders _ _ => exact Nat.zero_le _
  | runJob job =>
    rw [(phase_of_program kept).1]
    -- The thread runs a job, so it holds the permit until it gives it back.
    have worker := job_phase kept
    cases kept with
    | done _ => exact Nat.zero_le _
    | call allowed _ =>
      cases phase <;> first
        | exact Nat.le_refl 1
        | exact absurd worker.symm Bool.false_ne_true
        | exact absurd allowed Bool.false_ne_true

/-- Whoever is counted holds a permit. -/
theorem counted_holds (program : RunnerProgram (Except RunnerError Unit)) :
    (isCounted program).toNat ≤ (holdsPermit program).toNat := by
  cases program with
  | done _ => exact Nat.le_refl 0
  | call op _ =>
    -- Which operation comes next tells both.
    cases op <;> first
      | exact Nat.le_refl _
      | exact Nat.zero_le _

/-- No more jobs are unfinished than permits are held. -/
theorem unfinishedJobs_le (phased : system.Phased slotProtocol Finished phases) :
    system.unfinishedJobs ≤ system.heldPermits := by
  refine Nat.add_le_add_right (Dict.total_mono fun item member => ?_) _
  obtain ⟨phase, _, kept⟩ := phased.find (Dict.get?_eq_some_iff.mpr member)
  exact unfinished_holds kept

/-- Without unfinished jobs, and without permits to start some, no permit is held at all. -/
theorem heldPermits_eq_zero (idle : system.unfinishedJobs = 0) (none : system.NoneStarting) :
    system.heldPermits = 0 := by
  -- No thread counts for an unfinished job, and none waits.
  simp only [unfinishedJobs, Nat.add_eq_zero_iff] at idle
  rw [heldPermits, idle.2, Dict.total_eq_zero]
  intro item member
  have found := Dict.get?_eq_some_iff.mpr member
  have finished := Dict.weight_le_total found fun _ entry => (unfinishedJob entry.1 entry.2).toNat
  rw [idle.1, Nat.le_zero, Bool.toNat_eq_zero] at finished
  rw [Bool.toNat_eq_zero, ← Bool.not_eq_true]
  intro holds
  rw [none item.1 item.2.1 item.2.2 found holds] at finished
  cases finished

end Reading

/-- In this turn, a `pool.submit` that raises has not queued its job. -/
def queuesOrRaises : RunnerTurnOf → Bool
  | .begin _ _ => true
  | .resume _ nature => nature.pool ≠ .queuedAndRaised

/-- No operation queues a job and raises, where the pool does not. -/
theorem exec_doubled {settings : RunnerSettings} {state state' : RunnerState}
    {nature : RunnerNature} {op : RunnerOp} {reply : op.Reply}
    (unqueued : nature.pool ≠ .queuedAndRaised)
    (executed : state.exec settings nature op = some (state', reply)) :
    state'.doubled = state.doubled := by
  cases unmoved : op.movesSlot with
  | false => exact congrArg (fun slots => slots.2.2.2.2.2) (exec_slots_same unmoved executed)
  | true =>
    cases op with
    | handOver job =>
      -- Only a hand-over can give a permit back twice.
      have queued := enqueue_slots state job nature.pool
      simp only [RunnerState.exec] at executed
      cases answer : nature.pool with
      | taken =>
        rw [answer] at executed queued
        cases executed
        exact congrArg (fun slots => slots.2.2.2.2.2) queued
      | refused =>
        rw [answer] at executed
        cases executed
        rfl
      | queuedAndRaised => exact absurd answer unqueued
    | acquire blocking =>
      simp only [RunnerState.exec] at executed
      split_ifs at executed <;> (cases executed; rfl)
    | release | countPending | uncountPending =>
      cases executed
      rfl
    | _ => cases unmoved

/-- In such a turn no job comes to be queued by a call that raises. -/
theorem doubled_step {settings : RunnerSettings} (system : RunnerSystem) {turn : RunnerTurnOf}
    (unqueued : queuesOrRaises turn = true) :
    (system.step (runnerService settings) turn).1.store.doubled = system.store.doubled := by
  have turned : Shared.Turned (runnerService settings) system turn _ _ := Shared.step_turned turn
  generalize system.step (runnerService settings) turn = stepped at turned ⊢
  obtain ⟨after, output⟩ := stepped
  simp only at turned ⊢
  -- A turn that performs nothing leaves the count.
  cases turned with
  | waited | answered _ => rfl
  | @admitted thread request store program free served =>
    cases request with
    | tickOnce | cancelAllOpenOrders _ _ =>
      cases served
      rfl
    | runJob job =>
      obtain ⟨later, waiting, rfl, rfl⟩ := admit_job settings served
      rfl
  | performed found executed => exact exec_doubled (of_decide_eq_true unqueued) executed

/-- In a run of such turns every job is queued by a call that returns. -/
theorem doubled_eq_zero (settings : RunnerSettings) {turns : List RunnerTurnOf}
    (unqueued : ∀ turn ∈ turns, queuesOrRaises turn = true) :
    (reached settings turns).store.doubled = 0 := by
  have kept : ∀ system : RunnerSystem,
      (Machine.runTotal (Shared.step (runnerService settings)) system turns).1.store.doubled =
        system.store.doubled := by
    induction turns with
    | nil => exact fun _ => rfl
    | cons turn later ih =>
      intro system
      -- The first turn queues no such job, and neither does what comes later.
      have rest := ih fun other member => unqueued other (List.mem_cons_of_mem _ member)
      exact (rest _).trans (doubled_step system (unqueued turn List.mem_cons_self))
  exact kept (start settings)

/--
Permits are neither lost nor made, and no more jobs are under way than there are slots.

Whatever was acquired is held by exactly one thread or waiting job until it is released.
When no job is under way, and no permit is held to start one, everything is as at the start.

All of this is up to the number of jobs that `pool.submit` has queued before it raised. Each of them
gives back a permit that is given back where the call raised, too. There are none of them, if a call
that raises is assumed to have queued nothing.
-/
theorem slots_conserved (settings : RunnerSettings) (turns : List RunnerTurnOf) :
    (reached settings turns).unfinishedJobs ≤
      settings.httpConcurrency + (reached settings turns).store.doubled ∧
    0 ≤ (reached settings turns).store.pending + (reached settings turns).store.doubled ∧
    (reached settings turns).store.pending ≤ settings.httpConcurrency ∧
    (reached settings turns).store.permits + (reached settings turns).heldPermits =
      settings.httpConcurrency + (reached settings turns).store.doubled ∧
    (reached settings turns).store.acquired + (reached settings turns).store.doubled =
      (reached settings turns).store.released + (reached settings turns).heldPermits ∧
    ((reached settings turns).unfinishedJobs = 0 → (reached settings turns).NoneStarting →
      (reached settings turns).store.pending + (reached settings turns).store.doubled = 0 ∧
        (reached settings turns).store.permits =
          settings.httpConcurrency + (reached settings turns).store.doubled) ∧
    ((∀ turn ∈ turns, queuesOrRaises turn = true) →
      (reached settings turns).store.doubled = 0) := by
  have fresh : (RunnerSystem.start settings).Phased slotProtocol Finished .empty := fun _ => rfl
  obtain ⟨phases, phased, agrees⟩ := slots_run turns fresh ⟨rfl, rfl, rfl⟩
  have unqueued := @doubled_eq_zero settings turns
  change (reached settings turns).Phased slotProtocol Finished phases at phased
  change SlotsAgree settings (reached settings turns).store phases at agrees
  generalize reached settings turns = system at *
  -- The sums over the threads are those over their phases.
  obtain ⟨holding, counting⟩ := totals_of_phased phased
  obtain ⟨permits, pending, acquired⟩ := agrees
  rw [← holding] at permits acquired
  rw [← counting] at pending
  have jobs := unfinishedJobs_le phased
  -- Whoever is counted holds a permit, so that no more are counted than permits are held.
  have counted : system.threads.total (fun _ entry => (isCounted entry.2).toNat) ≤
      system.threads.total fun _ entry => (holdsPermit entry.2).toNat :=
    Dict.total_mono fun item _ => counted_holds item.2.2
  have held : system.heldPermits =
      system.threads.total (fun _ entry => (holdsPermit entry.2).toNat) +
        system.store.pool.length := rfl
  refine ⟨by omega, by omega, by omega, by omega, by omega, fun idle none => ?_, unqueued⟩
  -- Nothing is held, and all that is left of the accounts is the state's own.
  have nothing := heldPermits_eq_zero idle none
  exact ⟨by omega, by omega⟩

/-- A runner with one participant and one slot. -/
def oneSlot : RunnerSettings := ⟨["005930"], 1, Nat.le_refl 1⟩

/-- Books are empty, nobody intends anything, and all calls succeed. -/
def quietNature : RunnerNature :=
  ⟨0, some ⟨"005930", [], []⟩, [], .taken, .ok ⟨"order", 1⟩, .ok .canceled⟩

/-- A tick up to the moment where the participant is asked, with the permit already held. -/
def askingTurns : List RunnerTurnOf :=
  .begin 0 .tickOnce :: List.replicate 6 (.resume 0 quietNature)

/-- A bid for one share. -/
def oneBid : OrderIntent := ⟨"buyer", "005930", .buy, 69900, 1, none⟩

/-- The pool queues the only intent and raises, and then a worker that is there runs the job. -/
def raisingTurns : List RunnerTurnOf :=
  .begin 0 .tickOnce ::
    List.replicate 12 (.resume 0 { quietNature with intents := [oneBid], pool := .queuedAndRaised }) ++
  .begin 1 (.runJob (.submit oneBid 1)) :: List.replicate 5 (.resume 1 quietNature)

/--
The slots are not always accounted for.

A permit is taken before there is a job for it. And a job that is queued by a call that raises gives
back a permit for the second time, so that there are more permits than slots.
-/
theorem slots_miscounted :
    (¬∀ (settings : RunnerSettings) (turns : List RunnerTurnOf),
      (reached settings turns).unfinishedJobs = 0 →
        (reached settings turns).store.permits = settings.httpConcurrency) ∧
    ¬∀ (settings : RunnerSettings) (turns : List RunnerTurnOf),
      0 ≤ (reached settings turns).store.pending ∧
        (reached settings turns).store.permits ≤ settings.httpConcurrency :=
  ⟨fun always => absurd (always oneSlot askingTurns (by decide +kernel)) (by decide +kernel),
    fun always => absurd (always oneSlot raisingTurns) (by decide +kernel)⟩

end RunnerSystem

end StockMarket
