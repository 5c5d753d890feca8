import StockMarket.Runner.HttpSlots

/-! What becomes of the intents that the pool has been given. -/

namespace StockMarket

/-- The intent that a job submits. -/
def HttpJob.intents : HttpJob → List OrderIntent
  | .submit intent _ => [intent]
  | .cancel _ => []

/-- The intent that a thread is about to submit, or to report. -/
def submitsNow {α : Type} : RunnerProgram α → List OrderIntent
  | .done _ => []
  | .call op _ => op.submits

namespace RunnerSystem

/-- How often an intent waits in the pool. -/
def waitingSubmits (system : RunnerSystem) (intent : OrderIntent) : Nat :=
  (system.store.pool.flatMap HttpJob.intents).count intent

/-- How often an intent is being submitted or reported by a thread. -/
def runningSubmits (system : RunnerSystem) (intent : OrderIntent) : Nat :=
  system.threads.total fun _ entry => (submitsNow entry.2).count intent

end RunnerSystem

section Accounts

variable {settings : RunnerSettings} {state state' : RunnerState} {nature : RunnerNature}
  {phases : Dict Nat SlotPhase} {thread : Nat} {phase : SlotPhase}

/-- Whatever the pool has been given waits, is worked on, was reported, or was abandoned. -/
def ReportsAgree (state : RunnerState) (phases : Dict Nat SlotPhase) : Prop :=
  ∀ intent, state.handed.count intent = (state.pool.flatMap HttpJob.intents).count intent +
    phases.total (fun _ phase => phase.submits.count intent) + state.reported.count intent +
      state.abandoned.count intent

/-- What a state knows about the intents that the pool has been given. -/
def RunnerState.reports (state : RunnerState) :
    List HttpJob × List OrderIntent × List OrderIntent × List OrderIntent :=
  (state.pool, state.handed, state.reported, state.abandoned)

variable (state) in
/-- Recording what came of a submission reports nothing. -/
theorem recordSubmit_reports (intent : OrderIntent) (nowMs : Int)
    (result : CallResult SubmittedOrder) :
    (state.recordSubmit intent nowMs result).reports = state.reports := by
  -- Whatever came of it, the record of reports stays as it is.
  cases result with
  | ok order =>
    simp only [RunnerState.recordSubmit]
    split_ifs <;> rfl
  | backendError | raised => rfl

/-- Recording what came of a cancellation reports nothing. -/
theorem recordCancel_reports (orderId : String) (result : CallResult CancellationResult) :
    (state.recordCancel orderId result).reports = state.reports := by
  match result with
  | .ok .canceled | .ok .alreadyClosed | .backendError | .raised => rfl

/-- The operations that hand over, submit, or report. -/
def RunnerOp.movesReports : RunnerOp → Bool
  | .handOver _ | .submitOrder _ | .afterSubmit _ _ _ => true
  | _ => false

/-- All other operations leave the intents in the pool alone. -/
theorem exec_reports_same {op : RunnerOp} {reply : op.Reply} (unmoved : op.movesReports = false)
    (executed : state.exec settings nature op = some (state', reply)) :
    state'.reports = state.reports := by
  cases op with
  | submitOrder _ | afterSubmit _ _ _ | handOver _ => cases unmoved
  | fetchBook symbol =>
    simp only [RunnerState.exec] at executed
    split at executed <;> cases executed <;> rfl
  | acquire blocking =>
    simp only [RunnerState.exec] at executed
    split_ifs at executed <;> cases executed <;> rfl
  -- A cancel reports to nobody.
  | cancelOrder orderId symbol =>
    cases executed
    exact recordCancel_reports orderId nature.canceled
  | nextTick | expiredIds | outstandingIds | isIdle | cursor | setCursor _ | hasFreeSlot
  | nextIntents _ _ _ | trackedSymbol _ | release | countPending | uncountPending =>
    cases executed
    rfl

/-- The intent that a thread submits stays the same until it is reported or abandoned. -/
theorem next_submits {op : RunnerOp} (unmoved : op.movesReports = false)
    (allowed : phase.allows op = true) (reply : op.Reply) :
    (phase.next op reply).submits = phase.submits := by
  -- The phases are gone through with the operations that they allow.
  cases phase <;> cases op <;> first
    | rfl
    | exact absurd allowed Bool.false_ne_true
    | exact absurd unmoved.symm Bool.false_ne_true
    | (cases reply <;> rfl)

/-- A job that is queued brings its intent along. -/
theorem enqueue_handed (job : HttpJob) (answer : PoolAnswer) :
    (state.enqueue job answer).handed = state.handed ++ job.intents := by
  cases job with
  | submit intent tick => rfl
  | cancel orderId => exact (List.append_nil _).symm

/-- What the pool has been given moves along with the operation that a thread performs. -/
theorem exec_reports {op : RunnerOp} {reply : op.Reply} (allowed : phase.allows op = true)
    (executed : state.exec settings nature op = some (state', reply)) (intent : OrderIntent) :
    state'.handed.count intent + (state.pool.flatMap HttpJob.intents).count intent +
        phase.submits.count intent + state.reported.count intent + state.abandoned.count intent =
      state.handed.count intent + (state'.pool.flatMap HttpJob.intents).count intent +
        (phase.next op reply).submits.count intent + state'.reported.count intent +
          state'.abandoned.count intent := by
  cases unmoved : op.movesReports with
  | false =>
    have same := exec_reports_same unmoved executed
    simp only [RunnerState.reports, Prod.mk.injEq] at same
    obtain ⟨pool, handed, reported, abandoned⟩ := same
    rw [pool, handed, reported, abandoned, next_submits unmoved allowed reply]
  | true =>
    cases op with
    | handOver job =>
      -- Only a thread that is counted hands over, and it submits nothing itself.
      have counted : phase = .counted := by
        cases phase <;> first
          | rfl
          | exact absurd allowed Bool.false_ne_true
      subst counted
      have quiet : (SlotPhase.counted.next (.handOver job) reply).submits = [] := by
        cases reply <;> rfl
      rw [quiet]
      simp only [RunnerState.exec] at executed
      split_ifs at executed
      · -- The job is queued, whether the call raises or not.
        cases executed
        have unreported : (state.enqueue job nature.pool).reported = state.reported ∧
            (state.enqueue job nature.pool).abandoned = state.abandoned ∧
            (state.enqueue job nature.pool).pool = state.pool ++ [job] := by
          cases job <;> exact ⟨rfl, rfl, rfl⟩
        rw [enqueue_handed, unreported.1, unreported.2.1, unreported.2.2, List.flatMap_append,
          List.count_append, List.count_append, List.flatMap_singleton]
        simp only [SlotPhase.submits]
        omega
      · cases executed
        simp only [SlotPhase.submits]
    | submitOrder other =>
      -- Only a thread that has this intent submits it.
      have submitting : phase = .submitting other := by
        cases phase <;> first
          | exact absurd allowed Bool.false_ne_true
          | exact congrArg _ (of_decide_eq_true allowed)
      subst submitting
      cases executed
      have recorded := recordSubmit_reports state other nature.nowMs nature.submitted
      generalize state.recordSubmit other nature.nowMs nature.submitted = after at recorded ⊢
      simp only [RunnerState.reports, Prod.mk.injEq] at recorded
      obtain ⟨pool, handed, reported, abandoned⟩ := recorded
      cases state.submitted nature.submitted with
      | some submitted =>
        -- It is to be reported next.
        simp only [RunnerState.abandon, SlotPhase.next, SlotPhase.submits, pool, handed, reported,
          abandoned, Option.isSome_some, cond_true]
      | none =>
        -- The error goes on, and nothing will be reported.
        simp only [RunnerState.abandon, SlotPhase.next, SlotPhase.submits, pool, handed, reported,
          abandoned, Option.isSome_none, cond_false, List.count_append, List.count_nil]
        omega
    | afterSubmit other submitted tick =>
      have reporting : phase = .reporting other := by
        cases phase <;> first
          | exact absurd allowed Bool.false_ne_true
          | exact congrArg _ (of_decide_eq_true allowed)
      subst reporting
      cases executed
      simp only [SlotPhase.next, SlotPhase.submits, List.count_append, List.count_nil]
      omega
    | _ => cases unmoved

/-- A thread that submits nothing may come in. -/
theorem ReportsAgree.set_free (agrees : ReportsAgree state phases)
    (free : phases.get? thread = none) : ReportsAgree state (phases.set thread .free) := by
  intro intent
  rw [Dict.total_set_new free]
  exact agrees intent

/-- A worker goes on with the intent of the job that it takes out of the pool. -/
theorem ReportsAgree.job (agrees : ReportsAgree state phases) (free : phases.get? thread = none)
    {job : HttpJob} {later : List HttpJob} (waiting : state.pool = job :: later) :
    ReportsAgree { state with pool := later } (phases.set thread job.phase) := by
  intro intent
  have before := agrees intent
  rw [waiting, List.flatMap_cons, List.count_append] at before
  -- The job has its intent while it waits, and its thread has it afterwards.
  have same : job.phase.submits = job.intents := by cases job <;> rfl
  rw [Dict.total_set_new free, same]
  simp only
  omega

/-- An operation moves the intent of its thread along. -/
theorem ReportsAgree.exec (agrees : ReportsAgree state phases)
    (found : phases.get? thread = some phase) {op : RunnerOp} {reply : op.Reply}
    (allowed : phase.allows op = true)
    (executed : state.exec settings nature op = some (state', reply)) :
    ReportsAgree state' (phases.set thread (phase.next op reply)) := by
  intro intent
  have before := agrees intent
  have moved := exec_reports allowed executed intent
  -- The phases of the other threads stay, and the sums with them.
  have replaced := Dict.total_replace found (phase.next op reply)
    fun _ phase => phase.submits.count intent
  omega

/-- A thread that submits nothing may go. -/
theorem ReportsAgree.erase (agrees : ReportsAgree state phases)
    (found : phases.get? thread = some phase) {request : RunnerRequest}
    {answer : Except RunnerError Unit} (ended : Finished request phase answer) :
    ReportsAgree state (phases.erase thread) := by
  intro intent
  have before := agrees intent
  -- Whoever has finished has reported.
  have nothing : phase.submits = [] := by cases request <;> (cases ended; rfl)
  rw [Dict.total_eq found, nothing, List.count_nil, Nat.zero_add] at before
  exact before

/-- Every turn keeps track of what the pool has been given. -/
theorem reports_step {system : RunnerSystem} (phased : system.Phased slotProtocol Finished phases)
    (agrees : ReportsAgree system.store phases) (turn : RunnerTurnOf) :
    ∃ phases', (system.step (runnerService settings) turn).1.Phased slotProtocol Finished phases' ∧
      ReportsAgree (system.step (runnerService settings) turn).1.store phases' := by
  refine (phased.step turn ReportsAgree agrees ?_ ?_ ?_).imp fun phases' held => ⟨held.1, held.2.1⟩
  · intro thread request store program _ free admitted
    -- Only a job comes with an intent.
    cases request with
    | tickOnce =>
      cases admitted
      exact ⟨.free, RunnerProgram.tickOnce_takes settings, agrees.set_free free⟩
    | cancelAllOpenOrders before afterwards =>
      cases admitted
      exact ⟨.free, RunnerProgram.cancelAllOpenOrders_takes before afterwards,
        agrees.set_free free⟩
    | runJob job =>
      obtain ⟨later, waiting, rfl, rfl⟩ := admit_job settings admitted
      exact ⟨job.phase, RunnerProgram.runJob_takes job, agrees.job free waiting⟩
  · intro thread nature request op next store reply phase _ _ found allowed executed
    exact ⟨phase.next op reply, rfl, agrees.exec found allowed executed⟩
  · intro thread request phase answer found ended
    exact agrees.erase found ended

/-- In every run the threads keep to their phases, and their intents are kept track of. -/
theorem reports_run (turns : List RunnerTurnOf) : ∀ {system : RunnerSystem}
    {phases : Dict Nat SlotPhase}, system.Phased slotProtocol Finished phases →
      ReportsAgree system.store phases →
        ∃ phases',
          (Machine.runTotal (Shared.step (runnerService settings)) system turns).1.Phased
            slotProtocol Finished phases' ∧
          ReportsAgree (Machine.runTotal (Shared.step (runnerService settings)) system turns).1.store
            phases' :=
  Shared.Phased.run reports_step turns

/-- What a thread is about to do tells which intent it submits or reports. -/
theorem submitsNow_eq {request : RunnerRequest}
    {program : RunnerProgram (Except RunnerError Unit)} {phase : SlotPhase}
    (kept : program.Keeps slotProtocol (Finished request) phase) :
    submitsNow program = phase.submits := by
  cases kept with
  | done ended => cases request <;> (cases ended; rfl)
  | @call _ op _ allowed _ =>
    -- A phase with an intent allows nothing but the operation for it.
    cases phase <;> cases op <;> first
      | rfl
      | exact absurd allowed Bool.false_ne_true
      | exact congrArg (fun intent => [intent]) (of_decide_eq_true allowed).symm

end Accounts

/--
Whatever the pool has been given waits there, is being submitted, or has been reported.

Only a submission that raises something else than an error of the backend is never reported.
-/
theorem RunnerSystem.handed_accounted (settings : RunnerSettings) (turns : List RunnerTurnOf)
    (intent : OrderIntent) :
    (reached settings turns).store.handed.count intent =
      (reached settings turns).waitingSubmits intent +
        (reached settings turns).runningSubmits intent +
        (reached settings turns).store.reported.count intent +
        (reached settings turns).store.abandoned.count intent := by
  have fresh : (RunnerSystem.start settings).Phased slotProtocol Finished .empty := fun _ => rfl
  obtain ⟨phases, phased, agrees⟩ := reports_run turns fresh fun _ => rfl
  change (reached settings turns).Phased slotProtocol Finished phases at phased
  change ReportsAgree (reached settings turns).store phases at agrees
  generalize reached settings turns = system at *
  -- What the threads are about to do is what their phases submit.
  have same : system.runningSubmits intent =
      phases.total fun _ phase => phase.submits.count intent := by
    refine Dict.total_eq_total fun thread => ?_
    cases found : system.threads.get? thread with
    | none =>
      rw [phased.free found]
      rfl
    | some entry =>
      obtain ⟨phase, at_phase, kept⟩ := phased.find found
      rw [at_phase]
      simp only [Option.map_some, Option.getD_some, submitsNow_eq kept]
  rw [same]
  exact agrees intent

end StockMarket
