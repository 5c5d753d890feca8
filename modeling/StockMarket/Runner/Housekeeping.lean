import StockMarket.Runner.HttpRunner

/-! The programs of the runner that ask no participant, and the operations that they are made of. -/

namespace StockMarket

/-- The operations that neither ask a participant nor hand over an intent. -/
def RunnerOp.housekeeping : RunnerOp → Bool
  | .cursor | .setCursor _ | .hasFreeSlot | .nextIntents _ _ _ | .handOver (.submit _ _) => false
  | _ => true

namespace RunnerProgram

/-- Programs that ask no participant, whatever they answer. -/
abbrev Housekeeps {α : Type} (program : RunnerProgram α) : Prop :=
  program.Only (fun op => op.housekeeping = true) fun _ => True

section Housekeeping

variable {α β : Type}

/-- An answer alone is housekeeping. -/
theorem housekeeps_pure (answer : α) : Housekeeps (pure answer : RunnerProgram α) := trivial

/-- One operation, followed by a program that goes on with its reply. -/
theorem housekeeps_step {op : RunnerOp} {rest : op.Reply → RunnerProgram α}
    (allowed : op.housekeeping = true) (kept : ∀ reply, Housekeeps (rest reply)) :
    Housekeeps (step op >>= rest) :=
  Program.only_perform allowed kept

/-- Two programs, one after the other. -/
theorem housekeeps_bind {program : RunnerProgram α} {rest : α → RunnerProgram β}
    (first : Housekeeps program) (second : ∀ answer, Housekeeps (rest answer)) :
    Housekeeps (program >>= rest) :=
  Program.Only.bind first fun answer _ => second answer

/-- Handing over a cancellation moves no intent. -/
theorem submitCancel_housekeeps (orderId : String) :
    Housekeeps (submitToPool (.cancel orderId)) := by
  refine housekeeps_step rfl fun _ => housekeeps_step rfl fun answer => ?_
  cases answer with
  | taken => exact housekeeps_pure _
  | refused | queuedAndRaised =>
    -- Where the pool raises, the count and the slot are given back.
    exact housekeeps_step rfl fun _ => housekeeps_step rfl fun _ => housekeeps_pure _

/-- Starting a cancellation is housekeeping. -/
theorem startCancel_housekeeps (orderId : String) (blocking : Bool) :
    Housekeeps (startHttp (.cancel orderId) blocking) := by
  refine housekeeps_step rfl fun acquired => ?_
  -- Without a slot nothing is handed over.
  cases acquired with
  | false => exact housekeeps_pure _
  | true =>
    refine housekeeps_bind (submitCancel_housekeeps orderId) fun result => ?_
    cases result <;> exact housekeeps_pure _

/-- The cancellations of a tick are started until there is no slot. -/
theorem expireOrders_housekeeps : Housekeeps expireOrders := by
  refine housekeeps_step rfl fun orderIds => ?_
  induction orderIds with
  | nil => exact housekeeps_pure _
  | cons orderId later ih =>
    refine housekeeps_bind (startCancel_housekeeps orderId false) fun result => ?_
    -- The walk stops at the first cancel that cannot be started.
    match result with
    | .ok true => exact ih
    | .ok false => exact housekeeps_pure _
    | .error _ => exact housekeeps_pure _

/-- Fetching the books is housekeeping. -/
theorem fetchSnapshots_housekeeps (symbols : List String) :
    ∀ snapshots : Dict String BookSnapshot, Housekeeps (fetchSnapshots snapshots symbols) := by
  induction symbols with
  | nil => exact fun _ => housekeeps_pure _
  | cons symbol later ih =>
    intro snapshots
    refine housekeeps_step rfl fun book => ?_
    -- A book that cannot be fetched is left out.
    cases book with
    | some snapshot => exact ih _
    | none => exact ih _

/-- Waiting for the pool is housekeeping. -/
theorem waitForIdle_housekeeps (looks : Nat) : Housekeeps (waitForIdle looks) := by
  -- The induction is on how often the pool is looked at.
  induction looks with
  | zero => exact housekeeps_pure _
  | succ looks ih =>
    refine housekeeps_step rfl fun idle => ?_
    cases idle with
    | true => exact housekeeps_pure _
    | false => exact ih

/-- Starting cancellations is housekeeping. -/
theorem startCancels_housekeeps (orderIds : List String) :
    Housekeeps (startAll (orderIds.map HttpJob.cancel)) := by
  -- The induction is on the orders, and the first failure ends it.
  induction orderIds with
  | nil => exact housekeeps_pure _
  | cons orderId later ih =>
    refine housekeeps_bind (startCancel_housekeeps orderId true) fun result => ?_
    cases result with
    | ok _ => exact ih
    | error _ => exact housekeeps_pure _

/-- The final cancellation waits, cancels what is tracked, and waits again. -/
theorem cancelAllOpenOrders_housekeeps (before afterwards : Nat) :
    Housekeeps (cancelAllOpenOrders before afterwards) := by
  -- It waits for an idle runner, starts the cancels and waits again.
  refine housekeeps_bind (waitForIdle_housekeeps before) fun result => ?_
  cases result with
  | error _ => exact housekeeps_pure _
  | ok _ =>
    refine housekeeps_step rfl fun orderIds =>
      housekeeps_bind (startCancels_housekeeps orderIds) fun result => ?_
    cases result with
    | ok _ => exact waitForIdle_housekeeps afterwards
    | error _ => exact housekeeps_pure _

/-- A submission is reported, unless it raises. -/
theorem submitIntent_housekeeps (intent : OrderIntent) (tick : Nat) :
    Housekeeps (submitIntent intent tick) := by
  refine housekeeps_step rfl fun submitted => ?_
  cases submitted with
  | some _ => exact ⟨rfl, fun _ => trivial⟩
  | none => exact housekeeps_pure _

/-- A job has been handed over before it runs. -/
theorem runJob_housekeeps (job : HttpJob) : Housekeeps (runJob job) := by
  -- However the job ends, it is counted out and gives its slot back.
  have ending : Housekeeps (step .uncountPending >>= fun _ => step .release >>= fun _ =>
      (pure (.ok ()) : RunnerProgram (Except RunnerError Unit))) :=
    housekeeps_step rfl fun _ => housekeeps_step rfl fun _ => housekeeps_pure _
  cases job with
  | submit intent tick =>
    exact housekeeps_bind (submitIntent_housekeeps intent tick) fun _ => ending
  | cancel orderId => exact housekeeps_step rfl fun _ => housekeeps_step rfl fun _ => ending

end Housekeeping

end RunnerProgram

/-- Whatever is asked for besides a tick is done without asking a participant. -/
theorem served_housekeeps {settings : RunnerSettings} {state state' : RunnerState}
    {request : RunnerRequest} {program : RunnerProgram (Except RunnerError Unit)}
    (other : request ≠ .tickOnce)
    (served : state.serve settings request = some (state', program)) :
    RunnerProgram.Housekeeps program := by
  cases request with
  | tickOnce => exact absurd rfl other
  | cancelAllOpenOrders before afterwards =>
    cases served
    exact RunnerProgram.cancelAllOpenOrders_housekeeps before afterwards
  -- Only a thread of the pool takes a job.
  | runJob job =>
    simp only [RunnerState.serve] at served
    split at served
    · cases served
    · split_ifs at served
      cases served
      exact RunnerProgram.runJob_housekeeps job

end StockMarket
