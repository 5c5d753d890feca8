import StockMarket.Library.Program
import StockMarket.Participants.Types

/-! The runner, whose ticks hand HTTP jobs to a pool of workers that share its state. -/

namespace StockMarket

/-- What the backend says about an order it took. -/
structure SubmittedOrder where
  orderId : String
  remainingQuantity : Nat
  deriving DecidableEq

/-- What the backend says about a cancellation. -/
inductive CancellationResult where
  | canceled
  | alreadyClosed
  deriving DecidableEq

/-- An open order with the tick at which it is cancelled. -/
structure TrackedOrder where
  orderId : String
  symbol : String
  expiresAtMs : Int
  deriving DecidableEq

/-- How a call of the client ends; a backend error is handled, anything else is raised on. -/
inductive CallResult (α : Type) where
  | ok (result : α)
  | backendError
  | raised

/-- The jobs of the pool: to submit an intent of a tick, or to cancel an order. -/
inductive HttpJob where
  | submit (intent : OrderIntent) (tick : Nat)
  | cancel (orderId : String)
  deriving DecidableEq

/--
What `pool.submit` does with a job.

The pool queues a job before it starts another thread for it. When that thread cannot be started,
the call raises although the job is queued, and a thread that runs already may take it.
-/
inductive PoolAnswer where
  | taken
  | refused
  | queuedAndRaised
  deriving DecidableEq

/-- Whether the job waits in the pool afterwards. -/
def PoolAnswer.queues : PoolAnswer → Bool
  | .taken | .queuedAndRaised => true
  | .refused => false

/-- Whether the call raises. -/
def PoolAnswer.raises : PoolAnswer → Bool
  | .taken => false
  | .refused | .queuedAndRaised => true

/-- Why a tick or the final cancellation is given up. -/
inductive RunnerError where
  | poolRaised
  | stillInFlight
  deriving DecidableEq

/-- The symbols of the participants, in order, and the number of HTTP slots. -/
structure RunnerSettings where
  participants : List String
  httpConcurrency : Nat
  httpConcurrency_pos : 1 ≤ httpConcurrency

/--
What the ticks and the jobs do to what they share, each step under the lock or on the semaphore.

A call of the client and the recording of its result are one step.
-/
inductive RunnerOp where
  | nextTick
  | expiredIds
  | outstandingIds
  | isIdle
  | fetchBook (symbol : String)
  | cursor
  | setCursor (cursor : Nat)
  | hasFreeSlot
  | acquire (blocking : Bool)
  | release
  | countPending
  | uncountPending
  | handOver (job : HttpJob)
  | nextIntents (participant : Nat) (tick : Nat) (snapshot : BookSnapshot)
  | trackedSymbol (orderId : String)
  | cancelOrder (orderId symbol : String)
  | submitOrder (intent : OrderIntent)
  | afterSubmit (intent : OrderIntent) (submitted : Bool) (tick : Nat)

/-- What an operation answers; a submission that raises something else answers nothing. -/
def RunnerOp.Reply : RunnerOp → Type
  | .nextTick => Nat
  | .expiredIds => List String
  | .outstandingIds => List String
  | .isIdle => Bool
  | .fetchBook _ => Option BookSnapshot
  | .cursor => Nat
  | .setCursor _ => Unit
  | .hasFreeSlot => Bool
  | .acquire _ => Bool
  | .release => Unit
  | .countPending => Unit
  | .uncountPending => Unit
  | .handOver _ => PoolAnswer
  | .nextIntents _ _ _ => List OrderIntent
  | .trackedSymbol _ => String
  | .cancelOrder _ _ => Unit
  | .submitOrder _ => Option Bool
  | .afterSubmit _ _ _ => Unit

/-- What a thread of the runner does. -/
abbrev RunnerProgram := Program RunnerOp RunnerOp.Reply

namespace RunnerProgram

/-- Perform one operation. -/
def step (op : RunnerOp) : RunnerProgram op.Reply := Program.perform op

/-- Hand a job over; when the pool raises, the slot is given back and the error goes on. -/
def submitToPool (job : HttpJob) : RunnerProgram (Except RunnerError Unit) := do
  -- The job is counted before the pool gets it, and is not counted if that fails.
  step .countPending
  let answer : PoolAnswer ← step (.handOver job)
  if answer.raises then
    step .uncountPending
    step .release
    return .error .poolRaised
  else
    return .ok ()

/-- Start a job if there is a slot for it, or wait for one. -/
def startHttp (job : HttpJob) (blocking : Bool) : RunnerProgram (Except RunnerError Bool) := do
  let acquired : Bool ← step (.acquire blocking)
  if acquired then
    -- The permit is the job's from here on.
    match ← submitToPool job with
    | .ok () => return .ok true
    | .error error => return .error error
  else
    return .ok false

/-- Start jobs one after the other, as long as there are slots. -/
def startWhileFree : List HttpJob → RunnerProgram (Except RunnerError Unit)
  | [] => return .ok ()
  | job :: later => do
    match ← startHttp job false with
    | .ok true => startWhileFree later
    | .ok false => return .ok ()
    | .error error => return .error error

/-- Start jobs one after the other, and wait for a slot before each. -/
def startAll : List HttpJob → RunnerProgram (Except RunnerError Unit)
  | [] => return .ok ()
  | job :: later => do
    match ← startHttp job true with
    | .ok _ => startAll later
    | .error error => return .error error

/-- Start to cancel the orders whose time is over, whether or not that has been started before. -/
def expireOrders : RunnerProgram (Except RunnerError Unit) := do
  let expiredIds ← step .expiredIds
  startWhileFree (expiredIds.map HttpJob.cancel)

/-- Fetch the book of each symbol once. -/
def fetchSnapshots (snapshots : Dict String BookSnapshot) :
    List String → RunnerProgram (Dict String BookSnapshot)
  | [] => return snapshots
  | symbol :: later => do
    match ← step (.fetchBook symbol) with
    | some snapshot => fetchSnapshots (snapshots.set symbol snapshot) later
    -- A book that cannot be fetched leaves its symbol out of the tick.
    | none => fetchSnapshots snapshots later

/-- Submit the intents of one participant; the first one takes the slot that is held for it. -/
def startIntents (tick : Nat) : List OrderIntent → RunnerProgram (Except RunnerError Unit)
  | [] => do
    -- Nobody else takes the permit of a participant without intents.
    step .release
    return .ok ()
  | intent :: others => do
    match ← submitToPool (.submit intent tick) with
    | .error error => return .error error
    -- Every further intent needs a permit of its own.
    | .ok () => startWhileFree (others.map (HttpJob.submit · tick))

/-- Ask the participants at the given positions for intents, and say how many were considered. -/
def askParticipants (settings : RunnerSettings) (tick cursor : Nat)
    (snapshots : Dict String BookSnapshot) : List Nat → RunnerProgram (Except RunnerError Nat)
  | [] => return .ok 0
  | offset :: later => do
    let free : Bool ← step .hasFreeSlot
    if free then
      let index := (cursor + offset) % settings.participants.length
      -- A participant without a snapshot is passed over, but counts as considered.
      match (settings.participants[index]?).bind snapshots.get? with
      | none =>
        let considered ← askParticipants settings tick cursor snapshots later
        return considered.map (1 + ·)
      | some snapshot =>
        let acquired : Bool ← step (.acquire false)
        -- The permit is held before the participant is asked.
        if acquired then
          let intents : List OrderIntent ← step (.nextIntents index tick snapshot)
          match ← startIntents tick intents with
          | .error error => return .error error
          | .ok () =>
            let considered ← askParticipants settings tick cursor snapshots later
            return considered.map (1 + ·)
        else
          return .ok 0
    else
      return .ok 0

/-- Start to submit what the participants intend, and go on with the next participant in turn. -/
def enqueueDueIntents (settings : RunnerSettings) (tick : Nat)
    (snapshots : Dict String BookSnapshot) : RunnerProgram (Except RunnerError Unit) := do
  let count := settings.participants.length
  if count = 0 then
    return .ok ()
  else
    let cursor : Nat ← step .cursor
    match ← askParticipants settings tick cursor snapshots (List.range count) with
    | .error error => return .error error
    | .ok considered =>
      -- The next tick begins behind the last participant that was considered.
      if considered ≠ 0 then
        step (.setCursor ((cursor + considered) % count))
        return .ok ()
      else
        return .ok ()

/-- One tick; what it does for the coordinator needs neither slots nor orders. -/
def tickOnce (settings : RunnerSettings) : RunnerProgram (Except RunnerError Unit) := do
  let tick ← step .nextTick
  -- Orders that are due are canceled before new ones are submitted.
  match ← expireOrders with
  | .error error => return .error error
  | .ok () =>
    let snapshots ← fetchSnapshots .empty settings.participants.eraseDups
    enqueueDueIntents settings tick snapshots

/-- Look a number of times whether nothing is pending any more. -/
def waitForIdle : Nat → RunnerProgram (Except RunnerError Unit)
  | 0 => return .error .stillInFlight
  | looks + 1 => do
    let idle : Bool ← step .isIdle
    if idle then return .ok () else waitForIdle looks

/-- Cancel everything, with the looks that there is time for before and afterwards. -/
def cancelAllOpenOrders (before afterwards : Nat) : RunnerProgram (Except RunnerError Unit) := do
  match ← waitForIdle before with
  | .error error => return .error error
  | .ok () =>
    -- The orders are listed once the jobs before them have ended.
    let orderIds ← step .outstandingIds
    match ← startAll (orderIds.map HttpJob.cancel) with
    | .error error => return .error error
    | .ok () => waitForIdle afterwards

/-- Cancel an order by its symbol, as far as it is still tracked. -/
def cancel (orderId : String) : RunnerProgram Unit := do
  let symbol ← step (.trackedSymbol orderId)
  step (.cancelOrder orderId symbol)

/-- Submit an intent and report whether that succeeded, unless something else is raised. -/
def submitIntent (intent : OrderIntent) (tick : Nat) : RunnerProgram Unit := do
  match ← step (.submitOrder intent) with
  | some submitted => step (.afterSubmit intent submitted tick)
  | none => return ()

/-- Run a job; whatever becomes of it, its slot is given back. -/
def runJob (job : HttpJob) : RunnerProgram (Except RunnerError Unit) := do
  match job with
  | .submit intent tick => submitIntent intent tick
  | .cancel orderId => cancel orderId
  -- This is the code's `finally`, which runs for every kind of job.
  step .uncountPending
  step .release
  return .ok ()

end RunnerProgram

/--
What the runner and its jobs share.

The issued identifiers belong to the exchange. The fields behind them only watch what happens: to
the permits, to the orders that rest, and to the intents that the pool has been given.
-/
structure RunnerState where
  tick : Nat
  cursor : Nat
  permits : Nat
  pending : Int
  outstandingOrders : Dict String TrackedOrder
  ordersSubmitted : Nat
  ordersCanceled : Nat
  ordersAlreadyClosed : Nat
  requestFailures : Nat
  pool : List HttpJob
  issued : List String
  acquired : Nat
  released : Nat
  rested : Nat
  doubled : Nat
  handed : List OrderIntent
  reported : List OrderIntent
  abandoned : List OrderIntent

/-- What the clock, the exchange, the participants, and the pool come up with in one step. -/
structure RunnerNature where
  nowMs : Int
  book : Option BookSnapshot
  intents : List OrderIntent
  pool : PoolAnswer
  submitted : CallResult SubmittedOrder
  canceled : CallResult CancellationResult

namespace RunnerState

/-- A runner that has done nothing. -/
def start (settings : RunnerSettings) : RunnerState :=
  ⟨0, 0, settings.httpConcurrency, 0, .empty, 0, 0, 0, 0, [], [], 0, 0, 0, 0, [], [], []⟩

/-- Record what came of a submission; the exchange gives no identifier twice. -/
def recordSubmit (state : RunnerState) (intent : OrderIntent) (nowMs : Int) :
    CallResult SubmittedOrder → RunnerState
  | .raised => state
  | .backendError => { state with requestFailures := state.requestFailures + 1 }
  | .ok order =>
    -- An exchange does not do this; it would count as a failed request.
    if order.orderId ∈ state.issued then
      { state with requestFailures := state.requestFailures + 1 }
    else
      let state := { state with
        ordersSubmitted := state.ordersSubmitted + 1
        issued := order.orderId :: state.issued }
      if order.remainingQuantity = 0 then state
      else
        -- A lifetime of zero counts as none.
        let ttlSeconds := match intent.orderTtlSeconds with
          | none => orderTtlSecondsDefault
          | some seconds => if seconds = 0 then orderTtlSecondsDefault else seconds
        { state with
          outstandingOrders := state.outstandingOrders.set order.orderId
            ⟨order.orderId, intent.symbol, nowMs + ttlSeconds * 1000⟩
          rested := state.rested + 1 }

/-- What `_submit` answers about a submission; an error of another kind goes on from there. -/
def submitted (state : RunnerState) : CallResult SubmittedOrder → Option Bool
  | .raised => none
  | .backendError => some false
  | .ok order => some (decide (order.orderId ∉ state.issued))

/-- The pool is given a job; a call that raises nevertheless leaves its permit to two owners. -/
def enqueue (state : RunnerState) (job : HttpJob) (answer : PoolAnswer) : RunnerState :=
  let state := { state with
    pool := state.pool ++ [job]
    doubled := state.doubled + answer.raises.toNat }
  match job with
  | .submit intent _ => { state with handed := state.handed ++ [intent] }
  | .cancel _ => state

/-- Note a submission that ends with something other than an error of the backend. -/
def abandon (state : RunnerState) (intent : OrderIntent) : Option Bool → RunnerState
  | some _ => state
  | none => { state with abandoned := state.abandoned ++ [intent] }

/-- Record what came of a cancellation. -/
def recordCancel (state : RunnerState) (orderId : String) :
    CallResult CancellationResult → RunnerState
  | .raised => state
  | .backendError => { state with requestFailures := state.requestFailures + 1 }
  -- Either way the order is tracked no longer.
  | .ok .alreadyClosed => { state with
      ordersAlreadyClosed := state.ordersAlreadyClosed + 1
      outstandingOrders := state.outstandingOrders.erase orderId }
  | .ok .canceled => { state with
      ordersCanceled := state.ordersCanceled + 1
      outstandingOrders := state.outstandingOrders.erase orderId }

/-- Perform one operation; waiting for a slot is the only one that may have to wait. -/
def exec (settings : RunnerSettings) (state : RunnerState) (nature : RunnerNature) :
    (op : RunnerOp) → Option (RunnerState × op.Reply)
  | .nextTick => some ({ state with tick := state.tick + 1 }, state.tick + 1)
  | .expiredIds =>
    some (state, (state.outstandingOrders.items.filter fun item =>
      item.2.expiresAtMs ≤ nature.nowMs).map Prod.fst)
  | .outstandingIds => some (state, state.outstandingOrders.keys)
  | .isIdle => some (state, decide (state.pending = 0))
  | .fetchBook _ =>
    match nature.book with
    | some snapshot => some (state, some snapshot)
    | none => some ({ state with requestFailures := state.requestFailures + 1 }, none)
  | .cursor => some (state, state.cursor)
  | .setCursor cursor => some ({ state with cursor }, ())
  | .hasFreeSlot => some (state, decide (state.pending < settings.httpConcurrency))
  | .acquire blocking =>
    if state.permits ≠ 0 then
      some ({ state with permits := state.permits - 1, acquired := state.acquired + 1 }, true)
    -- Waiting for a permit is no step, since nothing happens until there is one.
    else if blocking then none
    else some (state, false)
  | .release =>
    some ({ state with permits := state.permits + 1, released := state.released + 1 }, ())
  | .countPending => some ({ state with pending := state.pending + 1 }, ())
  | .uncountPending => some ({ state with pending := state.pending - 1 }, ())
  | .handOver job =>
    if nature.pool.queues then some (state.enqueue job nature.pool, nature.pool)
    else some (state, nature.pool)
  | .nextIntents _ _ _ => some (state, nature.intents)
  | .trackedSymbol orderId =>
    some (state, ((state.outstandingOrders.get? orderId).map TrackedOrder.symbol).getD "")
  | .cancelOrder orderId _ => some (state.recordCancel orderId nature.canceled, ())
  | .submitOrder intent =>
    let submitted := state.submitted nature.submitted
    some ((state.recordSubmit intent nature.nowMs nature.submitted).abandon intent submitted,
      submitted)
  | .afterSubmit intent _ _ => some ({ state with reported := state.reported ++ [intent] }, ())

end RunnerState

/-- What a thread is asked for: a tick, the cancellation of everything, or the next job. -/
inductive RunnerRequest where
  | tickOnce
  | cancelAllOpenOrders (before afterwards : Nat)
  | runJob (job : HttpJob)
  deriving DecidableEq

/-- A worker takes the job that has been in the pool for longest. -/
def RunnerState.serve (settings : RunnerSettings) (state : RunnerState) :
    RunnerRequest → Option (RunnerState × RunnerProgram (Except RunnerError Unit))
  | .tickOnce => some (state, .tickOnce settings)
  | .cancelAllOpenOrders before afterwards => some (state, .cancelAllOpenOrders before afterwards)
  | .runJob job =>
    match state.pool with
    | [] => none
    -- The pool hands its jobs out in the order in which it got them.
    | next :: later => if next = job then some ({ state with pool := later }, .runJob job) else none

/-- The threads of the runner over its state. -/
def runnerService (settings : RunnerSettings) : Service RunnerOp RunnerOp.Reply
    (Except RunnerError Unit) RunnerState Nat RunnerRequest RunnerNature where
  exec := RunnerState.exec settings
  serve := fun state _ => state.serve settings

/-- The state of the runner with the work that is under way. -/
abbrev RunnerSystem :=
  Shared RunnerOp RunnerOp.Reply (Except RunnerError Unit) RunnerState Nat RunnerRequest

/-- A turn of some thread of the runner. -/
abbrev RunnerTurnOf := Turn Nat RunnerRequest RunnerNature

/-- A runner before its first tick. -/
def RunnerSystem.start (settings : RunnerSettings) : RunnerSystem :=
  ⟨RunnerState.start settings, .empty⟩

/-- The system after a number of turns. -/
def RunnerSystem.reached (settings : RunnerSettings) (turns : List RunnerTurnOf) : RunnerSystem :=
  (Machine.runTotal (Shared.step (runnerService settings)) (RunnerSystem.start settings) turns).1

end StockMarket
