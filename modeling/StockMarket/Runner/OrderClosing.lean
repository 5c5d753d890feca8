import StockMarket.Runner.HttpSlots

/-! A tracked order is closed once, as long as no second cancellation is started for it. -/

namespace StockMarket

/-- The order that a thread is about to cancel, from looking it up until the response is there. -/
def cancelsNow {α : Type} : RunnerProgram α → Option String
  | .done _ => none
  | .call op _ => op.cancels

/-- The order whose cancellation a thread has sent, without having the response yet. -/
def cancelInFlight {α : Type} : RunnerProgram α → Option String
  | .call (.cancelOrder orderId _) _ => some orderId
  | _ => none

namespace RunnerSystem

/-- A cancellation that the pool takes is for a tracked order, and it is the only one for it. -/
def startsOneCancel (system : RunnerSystem) : RunnerTurnOf → Bool
  | .begin _ _ => true
  | .resume thread nature =>
    match system.threads.get? thread with
    | some (_, .call (.handOver (.cancel orderId)) _) =>
      !nature.pool.queues || (system.store.outstandingOrders.get? orderId).isSome &&
        decide (HttpJob.cancel orderId ∉ system.store.pool) &&
        system.threads.items.all fun item => cancelsNow item.2.2 ≠ some orderId
    | _ => true

/-- Every cancellation that is started in a run is the only one for an order that is tracked. -/
def startsSingleCancels (settings : RunnerSettings) (turns : List RunnerTurnOf) : Bool :=
  Machine.throughout (Shared.total (runnerService settings)) startsOneCancel (start settings) turns

end RunnerSystem

section Steps

variable {settings : RunnerSettings} {state state' : RunnerState} {nature : RunnerNature}
  {phases : Dict Nat SlotPhase} {thread : Nat} {phase : SlotPhase}

/-- How often an order is canceled in a phase. -/
def SlotPhase.cancelCount (phase : SlotPhase) (orderId : String) : Nat :=
  if phase.cancels = some orderId then 1 else 0

/-- How often an order is tracked. -/
def RunnerState.trackedCount (state : RunnerState) (orderId : String) : Nat :=
  (state.outstandingOrders.get? orderId).isSome.toNat

/-- Who comes to cancel an order is the only one, and finds it tracked. -/
structure ClosingAgrees (state : RunnerState) (phases : Dict Nat SlotPhase) : Prop where
  counted : state.ordersCanceled + state.ordersAlreadyClosed +
    state.outstandingOrders.total (fun _ _ => 1) = state.rested
  issued : ∀ orderId, orderId ∉ state.issued → state.outstandingOrders.get? orderId = none
  single : ∀ orderId, phases.total (fun _ phase => phase.cancelCount orderId) +
    state.pool.count (.cancel orderId) ≤ state.trackedCount orderId

/-- What a state knows about orders and their cancellation. -/
def RunnerState.orders (state : RunnerState) :
    Dict String TrackedOrder × Nat × Nat × Nat × List String × List HttpJob :=
  (state.outstandingOrders, state.ordersCanceled, state.ordersAlreadyClosed, state.rested,
    state.issued, state.pool)

/-- The operations that submit, cancel, or hand over. -/
def RunnerOp.movesOrders : RunnerOp → Bool
  | .submitOrder _ | .cancelOrder _ _ | .handOver _ => true
  | _ => false

/-- An error that ends a submission concerns no order. -/
theorem abandon_orders (intent : OrderIntent) (submitted : Option Bool) :
    (state.abandon intent submitted).orders = state.orders := by
  cases submitted <;> rfl

/-- A job that is queued changes nothing about the orders but the pool. -/
theorem enqueue_orders (job : HttpJob) (answer : PoolAnswer) :
    (state.enqueue job answer).orders = { state with pool := state.pool ++ [job] }.orders := by
  cases job <;> rfl

/-- All other operations leave the orders alone. -/
theorem exec_orders_same {op : RunnerOp} {reply : op.Reply} (unmoved : op.movesOrders = false)
    (executed : state.exec settings nature op = some (state', reply)) :
    state'.orders = state.orders := by
  cases op with
  | submitOrder _ | cancelOrder _ _ | handOver _ => cases unmoved
  | fetchBook symbol =>
    simp only [RunnerState.exec] at executed
    split at executed <;> cases executed <;> rfl
  -- A permit is no order, whether it is got or not.
  | acquire blocking =>
    simp only [RunnerState.exec] at executed
    split_ifs at executed <;> cases executed <;> rfl
  | nextTick | expiredIds | outstandingIds | isIdle | cursor | setCursor _ | hasFreeSlot
  | nextIntents _ _ _ | trackedSymbol _ | release | countPending | uncountPending
  | afterSubmit _ _ _ =>
    cases executed
    rfl

/-- The order that a thread cancels stays the same until the response is there. -/
theorem next_cancels {op : RunnerOp} (allowed : phase.allows op = true)
    (waiting : ∀ orderId symbol, op ≠ .cancelOrder orderId symbol) (reply : op.Reply) :
    (phase.next op reply).cancels = phase.cancels := by
  -- An allowed operation that is no cancellation moves on without another order.
  cases phase <;> cases op <;> first
    | rfl
    | exact absurd allowed Bool.false_ne_true
    | exact absurd rfl (waiting _ _)
    | (cases reply <;> rfl)

/-- The agreement concerns nothing but the orders, and what the phases cancel. -/
theorem ClosingAgrees.transfer {phases' : Dict Nat SlotPhase} (agrees : ClosingAgrees state phases)
    (orders : state'.orders = state.orders)
    (cancels : ∀ orderId, phases'.total (fun _ phase => phase.cancelCount orderId) =
      phases.total fun _ phase => phase.cancelCount orderId) :
    ClosingAgrees state' phases' := by
  -- The counters are those of the orders alone, which have not changed.
  obtain ⟨counted, issued, single⟩ := agrees
  simp only [RunnerState.orders, Prod.mk.injEq] at orders
  obtain ⟨tracked, canceled, closed, rested, names, pool⟩ := orders
  refine ⟨?_, ?_, fun orderId => ?_⟩
  · rw [tracked, canceled, closed, rested]
    exact counted
  · rw [tracked, names]
    exact issued
  · rw [cancels, RunnerState.trackedCount, tracked, pool]
    exact single orderId

/-- A thread moves to another phase that cancels the same order. -/
theorem total_same_cancels (found : phases.get? thread = some phase) {later : SlotPhase}
    (same : later.cancels = phase.cancels) (orderId : String) :
    (phases.set thread later).total (fun _ phase => phase.cancelCount orderId) =
      phases.total fun _ phase => phase.cancelCount orderId := by
  have replaced := Dict.total_replace found later fun _ phase => phase.cancelCount orderId
  -- A phase counts for the order that it cancels, and for no other.
  have weighs : later.cancelCount orderId = phase.cancelCount orderId := by
    rw [SlotPhase.cancelCount, same]
    rfl
  rw [weighs] at replaced
  exact Nat.add_right_cancel replaced

/-- Tracking a new order keeps everything in agreement. -/
theorem ClosingAgrees.submit (agrees : ClosingAgrees state phases) (intent : OrderIntent)
    (nowMs : Int) (result : CallResult SubmittedOrder) :
    ClosingAgrees (state.recordSubmit intent nowMs result) phases := by
  obtain ⟨counted, issued, single⟩ := agrees
  cases result with
  | raised => exact ⟨counted, issued, single⟩
  | backendError => exact ⟨counted, issued, single⟩
  | ok order =>
    simp only [RunnerState.recordSubmit]
    split_ifs with again filled
    · -- An order that was seen before is not tracked again.
      exact ⟨counted, issued, single⟩
    · -- An order that was filled at once is seen, but not tracked.
      refine ⟨counted, fun orderId unissued => issued orderId fun known => ?_, single⟩
      exact unissued (List.mem_cons_of_mem _ known)
    · -- The exchange has not given this identifier before.
      have fresh := issued order.orderId again
      refine ⟨?_, fun orderId unissued => ?_, fun orderId => ?_⟩
      · simp only [Dict.total_set_new fresh]
        omega
      · rw [List.mem_cons, not_or] at unissued
        rw [Dict.get?_set, if_neg unissued.1]
        exact issued orderId unissued.2
      · -- Nobody was canceling the order, since it was not tracked.
        refine (single orderId).trans ?_
        simp only [RunnerState.trackedCount, Dict.get?_set]
        split_ifs with same
        · rw [same, fresh]
          exact Nat.zero_le _
        · exact Nat.le_refl _

/-- The response to the only cancellation of a tracked order closes it. -/
theorem ClosingAgrees.cancel (agrees : ClosingAgrees state phases) {orderId : String}
    (found : phases.get? thread = some (.canceling orderId))
    (result : CallResult CancellationResult) :
    ClosingAgrees (state.recordCancel orderId result) (phases.set thread .working) := by
  obtain ⟨counted, issued, single⟩ := agrees
  -- The thread no longer counts for the order that it has canceled.
  have replaced : ∀ other, (phases.set thread .working).total
      (fun _ phase => phase.cancelCount other) + (if orderId = other then 1 else 0) =
        phases.total fun _ phase => phase.cancelCount other := fun other => by
    have moved := Dict.total_replace found .working fun _ phase => phase.cancelCount other
    simp only [SlotPhase.cancelCount, SlotPhase.cancels, Option.some.injEq, reduceCtorEq,
      if_false] at moved ⊢
    omega
  have less : ∀ other, (phases.set thread .working).total (fun _ phase => phase.cancelCount other) +
      state.pool.count (.cancel other) ≤ state.trackedCount other := fun other => by
    have before := single other
    have moved := replaced other
    omega
  -- The thread was canceling the order, so the order must be tracked.
  have closing : state.outstandingOrders.total (fun _ _ => 1) =
      1 + (state.outstandingOrders.erase orderId).total (fun _ _ => 1) := by
    have before := single orderId
    have moved := replaced orderId
    rw [if_pos rfl] at moved
    cases tracked : state.outstandingOrders.get? orderId with
    | none =>
      rw [RunnerState.trackedCount, tracked] at before
      simp only [Option.isSome_none, Bool.toNat_false] at before
      omega
    | some order => exact Dict.total_eq tracked _
  -- The order is no longer tracked, and nobody else was canceling it.
  have erased : ∀ other, (phases.set thread .working).total
      (fun _ phase => phase.cancelCount other) + state.pool.count (.cancel other) ≤
        (((state.outstandingOrders.erase orderId).get? other).isSome).toNat := fun other => by
    have before := single other
    have moved := replaced other
    rw [Dict.get?_erase]
    split_ifs with same
    · rw [if_pos same.symm] at moved
      have bound : state.trackedCount other ≤ 1 := Bool.toNat_le _
      simp only [Option.isSome_none, Bool.toNat_false]
      omega
    · exact less other
  -- An order that was not issued is not tracked, with or without this one.
  have forgotten : ∀ other, other ∉ state.issued →
      (state.outstandingOrders.erase orderId).get? other = none := fun other unissued => by
    rw [Dict.get?_erase, issued other unissued, ite_self]
  match result with
  -- Without a response the order stays tracked.
  | .raised => exact ⟨counted, issued, less⟩
  | .backendError => exact ⟨counted, issued, less⟩
  | .ok .alreadyClosed =>
    refine ⟨?_, forgotten, erased⟩
    simp only [RunnerState.recordCancel]
    omega
  | .ok .canceled =>
    refine ⟨?_, forgotten, erased⟩
    simp only [RunnerState.recordCancel]
    omega

/-- A job that is handed over is the only one to cancel its order. -/
theorem ClosingAgrees.handOver (agrees : ClosingAgrees state phases) (job : HttpJob)
    (single : ∀ orderId, job = .cancel orderId → state.trackedCount orderId = 1 ∧
      state.pool.count (.cancel orderId) = 0 ∧
      phases.total (fun _ phase => phase.cancelCount orderId) = 0) :
    ClosingAgrees { state with pool := state.pool ++ [job] } phases := by
  refine ⟨agrees.counted, agrees.issued, fun orderId => ?_⟩
  simp only [List.count_append, List.count_singleton, beq_iff_eq]
  split_ifs with same
  · -- The new job is the only one for its order.
    obtain ⟨tracked, waiting, canceling⟩ := single orderId same
    rw [waiting, canceling]
    exact tracked.ge
  · exact agrees.single orderId

/-- A worker goes on with the cancellation that it takes out of the pool. -/
theorem ClosingAgrees.job (agrees : ClosingAgrees state phases) (free : phases.get? thread = none)
    {job : HttpJob} {later : List HttpJob} (waiting : state.pool = job :: later) :
    ClosingAgrees { state with pool := later } (phases.set thread job.phase) := by
  refine ⟨agrees.counted, agrees.issued, fun orderId => ?_⟩
  have before := agrees.single orderId
  rw [waiting, List.count_cons] at before
  -- The job counts in the pool until its thread goes on with it.
  have weighs : job.phase.cancelCount orderId = if job == .cancel orderId then 1 else 0 := by
    cases job with
    | submit intent tick => rfl
    | cancel other =>
      simp only [HttpJob.phase, SlotPhase.cancelCount, SlotPhase.cancels, Option.some.injEq,
        beq_iff_eq, HttpJob.cancel.injEq]
  rw [Dict.total_set_new free, weighs]
  show _ ≤ state.trackedCount orderId
  simp only
  omega

/-- A thread that cancels nothing may come in. -/
theorem ClosingAgrees.set_free (agrees : ClosingAgrees state phases)
    (free : phases.get? thread = none) : ClosingAgrees state (phases.set thread .free) :=
  agrees.transfer rfl fun _ => Dict.total_set_new free _

/-- A thread that cancels nothing may go. -/
theorem ClosingAgrees.erase (agrees : ClosingAgrees state phases)
    (found : phases.get? thread = some phase) {request : RunnerRequest}
    {answer : Except RunnerError Unit} (ended : Finished request phase answer) :
    ClosingAgrees state (phases.erase thread) := by
  refine agrees.transfer rfl fun orderId => ?_
  -- A thread that has finished cancels nothing.
  have nothing : phase.cancelCount orderId = 0 := by cases request <;> (cases ended; rfl)
  rw [Dict.total_eq found, nothing, Nat.zero_add]

/-- An operation keeps the agreement, as far as it does not start a second cancellation. -/
theorem ClosingAgrees.exec (agrees : ClosingAgrees state phases)
    (found : phases.get? thread = some phase) {op : RunnerOp} {reply : op.Reply}
    (allowed : phase.allows op = true)
    (executed : state.exec settings nature op = some (state', reply))
    (single : ∀ orderId, op = .handOver (.cancel orderId) → nature.pool.queues = true →
      state.trackedCount orderId = 1 ∧ state.pool.count (.cancel orderId) = 0 ∧
      phases.total (fun _ phase => phase.cancelCount orderId) = 0) :
    ClosingAgrees state' (phases.set thread (phase.next op reply)) := by
  cases unmoved : op.movesOrders with
  | false =>
    -- An operation that moves no orders keeps the order that its thread cancels.
    refine agrees.transfer (exec_orders_same unmoved executed) (total_same_cancels found ?_)
    exact next_cancels allowed (fun _ _ same => by rw [same] at unmoved; cases unmoved) reply
  | true =>
    cases op with
    | submitOrder intent =>
      cases executed
      refine (agrees.submit intent nature.nowMs nature.submitted).transfer (abandon_orders _ _) ?_
      exact total_same_cancels found (next_cancels allowed (fun _ _ => nofun) _)
    | cancelOrder orderId symbol =>
      cases executed
      cases phase with
      -- Only a thread that cancels an order may wait for the response.
      | canceling canceled =>
        cases of_decide_eq_true allowed
        exact agrees.cancel found nature.canceled
      | _ => exact absurd allowed Bool.false_ne_true
    | handOver job =>
      have same := total_same_cancels found (next_cancels allowed (fun _ _ => nofun) reply)
      simp only [RunnerState.exec] at executed
      split_ifs at executed with accepted
      · -- The pool takes the job, which is the only one for its order.
        cases executed
        refine (agrees.handOver job fun orderId cancels => ?_).transfer (enqueue_orders _ _) same
        exact single orderId (cancels ▸ rfl) accepted
      · -- The pool does not queue the job, which is given up.
        cases executed
        exact agrees.transfer rfl same
    | _ => cases unmoved

end Steps

namespace RunnerSystem

section Turns

variable {settings : RunnerSettings} {system : RunnerSystem} {phases : Dict Nat SlotPhase}

/-- What a thread is about to do tells which order it cancels. -/
theorem cancelsNow_eq {request : RunnerRequest} {program : RunnerProgram (Except RunnerError Unit)}
    {phase : SlotPhase} (kept : program.Keeps slotProtocol (Finished request) phase) :
    cancelsNow program = phase.cancels := by
  cases kept with
  | done ended => cases request <;> (cases ended; rfl)
  | @call _ op _ allowed _ =>
    -- The only operation that cancels is allowed in one phase, which names the order.
    cases phase <;> cases op <;> first
      | rfl
      | exact absurd allowed Bool.false_ne_true
      | exact congrArg some (of_decide_eq_true allowed).symm

/-- When no thread comes to cancel an order, no phase does. -/
theorem cancelCount_eq_zero (phased : system.Phased slotProtocol Finished phases)
    {orderId : String} (none_cancels : ∀ item ∈ system.threads.items,
      cancelsNow item.2.2 ≠ some orderId) :
    phases.total (fun _ phase => phase.cancelCount orderId) = 0 := by
  -- The threads and their phases are counted alike.
  have same : system.threads.total (fun _ entry =>
      if cancelsNow entry.2 = some orderId then 1 else 0) =
        phases.total fun _ phase => phase.cancelCount orderId := by
    refine Dict.total_eq_total fun thread => ?_
    cases found : system.threads.get? thread with
    | none =>
      rw [phased.free found]
      rfl
    | some entry =>
      obtain ⟨phase, at_phase, kept⟩ := phased.find found
      rw [at_phase]
      simp only [Option.map_some, Option.getD_some, cancelsNow_eq kept, SlotPhase.cancelCount]
  rw [← same]
  exact Dict.total_eq_zero fun item member => if_neg (none_cancels item member)

/-- Every turn that starts no second cancellation keeps the agreement. -/
theorem closing_step (phased : system.Phased slotProtocol Finished phases)
    (agrees : ClosingAgrees system.store phases) (turn : RunnerTurnOf)
    (single : system.startsOneCancel turn = true) :
    ∃ phases', (system.step (runnerService settings) turn).1.Phased slotProtocol Finished phases' ∧
      ClosingAgrees (system.step (runnerService settings) turn).1.store phases' := by
  refine (phased.step turn ClosingAgrees agrees ?_ ?_ ?_).imp
    fun phases' held => ⟨held.1, held.2.1⟩
  · -- A new thread cancels nothing yet, or goes on with a job of the pool.
    intro thread request store program _ free admitted
    cases request with
    | tickOnce =>
      cases admitted
      exact ⟨.free, RunnerProgram.tickOnce_takes settings, agrees.set_free free⟩
    | cancelAllOpenOrders before afterwards =>
      cases admitted
      exact ⟨.free, RunnerProgram.cancelAllOpenOrders_takes before afterwards,
        agrees.set_free free⟩
    | runJob job =>
      obtain ⟨later, waiting, rfl, rfl⟩ := admit_job settings admitted
      exact ⟨job.phase, RunnerProgram.runJob_takes job, agrees.job free waiting⟩
  · intro thread nature request op next store reply phase turned running found allowed executed
    refine ⟨phase.next op reply, rfl, agrees.exec found allowed executed ?_⟩
    rintro orderId rfl accepted
    -- The turn's condition speaks about the threads, the agreement about their phases.
    rw [turned] at single
    simp only [startsOneCancel, running, accepted, Bool.not_true, Bool.false_or,
      Bool.and_eq_true, decide_eq_true_eq, List.all_eq_true] at single
    obtain ⟨⟨tracked, waiting⟩, others⟩ := single
    refine ⟨?_, List.count_eq_zero.mpr waiting, cancelCount_eq_zero phased others⟩
    rw [RunnerState.trackedCount, tracked]
    rfl
  · intro thread request phase answer found ended
    exact agrees.erase found ended

/-- In every run without second cancellations the agreement is kept. -/
theorem closing_run (turns : List RunnerTurnOf) : ∀ {system : RunnerSystem}
    {phases : Dict Nat SlotPhase}, system.Phased slotProtocol Finished phases →
      ClosingAgrees system.store phases →
      Machine.throughout (Shared.total (runnerService settings)) startsOneCancel system turns =
        true →
        ∃ phases',
          (Machine.runTotal (Shared.step (runnerService settings)) system turns).1.Phased
            slotProtocol Finished phases' ∧
          ClosingAgrees
            (Machine.runTotal (Shared.step (runnerService settings)) system turns).1.store
            phases' := by
  induction turns with
  | nil => exact fun phased agrees _ => ⟨_, phased, agrees⟩
  | cons turn later ih =>
    intro system phases phased agrees throughout
    rw [Machine.throughout_cons rfl] at throughout
    -- The turn keeps the agreement for those that follow.
    obtain ⟨phases', phased', agrees'⟩ := closing_step phased agrees turn throughout.1
    exact ih phased' agrees' throughout.2

/-- Two threads that cancel the same order are one. -/
theorem one_canceling (phased : system.Phased slotProtocol Finished phases)
    (agrees : ClosingAgrees system.store phases) {thread other : Nat}
    {entry entry' : RunnerRequest × RunnerProgram (Except RunnerError Unit)}
    (found : system.threads.get? thread = some entry)
    (found' : system.threads.get? other = some entry') {orderId : String}
    (cancels : cancelsNow entry.2 = some orderId) (cancels' : cancelsNow entry'.2 = some orderId) :
    thread = other := by
  by_contra differs
  -- Both threads would count for the order, which is tracked once at most.
  obtain ⟨phase, at_phase, kept⟩ := phased.find found
  obtain ⟨phase', at_phase', kept'⟩ := phased.find found'
  rw [cancelsNow_eq kept] at cancels
  rw [cancelsNow_eq kept'] at cancels'
  have remains : (phases.erase thread).get? other = some phase' := by
    rw [Dict.get?_erase, if_neg (Ne.symm differs), at_phase']
  have split := Dict.total_eq at_phase fun _ phase => phase.cancelCount orderId
  have another := Dict.weight_le_total remains fun _ phase => phase.cancelCount orderId
  have bound : system.store.trackedCount orderId ≤ 1 := Bool.toNat_le _
  have single := agrees.single orderId
  have counts : phase.cancelCount orderId = 1 ∧ phase'.cancelCount orderId = 1 :=
    ⟨if_pos cancels, if_pos cancels'⟩
  omega

end Turns

/--
While every cancellation that is started is the only one for a tracked order, closing counts once.

Every order that came to rest is either canceled, found closed, or still tracked, and no order
has two cancellations in flight.
-/
theorem orders_closed_once (settings : RunnerSettings) (turns : List RunnerTurnOf)
    (single : startsSingleCancels settings turns = true) :
    (reached settings turns).store.ordersCanceled +
        (reached settings turns).store.ordersAlreadyClosed +
        (reached settings turns).store.outstandingOrders.items.length =
      (reached settings turns).store.rested ∧
    ∀ thread other entry entry' orderId,
      (reached settings turns).threads.get? thread = some entry →
      (reached settings turns).threads.get? other = some entry' →
      cancelInFlight entry.2 = some orderId → cancelInFlight entry'.2 = some orderId →
        thread = other := by
  -- Before the first turn nothing is tracked, waiting, or canceled.
  have fresh : (RunnerSystem.start settings).Phased slotProtocol Finished .empty := fun _ => rfl
  obtain ⟨phases, phased, agrees⟩ :=
    closing_run turns fresh ⟨rfl, fun _ _ => rfl, fun _ => Nat.zero_le _⟩ single
  change (reached settings turns).Phased slotProtocol Finished phases at phased
  change ClosingAgrees (reached settings turns).store phases at agrees
  refine ⟨?_, ?_⟩
  · rw [Dict.items_length]
    exact agrees.counted
  · intro thread other entry entry' orderId found found' sent sent'
    -- A cancellation in flight is one that its thread is about.
    have waits : ∀ {program : RunnerProgram (Except RunnerError Unit)},
        cancelInFlight program = some orderId → cancelsNow program = some orderId := by
      intro program sent
      unfold cancelInFlight at sent
      split at sent
      · exact sent
      · cases sent
    exact one_canceling phased agrees found found' (waits sent) (waits sent')

/-- A runner with one participant and two slots. -/
def twoSlots : RunnerSettings := ⟨["005930"], 2, by decide⟩

/-- The participant intends to sell one share, for one second at most. -/
def sellingNature : RunnerNature :=
  { quietNature with intents := [⟨"seller", "005930", .sell, 70000, 1, some 1⟩] }

/-- Two seconds later nobody intends anything. -/
def laterNature (result : CancellationResult) : RunnerNature :=
  { quietNature with nowMs := 2000, canceled := .ok result }

/-- A tick submits an order, and the next one hands its cancellation over to the other worker. -/
def expiringTurns : List RunnerTurnOf :=
  .begin 0 .tickOnce :: List.replicate 12 (.resume 0 sellingNature) ++
    .begin 1 (.runJob (.submit ⟨"seller", "005930", .sell, 70000, 1, some 1⟩ 1)) ::
      List.replicate 5 (.resume 1 quietNature) ++
    .begin 0 .tickOnce :: List.replicate 14 (.resume 0 (laterNature .canceled))

/-- The cancellation is sent and answered. -/
def cancelingTurns : List RunnerTurnOf :=
  .begin 1 (.runJob (.cancel "order")) :: List.replicate 5 (.resume 1 (laterNature .canceled))

/-- With one cancellation for the order, it is counted once. -/
theorem orders_closed_once_expired :
    (reached twoSlots (expiringTurns ++ cancelingTurns)).store.ordersCanceled = 1 ∧
    (reached twoSlots (expiringTurns ++ cancelingTurns)).store.ordersCanceled +
        (reached twoSlots (expiringTurns ++ cancelingTurns)).store.ordersAlreadyClosed +
        (reached twoSlots (expiringTurns ++ cancelingTurns)).store.outstandingOrders.items.length =
      (reached twoSlots (expiringTurns ++ cancelingTurns)).store.rested :=
  ⟨by decide +kernel, (orders_closed_once twoSlots _ (by decide +kernel)).1⟩

/-- While the response is still out, another tick has the same order canceled a second time. -/
def secondCancelTurns : List RunnerTurnOf :=
  expiringTurns ++ .begin 1 (.runJob (.cancel "order")) :: .resume 1 (laterNature .canceled) ::
    .begin 0 .tickOnce :: List.replicate 14 (.resume 0 (laterNature .canceled)) ++
    [.begin 2 (.runJob (.cancel "order")), .resume 2 (laterNature .alreadyClosed)]

/-- Both cancellations are answered. -/
def answeredTwiceTurns : List RunnerTurnOf :=
  secondCancelTurns ++
    [.resume 1 (laterNature .canceled), .resume 2 (laterNature .alreadyClosed)]

/-- Two cancellations of one order are in flight, and it counts as canceled and as closed. -/
theorem order_closed_twice :
    ((reached twoSlots secondCancelTurns).threads.items.map fun item =>
      (item.1, cancelInFlight item.2.2)) = [(1, some "order"), (2, some "order")] ∧
    (reached twoSlots answeredTwiceTurns).store.ordersCanceled +
        (reached twoSlots answeredTwiceTurns).store.ordersAlreadyClosed +
        (reached twoSlots answeredTwiceTurns).store.outstandingOrders.items.length ≠
      (reached twoSlots answeredTwiceTurns).store.rested := by
  refine ⟨?_, ?_⟩ <;> decide +kernel

end RunnerSystem

end StockMarket
