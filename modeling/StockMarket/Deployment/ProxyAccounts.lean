import StockMarket.Deployment.MetricsLaws
import StockMarket.Deployment.ProxyRuns

/-! The gateway's metrics agree with what its threads have done. -/

namespace StockMarket

/-- A thread whose request has been started and not finished. -/
def Stage.isOpen : Stage → Bool
  | .handling | .asked _ | .exchanged .. | .observed _ => true
  | _ => false

/-- A thread that has not been observed to be at work. -/
def Stage.isWaiting : Stage → Bool
  | .accepted | .waiting | .handed => true
  | _ => false

/-- A thread whose request has been finished. -/
def Stage.isFinished : Stage → Bool
  | .finished _ => true
  | _ => false

/-- An exchange for a shard that has not been observed, with a certain outcome. -/
def Stage.owes (outcome : Except ExchangeFault UpstreamResponse → Bool) (label : String) :
    Stage → Bool
  | .exchanged shard reply => toString (shard : Int) = label && outcome reply
  | _ => false

/-- A failed exchange whose request has not been finished. -/
def Stage.hasFailed : Stage → Bool
  | .exchanged _ reply | .observed reply => failedBySystem reply
  | _ => false

section Calls

variable {α : Type}

namespace MetricsCall

/-- A call that starts a request. -/
def isStart (call : MetricsCall α) : Bool := call.started?.isSome

/-- A call that finishes a request. -/
def isFinish (call : MetricsCall α) : Bool := call.finished?.isSome

/-- A call that observes a waiting time. -/
def isAcceptWait (call : MetricsCall α) : Bool := call.acceptWait?.isSome

/-- A call that observes a round trip of a shard. -/
def isUpstream (label : String) (call : MetricsCall α) : Bool := (call.upstream? label).isSome

/-- A round trip to a shard that failed. -/
def isFailure (label : String) : MetricsCall α → Bool
  | .observeUpstream shard _ failed => toString shard = label && failed
  | _ => false

/-- A request that is finished with a status. -/
def finishes (status : String) : MetricsCall α → Bool
  | .requestFinished _ _ finished _ => toString finished = status
  | _ => false

end MetricsCall

end Calls

section Tables

variable {α : Type} [LinearOrder α] [Zero α] [Add α] (bounds : List α)

/-- What the metrics are after some calls. -/
def GatewayMetrics.after (calls : List (MetricsCall α)) : GatewayMetrics α :=
  calls.foldl (GatewayMetrics.apply bounds) (.new bounds)

variable {bounds}

/-- The last call is applied last. -/
theorem GatewayMetrics.after_concat (calls : List (MetricsCall α)) (call : MetricsCall α) :
    GatewayMetrics.after bounds (calls ++ [call]) =
      (GatewayMetrics.after bounds calls).apply bounds call :=
  List.foldl_concat _ _ _ _

/-- A value counted once more under a key. -/
theorem getD_countIn {κ : Type} [DecidableEq κ] (table : Dict κ Nat) (key other : κ) :
    ((GatewayMetrics.countIn table key).get? other).getD 0 =
      (table.get? other).getD 0 + if other = key then 1 else 0 := by
  -- The count of the key grows by one, or starts at one.
  rw [GatewayMetrics.countIn, Dict.get?_set]
  split
  · rename_i same
    rw [same]
    rfl
  · rfl

/-- The errors of a shard are the round trips that failed. -/
theorem errors_after (calls : List (MetricsCall α)) (label : String) :
    ((GatewayMetrics.after bounds calls).upstreamErrors.get? label).getD 0 =
      calls.countP (MetricsCall.isFailure label) := by
  -- Calls are taken off at the end, since each call follows those before it.
  induction calls using List.reverseRecOn with
  | nil => rfl
  | append_singleton calls call ih =>
    rw [GatewayMetrics.after_concat, List.countP_append, ← ih, List.countP_singleton]
    cases call with
    | observeUpstream shard seconds failed =>
      cases failed with
      | false => simp [GatewayMetrics.apply, MetricsCall.isFailure]
      | true =>
        simp only [GatewayMetrics.apply, if_true, getD_countIn, MetricsCall.isFailure,
          Bool.and_true, decide_eq_true_eq]
        by_cases same : label = toString shard
        · rw [if_pos same, if_pos same.symm]
        · rw [if_neg same, if_neg (Ne.symm same)]
    | requestStarted | requestFinished | observeAcceptWait => rfl

/-- The requests with a status are those that were finished with it. -/
theorem requests_after (calls : List (MetricsCall α)) (status : String) :
    (GatewayMetrics.after bounds calls).requests.total
        (fun key count => if decide (key.2 = status) then count else 0) =
      calls.countP (MetricsCall.finishes status) := by
  -- The induction takes the last call off, as each call follows those before it.
  induction calls using List.reverseRecOn with
  | nil => rfl
  | append_singleton calls call ih =>
    rw [GatewayMetrics.after_concat, List.countP_append, ← ih, List.countP_singleton]
    cases call with
    | requestFinished request method finished seconds =>
      exact total_countIn _ (method, toString finished) fun key => decide (key.2 = status)
    | requestStarted | observeUpstream | observeAcceptWait => rfl

/-- All requests together are those that were finished. -/
theorem allRequests_after (calls : List (MetricsCall α)) :
    (GatewayMetrics.after bounds calls).requests.total (fun _ count => count) =
      calls.countP MetricsCall.isFinish := by
  -- The induction takes the last call off, as each call follows those before it.
  induction calls using List.reverseRecOn with
  | nil => rfl
  | append_singleton calls call ih =>
    rw [GatewayMetrics.after_concat, List.countP_append, ← ih, List.countP_singleton]
    cases call with
    | requestFinished request method finished seconds =>
      exact total_countIn _ _ fun _ => true
    | requestStarted | observeUpstream | observeAcceptWait => rfl

end Tables

section Accounts

variable {α : Type}

/-- What may be added to a balance: nothing, or at least no negative number. -/
def Settles (exactly : Bool) (change : Int) : Prop :=
  0 ≤ change ∧ (exactly = true → change = 0)

/-- Nothing may always be added. -/
theorem settles_zero (exactly : Bool) : Settles exactly 0 := ⟨Int.le_refl 0, fun _ => rfl⟩

/-- What may be added one after the other may be added together. -/
theorem Settles.add {exactly : Bool} {change other : Int} (first : Settles exactly change)
    (second : Settles exactly other) : Settles exactly (change + other) := by
  refine ⟨Int.add_nonneg first.1 second.1, fun same => ?_⟩
  rw [first.2 same, second.2 same]
  rfl

/-- What is counted of connections, exchanges, calls, and threads, so that steps even it out. -/
structure Account (settings : GatewaySettings) (α : Type) where
  exactly : Bool
  connections : Connection → Bool
  exchanges : Exchange → Bool
  opens : MetricsCall α → Bool
  closes : MetricsCall α → Bool
  weight : HandlerPhase → Bool
  accepts : ∀ number connection, Settles exactly
    (((weight ⟨number, connection, .accepted⟩).toNat : Int) - (connections connection).toNat)
  notes : ∀ number connection, Settles exactly
    (((weight ⟨number, connection, .waiting⟩).toNat : Int) -
      (weight ⟨number, connection, .accepted⟩).toNat)
  takes : ∀ number connection, Settles exactly
    (((weight ⟨number, connection, .handed⟩).toNat : Int) -
      (weight ⟨number, connection, .waiting⟩).toNat)
  calls : ∀ {number connection stage} {call : MetricsCall α},
    Allowed settings number connection stage (.metrics call) →
      Settles exactly (((closes call).toNat : Int) - (opens call).toNat +
        (weight ⟨number, connection, stage.next (.metrics call) ()⟩).toNat -
          (weight ⟨number, connection, stage⟩).toNat)
  asks : ∀ number connection shard, Settles exactly
    (((weight ⟨number, connection, .asked shard⟩).toNat : Int) -
      (weight ⟨number, connection, .handling⟩).toNat)
  exchanged : ∀ number connection (exchange : Exchange) {stage : Stage},
    stage = (if isObserved exchange.reply then .exchanged exchange.shard exchange.reply
      else .observed exchange.reply) →
        Settles exactly (((weight ⟨number, connection, stage⟩).toNat : Int) -
          (weight ⟨number, connection, .asked exchange.shard⟩).toNat - (exchanges exchange).toNat)
  ends : ∀ number connection {stage : Stage} {served : Served},
    Ended settings connection stage served →
      Settles exactly (-((weight ⟨number, connection, stage⟩).toNat : Int))

/-- A single item counts for one or for nothing. -/
theorem countP_single {β : Type} (counted : β → Bool) (item : β) :
    [item].countP counted = (counted item).toNat := by
  cases given : counted item <;> simp [given]

namespace Account

variable {settings : GatewaySettings} (account : Account settings α)

/-- What is closed and what the threads still owe, less what was opened. -/
def balance (store : GatewayStore α) (phases : Dict Nat HandlerPhase) : Int :=
  store.calls.countP account.closes - store.calls.countP account.opens +
    phases.total (fun _ phase => (account.weight phase).toNat) -
      store.connections.countP account.connections - store.exchanges.countP account.exchanges

variable {store store' : GatewayStore α} {phases : Dict Nat HandlerPhase}
  {thread : Nat} {phase : HandlerPhase}

/-- A step of a thread adds to the balance what its call, its exchange, and its stage add. -/
theorem balance_step (found : phases.get? thread = some phase) {calls : List (MetricsCall α)}
    {exchanges : List (Exchange)} (later : HandlerPhase)
    (same : store'.connections = store.connections ∧ store'.calls = store.calls ++ calls ∧
      store'.exchanges = store.exchanges ++ exchanges) :
    account.balance store' (phases.set thread later) = account.balance store phases +
      ((calls.countP account.closes : Int) - calls.countP account.opens +
        (account.weight later).toNat - (account.weight phase).toNat -
          exchanges.countP account.exchanges) := by
  obtain ⟨connections, called, exchanged⟩ := same
  have moved := Dict.total_replace found later fun _ phase => (account.weight phase).toNat
  simp only [balance, connections, called, exchanged, List.countP_append, Nat.cast_add]
  omega

/-- A step that adds to a settled balance what may be added leaves it settled. -/
theorem settles_step (settled : Settles account.exactly (account.balance store phases))
    (found : phases.get? thread = some phase) {calls : List (MetricsCall α)}
    {exchanges : List (Exchange)} {later : HandlerPhase}
    (same : store'.connections = store.connections ∧ store'.calls = store.calls ++ calls ∧
      store'.exchanges = store.exchanges ++ exchanges)
    (change : Settles account.exactly
      ((calls.countP account.closes : Int) - calls.countP account.opens +
        (account.weight later).toNat - (account.weight phase).toNat -
          exchanges.countP account.exchanges)) :
    Settles account.exactly (account.balance store' (phases.set thread later)) := by
  rw [account.balance_step found later same]
  exact settled.add change

/-- A step that makes neither a call nor an exchange adds what its stage adds. -/
theorem settles_move (settled : Settles account.exactly (account.balance store phases))
    (found : phases.get? thread = some phase) {later : HandlerPhase}
    (same : store'.connections = store.connections ∧ store'.calls = store.calls ∧
      store'.exchanges = store.exchanges)
    (change : Settles account.exactly
      (((account.weight later).toNat : Int) - (account.weight phase).toNat)) :
    Settles account.exactly (account.balance store' (phases.set thread later)) := by
  -- Both lists grow by nothing, which changes no count.
  obtain ⟨connections, called, exchanged⟩ := same
  refine account.settles_step settled found
    ⟨connections, called.trans (List.append_nil _).symm,
      exchanged.trans (List.append_nil _).symm⟩ ?_
  simpa only [List.countP_nil, Nat.cast_zero, Int.sub_zero, Int.zero_add] using change

/-- The balance of a new connection. -/
theorem balance_accept (free : phases.get? thread = none) (connection : Connection) :
    account.balance { store with connections := store.connections ++ [connection] }
        (phases.set thread ⟨store.connections.length, connection, .accepted⟩) =
      account.balance store phases +
        (((account.weight ⟨store.connections.length, connection, .accepted⟩).toNat : Int) -
          (account.connections connection).toNat) := by
  -- The connection is new, and so is the thread that handles it.
  have added : (phases.set thread ⟨store.connections.length, connection, .accepted⟩).total
      (fun _ phase => (account.weight phase).toNat) =
        phases.total (fun _ phase => (account.weight phase).toNat) +
          (account.weight ⟨store.connections.length, connection, .accepted⟩).toNat :=
    Dict.total_set_new free _
  simp only [balance, List.countP_append, countP_single, Nat.cast_add]
  omega

/-- The balance when a thread ends. -/
theorem balance_end (found : phases.get? thread = some phase) :
    account.balance store (phases.erase thread) =
      account.balance store phases + -((account.weight phase).toNat : Int) := by
  have taken := Dict.total_eq found fun _ phase => (account.weight phase).toNat
  simp only [balance]
  omega

end Account

section Instances

variable (settings : GatewaySettings)

/-- Requests in flight are those that were started and not finished. -/
def openAccount : Account settings α where
  exactly := true
  connections := fun _ => false
  exchanges := fun _ => false
  opens := MetricsCall.isStart
  closes := MetricsCall.isFinish
  weight := fun phase => phase.stage.isOpen
  accepts := by simp [Settles, Stage.isOpen]
  notes := by simp [Settles, Stage.isOpen]
  takes := by simp [Settles, Stage.isOpen]
  asks := by simp [Settles, Stage.isOpen]
  calls := by
    intro number connection stage call allowed
    cases allowed <;> simp [Settles, MetricsCall.isStart, MetricsCall.isFinish,
      MetricsCall.started?, MetricsCall.finished?, Stage.isOpen, Stage.next]
  exchanged := by
    rintro number connection exchange stage rfl
    split <;> simp [Settles, Stage.isOpen]
  ends := by
    intro number connection stage served ended
    cases ended <;> simp [Settles, Stage.isOpen]

/-- Every connection is observed once when its thread is at work. -/
def waitAccount : Account settings α where
  exactly := true
  connections := fun _ => true
  exchanges := fun _ => false
  opens := fun _ => false
  closes := MetricsCall.isAcceptWait
  weight := fun phase => phase.stage.isWaiting
  accepts := by simp [Settles, Stage.isWaiting]
  notes := by simp [Settles, Stage.isWaiting]
  takes := by simp [Settles, Stage.isWaiting]
  asks := by simp [Settles, Stage.isWaiting]
  calls := by
    intro number connection stage call allowed
    cases allowed <;> simp [Settles, MetricsCall.isAcceptWait, MetricsCall.acceptWait?,
      Stage.isWaiting, Stage.next]
  exchanged := by
    rintro number connection exchange stage rfl
    split <;> simp [Settles, Stage.isWaiting]
  ends := by
    intro number connection stage served ended
    cases ended <;> simp [Settles, Stage.isWaiting]

/-- Every connection is finished once, unless it is for the gateway's own metrics. -/
def requestAccount : Account settings α where
  exactly := true
  connections := fun connection => !connection.asksGateway
  exchanges := fun _ => false
  opens := fun _ => false
  closes := MetricsCall.isFinish
  weight := fun phase => !phase.connection.asksGateway && !phase.stage.isFinished
  accepts := by simp [Settles, Stage.isFinished]
  notes := by simp [Settles, Stage.isFinished]
  takes := by simp [Settles, Stage.isFinished]
  asks := by simp [Settles, Stage.isFinished]
  calls := by
    intro number connection stage call allowed
    cases allowed <;> simp [Settles, MetricsCall.isFinish, MetricsCall.finished?, Stage.isFinished,
      Stage.next, *]
  exchanged := by
    rintro number connection exchange stage rfl
    split <;> simp [Settles, Stage.isFinished]
  ends := by
    intro number connection stage served ended
    cases ended <;> simp [Settles, Stage.isFinished, *]

/-- Every exchange for a shard is observed, unless it raised something that is not caught. -/
def upstreamAccount (label : String) : Account settings α where
  exactly := true
  connections := fun _ => false
  exchanges := fun exchange =>
    toString (exchange.shard : Int) = label && isObserved exchange.reply
  opens := fun _ => false
  closes := MetricsCall.isUpstream label
  weight := fun phase => phase.stage.owes isObserved label
  accepts := by simp [Settles, Stage.owes]
  notes := by simp [Settles, Stage.owes]
  takes := by simp [Settles, Stage.owes]
  asks := by simp [Settles, Stage.owes]
  calls := by
    intro number connection stage call allowed
    cases allowed with
    | @observeUpstream shard reply seconds seen =>
      -- The call counts for the shard whose exchange the thread has made.
      have counted : MetricsCall.isUpstream label
          (MetricsCall.observeUpstream (shard : Int) seconds (failedBySystem reply)) =
            decide (toString (shard : Int) = label) := by
        show (if toString (shard : Int) = label then some seconds else none).isSome = _
        by_cases same : toString (shard : Int) = label
        · rw [if_pos same, decide_eq_true same]
          rfl
        · rw [if_neg same, decide_eq_false same]
          rfl
      rw [counted]
      simp [Settles, Stage.owes, Stage.next, seen]
    | observeAcceptWait | requestStarted | finishEarly | finish =>
      simp [Settles, MetricsCall.isUpstream, MetricsCall.upstream?, Stage.owes, Stage.next]
  exchanged := by
    rintro number connection exchange stage rfl
    split <;> simp [Settles, Stage.owes, *]
  ends := by
    intro number connection stage served ended
    cases ended <;> simp [Settles, Stage.owes]

/-- Every exchange for a shard that failed is observed as a failure. -/
def errorAccount (label : String) : Account settings α where
  exactly := true
  connections := fun _ => false
  exchanges := fun exchange =>
    toString (exchange.shard : Int) = label && failedBySystem exchange.reply
  opens := fun _ => false
  closes := MetricsCall.isFailure label
  weight := fun phase => phase.stage.owes failedBySystem label
  accepts := by simp [Settles, Stage.owes]
  notes := by simp [Settles, Stage.owes]
  takes := by simp [Settles, Stage.owes]
  asks := by simp [Settles, Stage.owes]
  calls := by
    intro number connection stage call allowed
    cases allowed <;> simp [Settles, MetricsCall.isFailure, Stage.owes, Stage.next]
  exchanged := by
    rintro number connection exchange stage rfl
    -- What is not observed has not failed with an error of the system.
    have unseen : isObserved exchange.reply = false → failedBySystem exchange.reply = false := by
      cases exchange.reply with
      | ok response => exact fun _ => rfl
      | error fault =>
        cases fault with
        | osError => exact nofun
        | other => exact fun _ => rfl
    split
    · simp [Settles, Stage.owes]
    · rename_i other
      simp [Settles, Stage.owes, unseen (Bool.not_eq_true _ ▸ other)]
  ends := by
    intro number connection stage served ended
    cases ended <;> simp [Settles, Stage.owes]

/-- A request whose exchange failed is finished as unavailable; others may be as well. -/
def unavailableAccount : Account settings α where
  exactly := false
  connections := fun _ => false
  exchanges := fun exchange => failedBySystem exchange.reply
  opens := fun _ => false
  closes := MetricsCall.finishes "502"
  weight := fun phase => phase.stage.hasFailed
  accepts := by simp [Settles, Stage.hasFailed]
  notes := by simp [Settles, Stage.hasFailed]
  takes := by simp [Settles, Stage.hasFailed]
  asks := by simp [Settles, Stage.hasFailed]
  calls := by
    intro number connection stage call allowed
    cases allowed with
    | @finish reply status seconds other unavailable =>
      cases failed : failedBySystem reply with
      | false => simp [Settles, Stage.hasFailed, Stage.next, failed]
      | true =>
        rw [unavailable failed]
        have named : MetricsCall.finishes "502"
            (MetricsCall.requestFinished number connection.method ((502 : Nat) : Int) seconds) =
              true := by
          show decide (toString ((502 : Nat) : Int) = "502") = true
          decide
        rw [named]
        simp [Settles, Stage.hasFailed, Stage.next, failed]
    | observeAcceptWait | requestStarted | observeUpstream | finishEarly =>
      simp [Settles, Stage.hasFailed, Stage.next]
  exchanged := by
    rintro number connection exchange stage rfl
    split <;> simp [Settles, Stage.hasFailed]
  ends := by
    intro number connection stage served ended
    cases ended <;> simp [Settles, Stage.hasFailed]

end Instances

section History

variable {α : Type}

/-- A thread whose request has been started. -/
def Stage.isStarted : Stage → Bool
  | .handling | .asked _ | .exchanged .. | .observed _ | .finished _ => true
  | _ => false

/-- A thread whose acceptance is noted and not yet taken back. -/
def Stage.isNoted : Stage → Bool
  | .waiting => true
  | _ => false

/-- A request whose exchange was made has been started and not finished. -/
theorem response_marks (stage : Stage) (number shard : Nat)
    (reply : Except ExchangeFault UpstreamResponse) :
    (stage.next (α := α) (.response number shard) reply).isStarted = true ∧
      (stage.next (α := α) (.response number shard) reply).isFinished = false ∧
      (stage.next (α := α) (.response number shard) reply).isNoted = false := by
  simp only [Stage.next]
  split <;> exact ⟨rfl, rfl, rfl⟩

/-- The calls that were made tell how far a thread has come. -/
def HandlerPhase.Reported (phase : HandlerPhase) (calls : List (MetricsCall α)) : Prop :=
  (phase.number ∈ calls.filterMap MetricsCall.started? ↔ phase.stage.isStarted = true) ∧
    (phase.number ∈ calls.filterMap MetricsCall.finished? ↔ phase.stage.isFinished = true)

/-- The calls are in order, for accepted connections, and as the threads have made them. -/
structure HistoryAgrees (connections : List Connection) (calls : List (MetricsCall α))
    (phases : Dict Nat HandlerPhase) : Prop where
  proper : ProperCalls calls
  accepted : ∀ number ∈ calls.filterMap MetricsCall.started?, number < connections.length
  reported : ∀ thread phase, phases.get? thread = some phase → phase.Reported calls

/-- A call that starts a new request, or finishes one under way, keeps the calls in order. -/
theorem ProperCalls.concat {calls : List (MetricsCall α)} (proper : ProperCalls calls)
    {call : MetricsCall α}
    (starts : ∀ number, call.started? = some number →
      number ∉ calls.filterMap MetricsCall.started?)
    (finishes : ∀ number, call.finished? = some number →
      number ∈ calls.filterMap MetricsCall.started? ∧
        number ∉ calls.filterMap MetricsCall.finished?) : ProperCalls (calls ++ [call]) := by
  -- The last call starts or finishes nothing that was started or finished before.
  refine ⟨?_, ?_, fun first before => ?_⟩
  · rw [filterMap_concat]
    cases started : call.started? with
    | none => simpa using proper.startedOnce
    | some number =>
      rw [Option.toList_some, ← List.concat_eq_append]
      exact (List.nodup_concat _ _).mpr ⟨starts number started, proper.startedOnce⟩
  · rw [filterMap_concat]
    cases finished : call.finished? with
    | none => simpa using proper.finishedOnce
    | some number =>
      rw [Option.toList_some, ← List.concat_eq_append]
      exact (List.nodup_concat _ _).mpr ⟨(finishes number finished).2, proper.finishedOnce⟩
  · -- A prefix lacks the last call, or it is all of them.
    rcases List.prefix_concat_iff.mp before with rfl | earlier
    · intro number member
      rw [filterMap_concat, List.mem_append, Option.mem_toList] at member ⊢
      rcases member with past | last
      · exact .inl (proper.ordered calls List.prefix_rfl past)
      · exact .inl (finishes number last).1
    · exact proper.ordered first earlier

variable {settings : GatewaySettings} {number : Nat} {connection : Connection} {stage : Stage}
  {call : MetricsCall α}

/-- A call that a stage allows starts or finishes the thread's own request, when it is time to. -/
theorem Allowed.own (allowed : Allowed settings number connection stage (.metrics call)) :
    (∀ other, call.started? = some other → other = number ∧ stage.isStarted = false) ∧
      (∀ other, call.finished? = some other →
        other = number ∧ stage.isStarted = true ∧ stage.isFinished = false) := by
  cases allowed <;> simp [MetricsCall.started?, MetricsCall.finished?, Stage.isStarted,
    Stage.isFinished, eq_comm]

/-- The stage after a call tells what the call has started or finished. -/
theorem Allowed.marked (allowed : Allowed settings number connection stage (.metrics call)) :
    (stage.next (.metrics call) ()).isStarted = (stage.isStarted || call.isStart) ∧
      (stage.next (.metrics call) ()).isFinished = (stage.isFinished || call.isFinish) := by
  cases allowed <;> simp [MetricsCall.isStart, MetricsCall.isFinish, MetricsCall.started?,
    MetricsCall.finished?, Stage.isStarted, Stage.isFinished, Stage.next]

variable {connections : List Connection} {calls : List (MetricsCall α)}
  {phases : Dict Nat HandlerPhase} {thread : Nat} {phase later : HandlerPhase}

/-- A step without a call keeps the history, if it starts and finishes nothing. -/
theorem HistoryAgrees.move (held : HistoryAgrees connections calls phases)
    (found : phases.get? thread = some phase)
    (same : later.number = phase.number ∧ later.stage.isStarted = phase.stage.isStarted ∧
      later.stage.isFinished = phase.stage.isFinished) :
    HistoryAgrees connections calls (phases.set thread later) := by
  -- The thread has reported what it had reported before.
  refine ⟨held.proper, held.accepted, fun other phase' there => ?_⟩
  rw [Dict.get?_set] at there
  split at there
  · cases there
    obtain ⟨number, started, finished⟩ := same
    have reported := held.reported thread phase found
    unfold HandlerPhase.Reported at reported ⊢
    rwa [number, started, finished]
  · exact held.reported other phase' there

/-- What a thread calls is in order, and the other threads have come no further by it. -/
theorem HistoryAgrees.called (held : HistoryAgrees connections calls phases)
    (found : phases.get? thread = some ⟨number, connection, stage⟩)
    (inside : number < connections.length)
    (others : ∀ other phase', other ≠ thread → phases.get? other = some phase' →
      phase'.number ≠ number)
    (allowed : Allowed settings number connection stage (.metrics call)) :
    HistoryAgrees connections (calls ++ [call])
      (phases.set thread ⟨number, connection, stage.next (.metrics call) ()⟩) := by
  obtain ⟨starts, finishes⟩ := allowed.own
  obtain ⟨started, finished⟩ := allowed.marked
  have reported := held.reported thread _ found
  refine ⟨held.proper.concat ?_ ?_, ?_, fun other phase' there => ?_⟩
  · -- What the call starts was not started before, as the thread's own stage tells.
    intro other begun
    obtain ⟨rfl, before⟩ := starts other begun
    intro again
    rw [reported.1.mp again] at before
    cases before
  · -- What it finishes is under way, and is finished for the first time.
    intro other ended
    obtain ⟨rfl, under, before⟩ := finishes other ended
    refine ⟨reported.1.mpr under, fun again => ?_⟩
    rw [reported.2.mp again] at before
    cases before
  · intro other member
    rw [filterMap_concat, List.mem_append, Option.mem_toList] at member
    rcases member with past | last
    · exact held.accepted other past
    · rw [(starts other last).1]
      exact inside
  · unfold HandlerPhase.Reported
    simp only [filterMap_concat, List.mem_append, Option.mem_toList]
    rw [Dict.get?_set] at there
    split at there
    · -- The thread's own calls are those that its stage tells of.
      cases there
      simp only [started, finished, Bool.or_eq_true, reported.1, reported.2]
      refine ⟨or_congr Iff.rfl ⟨fun last => ?_, fun begun => ?_⟩,
        or_congr Iff.rfl ⟨fun last => ?_, fun ended => ?_⟩⟩
      · exact Option.isSome_iff_exists.mpr ⟨_, last⟩
      · obtain ⟨other, last⟩ := Option.isSome_iff_exists.mp begun
        exact (starts other last).1 ▸ last
      · exact Option.isSome_iff_exists.mpr ⟨_, last⟩
      · obtain ⟨other, last⟩ := Option.isSome_iff_exists.mp ended
        exact (finishes other last).1 ▸ last
    · -- Other threads have other numbers, of which the call says nothing.
      rename_i apart
      have foreign := others other phase' apart there
      obtain ⟨before, after⟩ := held.reported other phase' there
      refine ⟨⟨fun member => ?_, fun begun => .inl (before.mpr begun)⟩,
        ⟨fun member => ?_, fun ended => .inl (after.mpr ended)⟩⟩
      · exact member.elim before.mp fun last => absurd (starts _ last).1 foreign
      · exact member.elim after.mp fun last => absurd (finishes _ last).1 foreign

/-- A new connection is one that no call was about. -/
theorem HistoryAgrees.accept (held : HistoryAgrees connections calls phases)
    (connection : Connection) :
    HistoryAgrees (connections ++ [connection]) calls
      (phases.set thread ⟨connections.length, connection, .accepted⟩) := by
  -- A new connection has the next number, under which nothing was called yet.
  refine ⟨held.proper, fun number member => ?_, fun other phase' there => ?_⟩
  · have before := held.accepted number member
    rw [List.length_append]
    omega
  · rw [Dict.get?_set] at there
    split at there
    · cases there
      have fresh : connections.length ∉ calls.filterMap MetricsCall.started? := fun member =>
        Nat.lt_irrefl _ (held.accepted _ member)
      have unended : connections.length ∉ calls.filterMap MetricsCall.finished? := fun member =>
        fresh (held.proper.ordered calls List.prefix_rfl member)
      exact ⟨iff_of_false fresh nofun, iff_of_false unended nofun⟩
    · exact held.reported other phase' there

/-- The history outlasts a thread. -/
theorem HistoryAgrees.erase (held : HistoryAgrees connections calls phases) (thread : Nat) :
    HistoryAgrees connections calls (phases.erase thread) := by
  -- The history says nothing about a thread that has ended.
  refine ⟨held.proper, held.accepted, fun other phase' there => ?_⟩
  rw [Dict.get?_erase] at there
  split at there
  · cases there
  · exact held.reported other phase' there

end History

section Waiting

variable {α : Type} {acceptedAt : Dict Nat α} {phases : Dict Nat HandlerPhase} {thread : Nat}
  {phase later : HandlerPhase}

/-- Times of acceptance are noted for the threads that have not taken them back, and no others. -/
structure WaitingAgrees (acceptedAt : Dict Nat α) (phases : Dict Nat HandlerPhase) : Prop where
  noted : ∀ thread phase, phases.get? thread = some phase → phase.stage.isNoted = true →
    ∃ time, acceptedAt.get? phase.number = some time
  waits : ∀ number time, acceptedAt.get? number = some time → ∃ thread phase,
    phases.get? thread = some phase ∧ phase.number = number ∧ phase.stage.isNoted = true

/-- Threads in different phases are different. -/
theorem ne_of_phase_ne (found : phases.get? thread = some phase) {other : Nat}
    {phase' : HandlerPhase} (there : phases.get? other = some phase') (differs : phase' ≠ phase) :
    other ≠ thread := by
  rintro rfl
  exact differs (Option.some.inj (there.symm.trans found))

/-- A step that notes nothing and takes nothing back. -/
theorem WaitingAgrees.move (held : WaitingAgrees acceptedAt phases)
    (found : phases.get? thread = some phase)
    (same : later.number = phase.number ∧ later.stage.isNoted = phase.stage.isNoted) :
    WaitingAgrees acceptedAt (phases.set thread later) := by
  -- A time that is noted waits for the thread that it waited for.
  obtain ⟨number, noted⟩ := same
  refine ⟨fun other phase' there waits => ?_, fun other time there => ?_⟩
  · rw [Dict.get?_set] at there
    split at there
    · cases there
      rw [number]
      exact held.noted thread phase found (noted ▸ waits)
    · exact held.noted other phase' there waits
  · obtain ⟨waiter, phase', at_, named, waits⟩ := held.waits other time there
    by_cases own : waiter = thread
    · subst own
      obtain rfl : phase = phase' := Option.some.inj (found.symm.trans at_)
      exact ⟨waiter, later, by rw [Dict.get?_set, if_pos rfl], number.trans named,
        noted.trans waits⟩
    · exact ⟨waiter, phase', by rw [Dict.get?_set, if_neg own, at_], named, waits⟩

/-- A thread that was accepted notes the time. -/
theorem WaitingAgrees.note (held : WaitingAgrees acceptedAt phases)
    (found : phases.get? thread = some phase) (accepted : phase.stage.isNoted = false) (time : α)
    (own : later.number = phase.number) (noted : later.stage.isNoted = true) :
    WaitingAgrees (acceptedAt.set phase.number time) (phases.set thread later) := by
  -- The time is noted under the number of the thread, which nobody else has noted.
  refine ⟨fun other phase' there waits => ?_, fun other time' there => ?_⟩
  · rw [Dict.get?_set] at there ⊢
    split at there
    · cases there
      exact ⟨time, if_pos own⟩
    · split
      · exact ⟨time, rfl⟩
      · exact held.noted other phase' there waits
  · rw [Dict.get?_set] at there
    split at there
    · rename_i same
      exact ⟨thread, later, by rw [Dict.get?_set, if_pos rfl], own.trans same.symm, noted⟩
    · obtain ⟨waiter, phase', at_, named, waits⟩ := held.waits other time' there
      -- A thread that waits for its time is another one, as this one has none yet.
      have apart : waiter ≠ thread := ne_of_phase_ne found at_ fun same => by
        rw [same, accepted] at waits
        cases waits
      exact ⟨waiter, phase', by rw [Dict.get?_set, if_neg apart, at_], named, waits⟩

/-- A thread that has waited takes the time back. -/
theorem WaitingAgrees.take (held : WaitingAgrees acceptedAt phases)
    (found : phases.get? thread = some phase)
    (others : ∀ other phase', other ≠ thread → phases.get? other = some phase' →
      phase'.number ≠ phase.number) (taken : later.stage.isNoted = false) :
    WaitingAgrees (acceptedAt.erase phase.number) (phases.set thread later) := by
  -- The time that is taken was noted for the thread alone.
  refine ⟨fun other phase' there waits => ?_, fun other time there => ?_⟩
  · rw [Dict.get?_set] at there
    split at there
    · cases there
      rw [taken] at waits
      cases waits
    · rename_i apart
      rw [Dict.get?_erase, if_neg (others other phase' apart there)]
      exact held.noted other phase' there waits
  · rw [Dict.get?_erase] at there
    split at there
    · cases there
    · -- The other times were noted for other threads.
      rename_i differs
      obtain ⟨waiter, phase', at_, named, waits⟩ := held.waits other time there
      have apart : waiter ≠ thread :=
        ne_of_phase_ne found at_ fun same => differs (same ▸ named).symm
      exact ⟨waiter, phase', by rw [Dict.get?_set, if_neg apart, at_], named, waits⟩

/-- A new thread has noted nothing. -/
theorem WaitingAgrees.accept (held : WaitingAgrees acceptedAt phases)
    (free : phases.get? thread = none) (fresh : later.stage.isNoted = false) :
    WaitingAgrees acceptedAt (phases.set thread later) := by
  -- A thread that is free has no time waiting for it.
  refine ⟨fun other phase' there waits => ?_, fun other time there => ?_⟩
  · rw [Dict.get?_set] at there
    split at there
    · cases there
      rw [fresh] at waits
      cases waits
    · exact held.noted other phase' there waits
  · obtain ⟨waiter, phase', at_, named, waits⟩ := held.waits other time there
    have apart : waiter ≠ thread := by
      rintro rfl
      rw [free] at at_
      cases at_
    exact ⟨waiter, phase', by rw [Dict.get?_set, if_neg apart, at_], named, waits⟩

/-- A thread that ends has taken its time back. -/
theorem WaitingAgrees.erase (held : WaitingAgrees acceptedAt phases)
    (found : phases.get? thread = some phase) (taken : phase.stage.isNoted = false) :
    WaitingAgrees acceptedAt (phases.erase thread) := by
  -- A thread that has taken its time leaves none behind.
  refine ⟨fun other phase' there waits => ?_, fun other time there => ?_⟩
  · rw [Dict.get?_erase] at there
    split at there
    · cases there
    · exact held.noted other phase' there waits
  · obtain ⟨waiter, phase', at_, named, waits⟩ := held.waits other time there
    have apart : waiter ≠ thread := ne_of_phase_ne found at_ fun same => by
      rw [same, taken] at waits
      cases waits
    exact ⟨waiter, phase', by rw [Dict.get?_erase, if_neg apart, at_], named, waits⟩

end Waiting

section Runs

variable {α : Type} [LinearOrder α] [Zero α] [Add α] (bounds : List α)
  (writing : GatewayStore.Writing α) (settings : GatewaySettings)

/-- The metrics, the calls, and every account agree with what the threads have done. -/
structure AccountsAgree (store : GatewayStore α) (phases : Dict Nat HandlerPhase) : Prop where
  handing : HandingAgrees settings store phases
  metrics : store.metrics = GatewayMetrics.after bounds store.calls
  history : HistoryAgrees store.connections store.calls phases
  waiting : WaitingAgrees store.acceptedAt phases
  balanced : ∀ account : Account settings α,
    Settles account.exactly (account.balance store phases)

variable {store store' : GatewayStore α} {phases : Dict Nat HandlerPhase} {thread : Nat}
  {phase : HandlerPhase}

/-- An allowed step leads to the stage after it, and keeps the agreement. -/
theorem AccountsAgree.performed {nature : GatewayNature α} {op : GatewayOp α} {reply : op.Reply}
    (held : AccountsAgree bounds settings store phases)
    (found : phases.get? thread = some phase)
    (allowed : Allowed settings phase.number phase.connection phase.stage op)
    (ran : store.exec bounds writing nature op = (store', reply)) :
    AccountsAgree bounds settings store'
      (phases.set thread { phase with stage := phase.stage.next op reply }) := by
  have handing := held.handing.performed bounds writing settings found allowed ran
  have others : ∀ other phase', other ≠ thread → phases.get? other = some phase' →
      phase'.number ≠ phase.number := fun other phase' apart there =>
    held.handing.others found apart there
  have inside : phase.number < store.connections.length :=
    (List.getElem?_eq_some_iff.mp (held.handing.numbered thread phase found)).1
  obtain ⟨number, connection, stage⟩ := phase
  simp only at allowed
  cases op with
  -- A call of the metrics is the last of the calls, and counts for the thread itself.
  | metrics call =>
    cases ran
    refine ⟨handing, ?_, held.history.called found inside others allowed,
      held.waiting.move found ⟨rfl, ?_⟩, fun account => ?_⟩
    · show store.metrics.apply bounds call = _
      rw [held.metrics]
      exact (GatewayMetrics.after_concat _ _).symm
    · cases allowed <;> rfl
    · refine account.settles_step (held.balanced account) found
        ⟨rfl, rfl, (List.append_nil _).symm⟩ ?_
      simp only [countP_single, List.countP_nil, Nat.cast_zero, Int.sub_zero]
      exact account.calls allowed
  -- A request that is handed over changes no account.
  | request made shard address forwarded =>
    cases allowed
    cases ran
    refine ⟨handing, held.metrics, held.history.move found ⟨rfl, rfl, rfl⟩,
      held.waiting.move found ⟨rfl, rfl⟩, fun account => ?_⟩
    exact account.settles_move (held.balanced account) found ⟨rfl, rfl, rfl⟩
      (account.asks number connection _)
  -- A reply is the last of the exchanges, and the thread has yet to report it.
  | response made shard =>
    cases allowed
    cases ran
    obtain ⟨started, unfinished, unnoted⟩ :=
      response_marks (α := α) (.asked shard) number shard nature.reply
    refine ⟨handing, held.metrics, held.history.move found ⟨rfl, started, unfinished⟩,
      held.waiting.move found ⟨rfl, unnoted⟩, fun account => ?_⟩
    refine account.settles_step (held.balanced account) found
      ⟨rfl, (List.append_nil _).symm, rfl⟩ ?_
    simp only [countP_single, List.countP_nil, Nat.cast_zero, Int.sub_zero, Int.zero_add]
    exact account.exchanged number connection ⟨number, shard, nature.reply⟩ rfl
  -- The time of acceptance is nothing that an account counts.
  | noteAccepted made time =>
    cases allowed
    cases ran
    refine ⟨handing, held.metrics, held.history.move found ⟨rfl, rfl, rfl⟩,
      held.waiting.note found rfl time rfl rfl, fun account => ?_⟩
    exact account.settles_move (held.balanced account) found ⟨rfl, rfl, rfl⟩
      (account.notes number connection)
  | takeAccepted made =>
    cases allowed
    cases ran
    -- The time of acceptance is still there, as nobody else takes it.
    obtain ⟨time, noted⟩ := held.waiting.noted thread _ found rfl
    have next : Stage.next (α := α) .waiting (.takeAccepted number)
        (store.acceptedAt.get? number) = .handed := by
      rw [noted]
      rfl
    simp only [next] at handing ⊢
    refine ⟨handing, held.metrics, held.history.move found ⟨rfl, rfl, rfl⟩,
      held.waiting.take found others rfl, fun account => ?_⟩
    exact account.settles_move (held.balanced account) found ⟨rfl, rfl, rfl⟩
      (account.takes number connection)
  | now | render | receive | send =>
    cases ran
    refine ⟨handing, held.metrics, held.history.move found ⟨rfl, rfl, rfl⟩,
      held.waiting.move found ⟨rfl, rfl⟩, fun account => ?_⟩
    -- The thread is where it was.
    refine account.settles_move (held.balanced account) found ⟨rfl, rfl, rfl⟩ ?_
    simpa only [Stage.next, Int.sub_self] using settles_zero account.exactly

/-- A connection that is accepted gets a thread that has done nothing. -/
theorem AccountsAgree.accept (held : AccountsAgree bounds settings store phases)
    (free : phases.get? thread = none) (connection : Connection) :
    AccountsAgree bounds settings
      { store with connections := store.connections ++ [connection] }
      (phases.set thread ⟨store.connections.length, connection, .accepted⟩) := by
  -- The connection is entered in every account as its thread begins.
  refine ⟨held.handing.accept connection, held.metrics, held.history.accept connection,
    held.waiting.accept free rfl, fun account => ?_⟩
  rw [account.balance_accept free connection]
  exact (held.balanced account).add (account.accepts _ _)

/-- A thread that ends owes nothing. -/
theorem AccountsAgree.erase (held : AccountsAgree bounds settings store phases)
    (found : phases.get? thread = some phase) {served : Served}
    (ended : Ended settings phase.connection phase.stage served) :
    AccountsAgree bounds settings store (phases.erase thread) := by
  -- A thread that ends has nothing left that an account waits for.
  obtain ⟨number, connection, stage⟩ := phase
  simp only at ended
  refine ⟨held.handing.erase thread, held.metrics, held.history.erase thread,
    held.waiting.erase found ?_, fun account => ?_⟩
  · cases ended <;> rfl
  · rw [account.balance_end found]
    exact (held.balanced account).add (account.ends _ _ ended)

/-- Nothing has been done before the first connection. -/
theorem AccountsAgree.idle : AccountsAgree bounds settings
    (GatewaySystem.start (α := α) bounds).store .empty := by
  refine ⟨HandingAgrees.idle bounds settings, rfl,
    ⟨⟨List.nodup_nil, List.nodup_nil, fun first before => ?_⟩, nofun, nofun⟩, ⟨nofun, nofun⟩,
    fun account => settles_zero account.exactly⟩
  -- The empty history has the empty beginning only.
  obtain rfl := List.prefix_nil.mp before
  exact List.Subset.refl _

variable [Sub α]

/-- The agreement about accounts, kept by all threads of the gateway. -/
def accountsAgreement :
    Agreement (gatewayService bounds writing settings) HandlerPhase where
  protocol := gatewayProtocol settings
  final := GatewayProgram.Finished settings
  agrees := AccountsAgree bounds settings
  told := fun _ _ _ => True
  admits := by
    intro store phases thread connection store' program held free served
    cases served
    exact ⟨_, GatewayProgram.serve_keeps,
      held.accept bounds settings free connection⟩
  performs := by
    intro store phases thread phase nature op store' reply held found allowed executed
    exact ⟨_, rfl, held.performed bounds writing settings found allowed
      (Option.some.inj executed)⟩
  answers := by
    rintro store phases thread phase connection served held found ⟨rfl, ended⟩
    exact ⟨held.erase bounds settings found ended, trivial⟩
  serving := fun _ _ => trivial
  lasting := fun _ _ => trivial

/-- What the metrics come to when no thread is at work. -/
structure SettledUp (store : GatewayStore α) : Prop where
  inFlight : store.metrics.inFlight = 0
  taken : ∀ number, store.acceptedAt.get? number = none
  accepted : store.metrics.acceptWait.count = store.connections.length
  requests : store.metrics.requests.total (fun _ count => count) =
    store.connections.countP fun connection => !connection.asksGateway
  upstream : ∀ label, ((store.metrics.upstream.get? label).map Histogram.count).getD 0 =
    store.exchanges.countP fun exchange =>
      toString (exchange.shard : Int) = label && isObserved exchange.reply
  errors : ∀ label, (store.metrics.upstreamErrors.get? label).getD 0 =
    store.exchanges.countP fun exchange =>
      toString (exchange.shard : Int) = label && failedBySystem exchange.reply
  unavailable : store.exchanges.countP (fun exchange => failedBySystem exchange.reply) ≤
    store.metrics.requests.total fun key count => if decide (key.2 = "502") then count else 0

omit [LinearOrder α] [Zero α] [Add α] [Sub α] in
/-- Without threads, nothing is under way. -/
theorem total_idle (idle : ∀ thread, phases.get? thread = none) (weight : HandlerPhase → Nat) :
    (phases.total fun _ phase => weight phase) = 0 := by
  have same : (phases.total fun _ phase => weight phase) =
      (Dict.empty : Dict Nat HandlerPhase).total fun _ phase => weight phase :=
    Dict.total_eq_total fun thread => by rw [idle thread, Dict.get?_empty]
  exact same

omit [LinearOrder α] [Zero α] [Add α] [Sub α] in
/-- Without threads, what was closed evens out what was opened, accepted, and exchanged. -/
theorem Account.settled (account : Account settings α)
    (idle : ∀ thread, phases.get? thread = none)
    (settles : Settles account.exactly (account.balance store phases)) :
    Settles account.exactly ((store.calls.countP account.closes : Int) -
      store.calls.countP account.opens - store.connections.countP account.connections -
        store.exchanges.countP account.exchanges) := by
  rw [Account.balance, total_idle idle fun phase => (account.weight phase).toNat] at settles
  simpa using settles

omit [Sub α] in
/-- The requests in flight are those that threads have started and not finished. -/
theorem AccountsAgree.inFlight_eq
    (held : AccountsAgree bounds settings store phases) :
    store.metrics.inFlight = phases.total fun _ phase => phase.stage.isOpen.toNat := by
  -- The account of open requests is even, and the gauge counts their starts and ends.
  have counted := (run_counted bounds store.calls).inFlight
  change (GatewayMetrics.after bounds store.calls).inFlight = _ at counted
  rw [← held.metrics] at counted
  have even := (held.balanced (openAccount settings)).2 rfl
  have starts : (store.calls.filterMap MetricsCall.started?).length =
      store.calls.countP MetricsCall.isStart := List.length_filterMap_eq_countP
  have ends : (store.calls.filterMap MetricsCall.finished?).length =
      store.calls.countP MetricsCall.isFinish := List.length_filterMap_eq_countP
  rw [counted, starts, ends]
  simp [Account.balance, openAccount] at even
  omega

omit [Sub α] in
/-- Without threads, the metrics have counted what happened, all of it. -/
theorem AccountsAgree.settledUp (held : AccountsAgree bounds settings store phases)
    (idle : ∀ thread, phases.get? thread = none) : SettledUp store := by
  -- Without threads, every account is even by itself.
  have settled := fun account : Account settings α =>
    account.settled settings idle (held.balanced account)
  have counted := run_counted bounds store.calls
  change Counted bounds store.calls (GatewayMetrics.after bounds store.calls) at counted
  rw [← held.metrics] at counted
  refine ⟨?_, fun number => ?_, ?_, ?_, fun label => ?_, fun label => ?_, ?_⟩
  · rw [held.inFlight_eq, total_idle idle fun phase => phase.stage.isOpen.toNat]
    rfl
  · cases there : store.acceptedAt.get? number with
    | none => rfl
    | some time =>
      obtain ⟨waiter, phase, found, _⟩ := held.waiting.waits number time there
      rw [idle waiter] at found
      cases found
  · have even := (settled (waitAccount settings)).2 rfl
    -- Each connection is accepted once, and its wait is observed once.
    have waits : (acceptWaits store.calls).length =
        store.calls.countP MetricsCall.isAcceptWait := List.length_filterMap_eq_countP
    rw [counted.acceptWait.count_eq, waits]
    simp [waitAccount] at even
    omega
  · have even := (settled (requestAccount settings)).2 rfl
    rw [held.metrics, allRequests_after]
    simp [requestAccount] at even
    omega
  · have even := (settled (upstreamAccount settings label)).2 rfl
    -- What is counted for a shard are the round trips that were observed.
    have trips : (upstreamTimes store.calls label).length =
        store.calls.countP (MetricsCall.isUpstream label) := List.length_filterMap_eq_countP
    have observed : ((store.metrics.upstream.get? label).map Histogram.count).getD 0 =
        (upstreamTimes store.calls label).length := by
      rcases counted.upstream label with ⟨missing, nothing⟩ | ⟨histogram, found, _, holds⟩
      · rw [missing, nothing]
        rfl
      · rw [found]
        exact holds.count_eq
    rw [observed, trips]
    simp [upstreamAccount] at even
    simp
    omega
  · -- Every failed round trip has been reported as one.
    have even := (settled (errorAccount settings label)).2 rfl
    rw [held.metrics, errors_after]
    simp [errorAccount] at even
    simp
    omega
  · -- Every answer about a missing matcher has been counted.
    have even := (settled (unavailableAccount settings)).1
    rw [held.metrics, requests_after]
    simp [unavailableAccount] at even
    omega

/--
However the threads of the gateway take turns, its metrics are those of calls in order.

The requests in flight are never less than none, nor more than there are threads. Once no thread is
at work, every connection, request, and exchange has been counted, and every failure as one.
-/
theorem gateway_accounts (turns : List (GatewayTurn α)) :
    let run := (Machine.runTotal (Shared.step (gatewayService bounds writing settings))
      (GatewaySystem.start bounds) turns).1
    run.store.metrics = GatewayMetrics.after bounds run.store.calls ∧
      ProperCalls run.store.calls ∧
      (0 ≤ run.store.metrics.inFlight ∧ run.store.metrics.inFlight ≤ run.threads.items.length) ∧
      (run.threads.items = [] → SettledUp run.store) := by
  intro run
  have idle : AccountsAgree bounds settings
      (GatewaySystem.start (α := α) bounds).store .empty :=
    AccountsAgree.idle bounds settings
  obtain ⟨⟨phases, phased, held⟩, -⟩ :=
    ((accountsAgreement bounds writing settings).upheld_of_idle idle).run turns
  change AccountsAgree bounds settings run.store phases at held
  have inFlight := held.inFlight_eq
  refine ⟨held.metrics, held.history.proper, ⟨by omega, ?_⟩, fun nobody => ?_⟩
  · -- There are as many phases as threads, and each is open at most once.
    have most : (phases.total fun _ phase => phase.stage.isOpen.toNat) ≤
        phases.total fun _ _ => 1 :=
      Dict.total_mono fun item _ => Bool.toNat_le item.2.stage.isOpen
    have paired : (phases.total fun _ _ => 1) = run.threads.total fun _ _ => 1 := by
      refine Dict.total_eq_total fun thread => ?_
      cases there : run.threads.get? thread with
      | none =>
        rw [phased.free there]
        rfl
      | some entry =>
        obtain ⟨phase, found, _⟩ := phased.find there
        rw [found]
        rfl
    have counted := Dict.items_length run.threads
    omega
  · -- No thread is at work, and so none is in any phase.
    refine held.settledUp bounds settings fun thread => phased.free ?_
    cases there : run.threads.get? thread with
    | none => exact there
    | some entry =>
      have member := Dict.get?_eq_some_iff.mp there
      rw [nobody] at member
      cases member

/-- The gateway serves GET requests. -/
theorem get_served : "GET" ∈ ["GET", "POST", "DELETE", "PATCH"] := List.mem_cons_self

/-- The target of trades is a path. -/
theorem trades_rooted : "/api/v1/trades/?symbol=000660".toList.head? = some '/' := by
  decide +kernel

/-- A request for the trades of a ticker. -/
def tradesConnection : Connection :=
  ⟨"GET", "/api/v1/trades/?symbol=000660".toList, [("Host", "stock-market")], [], get_served,
    trades_rooted⟩

/-- A gateway in front of two matchers. -/
def twoUpstreams : GatewaySettings where
  tickers := ["005930", "000660"]
  shardCount := 2
  matcherHost := "127.0.0.1"
  firstMatcherPort := 8001
  shardUrls := []
  publicPort := 8000
  python := ⟨1000, fun _ => []⟩

/-- Two such connections whose threads take turns, and an answer that is lost on its way. -/
def tradesTurns : List (GatewayTurn Nat) :=
  let nature (reply : Except ExchangeFault UpstreamResponse) : GatewayNature Nat :=
    ⟨5, true, reply, true, ⟨1, none, "", none⟩⟩
  [.begin 0 tradesConnection, .begin 1 tradesConnection] ++
    (List.replicate 21 [.resume 0 (nature (.ok ⟨200, [], []⟩)),
      .resume 1 (nature (.error .osError))]).flatten

/-- Both connections have been served, one of them without an answer from a matcher. -/
theorem gateway_accounts_trades :
    SettledUp (Machine.runTotal (Shared.step (gatewayService [1, 10] ⟨toString, toString⟩
      twoUpstreams)) (GatewaySystem.start [1, 10]) tradesTurns).1.store :=
  (gateway_accounts [1, 10] ⟨toString, toString⟩ twoUpstreams tradesTurns).2.2.2
    (by decide +kernel)

end Runs

end Accounts

end StockMarket
