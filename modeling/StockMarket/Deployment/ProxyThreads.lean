import StockMarket.Deployment.Proxy
import StockMarket.Library.Contract

/-! What a thread of the gateway may do next, and that the threads keep to it. -/

namespace StockMarket

/-- How far the thread of a connection has come. -/
inductive Stage where
  | accepted
  | waiting
  | handed
  | arrived
  | handling
  | asked (shard : Nat)
  | exchanged (shard : Nat) (reply : Except ExchangeFault UpstreamResponse)
  | observed (reply : Except ExchangeFault UpstreamResponse)
  | finished (reply : Option (Except ExchangeFault UpstreamResponse))

/-- A thread with the number of its connection. -/
structure HandlerPhase where
  number : Nat
  connection : Connection
  stage : Stage

/-- An exchange that failed with an error of the system. -/
def failedBySystem : Except ExchangeFault UpstreamResponse → Bool
  | .error .osError => true
  | _ => false

/-- An exchange that is observed: it was answered, or failed with an error of the system. -/
def isObserved : Except ExchangeFault UpstreamResponse → Bool
  | .error .other => false
  | _ => true

section Stages

variable {α : Type}

/-- The stage after a step; most steps leave a thread where it is. -/
def Stage.next (stage : Stage) : (op : GatewayOp α) → op.Reply → Stage
  | .noteAccepted .., _ => .waiting
  | .takeAccepted _, some _ => .handed
  | .takeAccepted _, none => .arrived
  | .metrics (.observeAcceptWait _), _ => .arrived
  | .metrics (.requestStarted _), _ => .handling
  | .request _ shard _ _, _ => .asked shard
  | .response _ shard, reply => if isObserved reply then .exchanged shard reply else .observed reply
  | .metrics (.observeUpstream ..), _ =>
    match stage with
    | .exchanged _ reply => .observed reply
    | stage => stage
  | .metrics (.requestFinished ..), _ =>
    match stage with
    | .observed reply => .finished (some reply)
    | _ => .finished none
  | _, _ => stage

variable (settings : GatewaySettings) (number : Nat) (connection : Connection)

/-- The steps that a stage allows. -/
inductive Allowed : Stage → GatewayOp α → Prop where
  | now {stage : Stage} : Allowed stage .now
  | noteAccepted (time : α) : Allowed .accepted (.noteAccepted number time)
  | takeAccepted : Allowed .waiting (.takeAccepted number)
  | observeAcceptWait (seconds : α) : Allowed .handed (.metrics (.observeAcceptWait seconds))
  | render : Allowed .arrived .render
  | requestStarted (other : connection.asksGateway = false) :
      Allowed .arrived (.metrics (.requestStarted number))
  | receive : Allowed .handling (.receive number)
  | request {route : Route} {address : String × Nat}
      (routed : settings.route connection.raw = .ok route)
      (addressed : settings.upstream route.shardIndex = .ok address) :
      Allowed .handling (.request number route.shardIndex address (connection.forward route))
  | response {shard : Nat} : Allowed (.asked shard) (.response number shard)
  | observeUpstream {shard : Nat} {reply : Except ExchangeFault UpstreamResponse} (seconds : α)
      (seen : isObserved reply = true) :
      Allowed (.exchanged shard reply)
        (.metrics (.observeUpstream shard seconds (failedBySystem reply)))
  | send {stage : Stage} (piece : Piece) : Allowed stage (.send piece)
  | finishEarly (status : Nat) (seconds : α) (other : connection.asksGateway = false) :
      Allowed .handling (.metrics (.requestFinished number connection.method status seconds))
  | finish {reply : Except ExchangeFault UpstreamResponse} {status : Nat} (seconds : α)
      (other : connection.asksGateway = false)
      (unavailable : failedBySystem reply = true → status = 502) :
      Allowed (.observed reply)
        (.metrics (.requestFinished number connection.method status seconds))

/-- What the gateway's threads keep to. -/
def gatewayProtocol : Program.Protocol (GatewayOp α) GatewayOp.Reply HandlerPhase where
  allows := fun phase op => Allowed settings phase.number phase.connection phase.stage op
  turns := fun phase op reply later => later = { phase with stage := phase.stage.next op reply }

end Stages

/-- The pieces of an answer that was written as a whole. -/
def wholeAnswer (status : Nat) (headers : List (String × String)) (payload : List UInt8) :
    List Piece :=
  [.head (.status status :: headers.map (fun header => .header header.1 header.2) ++ [.blank]),
    .body payload]

/-- An answer was written as a whole, or a write has failed. -/
def Served.Wrote (served : Served) (status : Nat) (headers : List (String × String))
    (payload : List UInt8) : Prop :=
  .torn ∈ served.handler.sent ∨
    served.handler.sent = wholeAnswer status headers payload ∧ served.uncaught = none

/-- Nothing was written, because something was not caught. -/
def Served.Dropped (served : Served) : Prop :=
  served.handler.sent = [] ∧ served.uncaught ≠ none

/-- The answers that the gateway gives without a matcher. -/
inductive OwnAnswer (settings : GatewaySettings) (connection : Connection) :
    Nat → List UInt8 → Prop where
  | discovery {status : Nat} {payload : List UInt8}
      (asked : connection.method = "GET" ∧ isServiceDiscoveryPath connection.path = true)
      (told : serviceDiscovery ((connection.header? "Host").getD "") settings.publicPort
        settings.shardCount = .ok (status, payload)) : OwnAnswer settings connection status payload
  | refused {status : Nat} {detail : String}
      (routed : settings.route connection.raw = .error (.routingError status detail)) :
      OwnAnswer settings connection status (errorPayload detail)

/-- What a thread has done for its client when it ends in a stage. -/
inductive Ended (settings : GatewaySettings) (connection : Connection) :
    Stage → Served → Prop where
  | page {served : Served} {page : String} (asked : connection.asksGateway = true)
      (wrote : served.Wrote 200 (GatewayProgram.ownHeaders
        "text/plain; version=0.0.4; charset=utf-8" (encodeText page.toList))
          (encodeText page.toList)) : Ended settings connection .arrived served
  | own {served : Served} {status : Nat} {payload : List UInt8}
      (answer : OwnAnswer settings connection status payload)
      (wrote : served.Wrote status (GatewayProgram.ownHeaders "application/json" payload) payload) :
      Ended settings connection (.finished none) served
  | dropped {served : Served} {reply : Option (Except ExchangeFault UpstreamResponse)}
      (dropped : served.Dropped) (unseen : ∀ seen ∈ reply, isObserved seen = false) :
      Ended settings connection (.finished reply) served
  | passed {served : Served} {response : UpstreamResponse}
      (wrote : served.Wrote response.status (GatewayProgram.passedOn response.headers)
        response.payload) : Ended settings connection (.finished (some (.ok response))) served
  | unavailable {served : Served}
      (wrote : served.Wrote 502 (GatewayProgram.ownHeaders "application/json"
        (errorPayload "matcher is unavailable")) (errorPayload "matcher is unavailable")) :
      Ended settings connection (.finished (some (.error .osError))) served

namespace GatewayProgram

variable {α β : Type} {settings : GatewaySettings} {number : Nat} {connection : Connection}
  {stage : Stage}

/-- One step, followed by a program that goes on from the stage it leads to. -/
theorem keeps_step {op : GatewayOp α} {rest : op.Reply → GatewayProgram α β}
    {final : HandlerPhase → β → Prop} (allowed : Allowed settings number connection stage op)
    (kept : ∀ reply, (rest reply).Keeps (gatewayProtocol settings) final
      ⟨number, connection, stage.next op reply⟩) :
    (step op >>= rest).Keeps (gatewayProtocol settings) final ⟨number, connection, stage⟩ := by
  refine .call allowed fun reply later turned => ?_
  rw [show later = _ from turned]
  exact kept reply

/-- What writing comes to: the thread is where it was, and the pieces were written or one is torn. -/
def Written (number : Nat) (connection : Connection) (stage : Stage) (sent : List Piece)
    (phase : HandlerPhase) (result : Handler × Bool) : Prop :=
  phase = ⟨number, connection, stage⟩ ∧
    if result.2 then result.1.sent = sent else .torn ∈ result.1.sent

/-- A piece is written, or torn; nothing else of the handler changes. -/
theorem write_keeps (handler : Handler) (piece : Piece) :
    (write (α := α) handler piece).Keeps (gatewayProtocol settings)
      (fun phase result => Written number connection stage (handler.sent ++ [piece]) phase result ∧
        result.1.status = handler.status ∧ result.1.buffer = handler.buffer)
      ⟨number, connection, stage⟩ := by
  refine keeps_step (.send piece) fun written => ?_
  -- A piece that is not written as a whole tears the response.
  cases written with
  | true => exact .done ⟨⟨rfl, rfl⟩, rfl, rfl⟩
  | false => exact .done ⟨⟨rfl, by simp⟩, rfl, rfl⟩

/-- The head is written with all the lines before it; a head that could not be written is kept. -/
theorem endHeaders_keeps (handler : Handler) :
    (endHeaders (α := α) handler).Keeps (gatewayProtocol settings)
      (fun phase result => Written number connection stage
        (handler.sent ++ [.head (handler.buffer ++ [.blank])]) phase result ∧
          result.1.status = handler.status ∧ (result.2 = true → result.1.buffer = []))
      ⟨number, connection, stage⟩ := by
  -- Ending the headers writes the whole head, or tears it.
  refine (write_keeps _ _).bind fun phase result held => ?_
  obtain ⟨later, written⟩ := result
  obtain ⟨⟨same, sent⟩, status, -⟩ := held
  cases written with
  | true => exact .done ⟨⟨same, sent⟩, status, fun _ => rfl⟩
  | false => exact .done ⟨⟨same, sent⟩, status, nofun⟩

/-- An answer is written as a whole behind what was written before, or a write fails. -/
theorem respond_keeps (handler : Handler) (status : Nat) (headers : List (String × String))
    (payload : List UInt8) :
    (respond (α := α) handler status headers payload).Keeps (gatewayProtocol settings)
      (fun phase result => Written number connection stage
        (handler.sent ++ [.head (handler.buffer ++
          (.status status :: headers.map fun header => .header header.1 header.2) ++ [.blank]),
            .body payload]) phase result ∧ result.1.status = status)
      ⟨number, connection, stage⟩ := by
  refine (endHeaders_keeps _).bind fun phase result held => ?_
  obtain ⟨later, written⟩ := result
  obtain ⟨⟨rfl, sent⟩, kept, -⟩ := held
  cases written with
  | false => exact .done ⟨⟨rfl, sent⟩, kept⟩
  | true =>
    -- The body follows the head.
    refine (write_keeps later (.body payload)).weaken fun phase result held => ?_
    obtain ⟨⟨same, sent'⟩, status', -⟩ := held
    refine ⟨⟨same, ?_⟩, status'.trans kept⟩
    have before : later.sent = _ := sent
    rw [before, List.append_assoc] at sent'
    exact sent'

/-- A fresh handler writes the whole answer, or a write fails. -/
theorem respond_new_keeps (status : Nat) (headers : List (String × String))
    (payload : List UInt8) :
    (respond (α := α) .new status headers payload).Keeps (gatewayProtocol settings)
      (fun phase result => Written number connection stage (wholeAnswer status headers payload)
        phase result ∧ result.1.status = status) ⟨number, connection, stage⟩ :=
  respond_keeps .new status headers payload

/-- An answer of the gateway's own is written as a whole, or a write fails and is not caught. -/
theorem writeOwn_keeps (status : Nat) (contentType : String) (payload : List UInt8) :
    (writeOwn (α := α) .new status contentType payload).Keeps (gatewayProtocol settings)
      (fun phase served => phase = ⟨number, connection, stage⟩ ∧
        served.Wrote status (ownHeaders contentType payload) payload ∧
          served.handler.status = status) ⟨number, connection, stage⟩ := by
  -- The answer is written as a whole, or one of its pieces is torn.
  refine (respond_new_keeps _ _ _).bind fun phase result held => ?_
  obtain ⟨handler, written⟩ := result
  obtain ⟨⟨same, sent⟩, kept⟩ := held
  cases written with
  | true => exact .done ⟨same, .inr ⟨sent, rfl⟩, kept⟩
  | false => exact .done ⟨same, .inl sent, kept⟩

/-- A second answer does not mend a write that failed. -/
theorem writeError_torn {handler : Handler} (torn : .torn ∈ handler.sent) (status : Nat)
    (detail : String) :
    (writeError (α := α) handler status detail).Keeps (gatewayProtocol settings)
      (fun phase served => phase = ⟨number, connection, stage⟩ ∧ .torn ∈ served.handler.sent ∧
        served.handler.status = status) ⟨number, connection, stage⟩ := by
  -- Whatever is written after a torn piece, the piece stays torn.
  refine (respond_keeps _ _ _ _).bind fun phase result held => ?_
  obtain ⟨later, written⟩ := result
  obtain ⟨⟨same, sent⟩, kept⟩ := held
  cases written with
  | true =>
    refine .done ⟨same, ?_, kept⟩
    have all : later.sent = _ := sent
    rw [all]
    exact List.mem_append_left _ torn
  | false => exact .done ⟨same, sent, kept⟩

variable [Sub α]

/-- What a request comes to before its end is measured. -/
inductive Handled (settings : GatewaySettings) (number : Nat) (connection : Connection) :
    HandlerPhase → Served → Prop where
  | early {served : Served}
      (ended : Ended settings connection (.finished none) served) :
      Handled settings number connection ⟨number, connection, .handling⟩ served
  | exchanged {reply : Except ExchangeFault UpstreamResponse} {served : Served}
      (ended : Ended settings connection (.finished (some reply)) served)
      (unavailable : failedBySystem reply = true → served.handler.status = 502) :
      Handled settings number connection ⟨number, connection, .observed reply⟩ served

/-- A request is exchanged with its matcher once, and the exchange is observed. -/
theorem forwardTo_keeps {route : Route} {address : String × Nat}
    (routed : settings.route connection.raw = .ok route)
    (addressed : settings.upstream route.shardIndex = .ok address) :
    (forwardTo (α := α) number route address (connection.forward route)).Keeps
      (gatewayProtocol settings) (Handled settings number connection)
      ⟨number, connection, .handling⟩ := by
  refine keeps_step .now fun started => keeps_step (.request routed addressed) fun _ =>
    keeps_step .response fun reply => ?_
  -- A reply is passed on, a fault of the system is told as 502, and any other one goes on.
  cases reply with
  | ok response =>
    refine keeps_step .now fun answered => keeps_step (.observeUpstream _ rfl) fun _ => ?_
    refine (respond_new_keeps _ _ _).bind fun phase result held => ?_
    obtain ⟨handler, written⟩ := result
    obtain ⟨⟨rfl, sent⟩, kept⟩ := held
    cases written with
    | true => exact .done (.exchanged (.passed (.inr ⟨sent, rfl⟩)) nofun)
    -- Where writing fails, the error is written after what is torn already.
    | false =>
      refine (writeError_torn sent _ _).weaken fun phase served held => ?_
      obtain ⟨rfl, torn, -⟩ := held
      exact .exchanged (.passed (.inl torn)) nofun
  | error fault =>
    cases fault with
    | osError =>
      refine keeps_step .now fun failed => keeps_step (.observeUpstream _ rfl) fun _ => ?_
      refine (writeOwn_keeps _ _ _).weaken fun phase served held => ?_
      obtain ⟨rfl, wrote, status⟩ := held
      exact .exchanged (.unavailable wrote) fun _ => status
    | other => exact .done (.exchanged (.dropped ⟨rfl, nofun⟩ (by simp [isObserved])) nofun)

omit [Sub α] in
/-- A body is received, or nothing is, before anything else happens. -/
theorem receiveBody_keeps (length : Int) :
    (receiveBody (α := α) number length).Keeps (gatewayProtocol settings)
      (fun phase _ => phase = ⟨number, connection, .handling⟩)
      ⟨number, connection, .handling⟩ := by
  -- Without a length nothing is received.
  unfold receiveBody
  split
  · exact .done rfl
  · exact keeps_step .receive fun reply => .done rfl

/-- A request that is not about the gateway's own metrics is exchanged at most once. -/
theorem handle_keeps :
    (handle (α := α) settings number connection).Keeps (gatewayProtocol settings)
      (Handled settings number connection) ⟨number, connection, .handling⟩ := by
  have nothing : ∀ uncaught, Handled settings number connection
      ⟨number, connection, .handling⟩ ⟨.new, some uncaught⟩ := fun uncaught =>
    .early (.dropped ⟨rfl, nofun⟩ nofun)
  have own : ∀ {status payload}, OwnAnswer settings connection status payload →
      (writeOwn (α := α) .new status "application/json" payload).Keeps (gatewayProtocol settings)
        (Handled settings number connection) ⟨number, connection, .handling⟩ := by
    intro status payload answer
    refine (writeOwn_keeps _ _ _).weaken fun phase served held => ?_
    obtain ⟨rfl, wrote, -⟩ := held
    exact .early (.own answer wrote)
  unfold handle
  -- Each way ends with an answer of its own, an exception, or the exchange.
  cases connection.contentLength with
  | none => exact .done (nothing _)
  | some length =>
    refine (receiveBody_keeps length).bind fun phase received held => ?_
    obtain rfl := held
    cases received with
    | false => exact .done (nothing _)
    | true =>
      simp only
      split_ifs with asked
      · -- Service discovery is answered from the settings alone.
        unfold writeServiceDiscovery
        cases told : serviceDiscovery ((connection.header? "Host").getD "") settings.publicPort
            settings.shardCount with
        | error failure => exact .done (nothing _)
        | ok answer => exact own (.discovery asked told)
      · -- A refusal is answered by the gateway itself, and a route leads to a matcher.
        cases routed : settings.route connection.raw with
        | error exception =>
          cases exception with
          | routingError status detail => exact own (.refused routed)
          | unicodeDecodeError => exact .done (nothing _)
          | valueError => exact .done (nothing _)
          | recursionError => exact .done (nothing _)
        | ok route =>
          simp only
          cases addressed : settings.upstream route.shardIndex with
          | error uncaught => exact .done (nothing _)
          | ok address => exact forwardTo_keeps routed addressed

/-- What a thread ends with. -/
def Finished (settings : GatewaySettings) (request : Connection) (phase : HandlerPhase)
    (served : Served) : Prop :=
  phase.connection = request ∧ Ended settings request phase.stage served

/-- A request is started and finished once, or it is for the gateway's own metrics. -/
theorem proxy_keeps :
    (proxy (α := α) settings number connection).Keeps (gatewayProtocol settings)
      (Finished settings connection) ⟨number, connection, .arrived⟩ := by
  unfold proxy
  split_ifs with asked
  · refine keeps_step .render fun page => ?_
    refine (writeOwn_keeps _ _ _).weaken fun phase served held => ?_
    obtain ⟨rfl, wrote, -⟩ := held
    exact ⟨rfl, .page asked wrote⟩
  · rw [Bool.not_eq_true] at asked
    refine keeps_step .now fun started => keeps_step (.requestStarted asked) fun _ => ?_
    refine handle_keeps.bind fun phase served held => ?_
    -- The end is measured with the status that was set last.
    cases held with
    | early ended =>
      exact keeps_step .now fun finished => keeps_step (.finishEarly _ _ asked) fun _ =>
        .done ⟨rfl, ended⟩
    | exchanged ended unavailable =>
      exact keeps_step .now fun finished => keeps_step (.finish _ asked unavailable) fun _ =>
        .done ⟨rfl, ended⟩

/-- The thread of a connection keeps to the protocol from its acceptance on. -/
theorem serve_keeps :
    (GatewayProgram.serve (α := α) settings number connection).Keeps (gatewayProtocol settings)
      (Finished settings connection) ⟨number, connection, .accepted⟩ := by
  -- The wait is observed where a time of acceptance was noted.
  unfold GatewayProgram.serve
  refine keeps_step .now fun accepted => keeps_step (.noteAccepted accepted) fun _ =>
    keeps_step .takeAccepted fun taken => ?_
  cases taken with
  | none => exact proxy_keeps
  | some accepted =>
    exact keeps_step .now fun reached => keeps_step (.observeAcceptWait _) fun _ => proxy_keeps

end GatewayProgram

end StockMarket
