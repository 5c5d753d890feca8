import StockMarket.Deployment.Discovery
import StockMarket.Deployment.GatewayMetrics
import StockMarket.Library.Program

/-! The gateway's threads: each serves one connection, and some forward its request to a matcher. -/

namespace StockMarket

/--
A connection that brings a request of one of the four methods for a path, as its request line has it.

What else a server may be sent (other methods, absolute targets, lines that are no request) is not
considered here.
-/
structure Connection where
  method : String
  target : List Char
  headers : List (String × String)
  sent : List UInt8
  served : method ∈ ["GET", "POST", "DELETE", "PATCH"]
  rooted : target.head? = some '/'

/-- The first header with a name, in which upper and lower case are the same. -/
def Connection.header? (connection : Connection) (name : String) : Option String :=
  (connection.headers.find? fun header => header.1.toLower = name.toLower).map Prod.snd

/-- The path of a request, without its query. -/
def Connection.path (connection : Connection) : List Char := (splitTarget connection.target).1

/-- The length that a request gives for its body, if it is a number. -/
def Connection.contentLength (connection : Connection) : Option Int :=
  let length := (connection.header? "Content-Length").getD "0"
  -- An empty length counts as zero, like a missing one.
  integerIn? (if length = "" then "0" else length).toList

/-- The body of a request: as many of the bytes behind its head as its length says, or all of them. -/
def Connection.body (connection : Connection) : List UInt8 :=
  match connection.contentLength with
  | none => []
  -- A negative length reads until the client has ended.
  | some length => if length < 0 then connection.sent else connection.sent.take length.toNat

/-- The gateway's own metrics, served without touching a matcher. -/
def isGatewayMetricsPath : List Char → Bool := Path.isLiteral "/gateway/metrics"

/-- The gateway's own list of scrape targets. -/
def isServiceDiscoveryPath : List Char → Bool := Path.isLiteral "/api/v1/prometheus-sd"

/-- A request for the gateway's own metrics. -/
def Connection.asksGateway (connection : Connection) : Bool :=
  connection.method = "GET" ∧ isGatewayMetricsPath connection.path

/-- The request as the routing gets it. -/
def Connection.raw (connection : Connection) : RawRequest :=
  WireRequest.raw ⟨connection.method, connection.target, connection.body⟩

/-- A request on its way to a matcher. -/
structure ForwardedRequest where
  method : String
  target : List Char
  headers : Dict String String
  body : List UInt8

/-- What a matcher answers. -/
structure UpstreamResponse where
  status : Nat
  headers : List (String × String)
  payload : List UInt8

/-- What an exchange with a matcher raises; only errors of the system are caught. -/
inductive ExchangeFault where
  | osError
  | other
  deriving DecidableEq

/-- What a handler does not catch. -/
inductive Uncaught where
  | routing (exception : RoutingException)
  | discovery (failure : DiscoveryError)
  | valueError
  | indexError
  | osError
  | exchange
  deriving DecidableEq

/-- The parts of a configured URL; a port may fail to be read. -/
structure ShardUrl where
  scheme : String
  hostname : Option String
  port : Option (Option Nat)

/-- The gateway's settings. -/
structure GatewaySettings where
  tickers : List String
  shardCount : Nat
  matcherHost : String
  firstMatcherPort : Nat
  shardUrls : List ShardUrl
  publicPort : Nat
  python : WireInterpreter

namespace GatewaySettings

variable (settings : GatewaySettings)

/-- The route of a request. -/
def route (request : RawRequest) : Except RoutingException Route :=
  routeRawRequest settings.python.nesting settings.python.prints request settings.tickers
    settings.shardCount

/-- The address of a matcher. -/
def upstream (shardIndex : Nat) : Except Uncaught (String × Nat) :=
  if settings.shardUrls.isEmpty then
    ((matcherListenPort shardIndex settings.firstMatcherPort).mapError .discovery).map fun port =>
      (settings.matcherHost, port)
  else
    match settings.shardUrls[shardIndex]? with
    | none => .error .indexError
    | some url =>
      match url.hostname, url.port with
      | none, _ => .error (.routing (.routingError 500 "matcher URL is missing a host"))
      | some _, none => .error .valueError
      | some host, some port =>
        -- A port of zero is treated like a missing one.
        .ok (host, if port.getD 0 = 0 then (if url.scheme = "https" then 443 else 80)
          else port.getD 0)

end GatewaySettings

namespace Connection

variable (connection : Connection)

/-- The target at the matcher, which keeps the query. -/
def upstreamRequestPath (upstreamPath : Option String) : List Char :=
  match upstreamPath with
  | none => connection.target
  | some path =>
    let query := (splitTarget connection.target).2
    -- An empty path is no replacement.
    if path = "" then connection.target
    else if query = [] then path.toList
    else path.toList ++ '?' :: query

/-- The request for the matcher; of headers with one name, the last one counts. -/
def forward (route : Route) : ForwardedRequest where
  method := connection.method
  target := connection.upstreamRequestPath route.upstreamPath
  headers := (connection.headers.filter fun header => header.1.toLower ≠ "content-length").foldl
    (fun headers header => headers.set header.1 header.2) .empty
  body := connection.body

end Connection

/-- A line of the head of an answer; the first one brings those that the server adds. -/
inductive HeadLine where
  | status (code : Nat)
  | header (name value : String)
  | blank
  deriving DecidableEq

/-- What is written to a client at once; a write that fails may leave a part of it. -/
inductive Piece where
  | head (lines : List HeadLine)
  | body (bytes : List UInt8)
  | torn
  deriving DecidableEq

/-- A handler: the last status, the lines that are not written yet, and what was written. -/
structure Handler where
  status : Nat
  buffer : List HeadLine
  sent : List Piece
  deriving DecidableEq

/-- A handler that has written nothing. -/
def Handler.new : Handler := ⟨0, [], []⟩

/-- What the threads do to what they share, one step at a time. -/
inductive GatewayOp (α : Type) where
  | now
  | noteAccepted (connection : Nat) (time : α)
  | takeAccepted (connection : Nat)
  | metrics (call : MetricsCall α)
  | render
  | receive (connection : Nat)
  | request (connection shard : Nat) (address : String × Nat) (forwarded : ForwardedRequest)
  | response (connection shard : Nat)
  | send (piece : Piece)

/-- What a step tells the thread that takes it. -/
def GatewayOp.Reply {α : Type} : GatewayOp α → Type
  | now => α
  | noteAccepted .. => Unit
  | takeAccepted _ => Option α
  | metrics _ => Unit
  | render => String
  | receive _ => Bool
  | request .. => Unit
  | response .. => Except ExchangeFault UpstreamResponse
  | send _ => Bool

/-- What a thread of the gateway does. -/
abbrev GatewayProgram (α : Type) := Program (GatewayOp α) GatewayOp.Reply

/-- What became of a connection: the handler at its end, and what it did not catch. -/
structure Served where
  handler : Handler
  uncaught : Option Uncaught
  deriving DecidableEq

namespace GatewayProgram

variable {α : Type}

/-- A single step. -/
def step (op : GatewayOp α) : GatewayProgram α op.Reply := Program.perform op

/-- Read the clock. -/
def now : GatewayProgram α α := step .now

/-- Note when a connection was accepted. -/
def noteAccepted (connection : Nat) (time : α) : GatewayProgram α Unit :=
  step (.noteAccepted connection time)

/-- Take the time of acceptance back, if it was noted. -/
def takeAccepted (connection : Nat) : GatewayProgram α (Option α) :=
  step (.takeAccepted connection)

/-- Call the metrics. -/
def call (call : MetricsCall α) : GatewayProgram α Unit := step (.metrics call)

/-- Render the page of metrics. -/
def render : GatewayProgram α String := step .render

/-- Read the body of a request; the answer tells whether that worked. -/
def receive (connection : Nat) : GatewayProgram α Bool := step (.receive connection)

/-- Hand a request over for a matcher. -/
def request (connection shard : Nat) (address : String × Nat) (forwarded : ForwardedRequest) :
    GatewayProgram α Unit := step (.request connection shard address forwarded)

/-- Wait for what comes back from the matcher, or for a failure. -/
def response (connection shard : Nat) :
    GatewayProgram α (Except ExchangeFault UpstreamResponse) := step (.response connection shard)

/-- Write to the client; the answer tells whether that worked. -/
def send (piece : Piece) : GatewayProgram α Bool := step (.send piece)

/-- Write a piece; the answer tells whether it could be written. -/
def write (handler : Handler) (piece : Piece) : GatewayProgram α (Handler × Bool) := do
  if ← send piece then
    return ({ handler with sent := handler.sent ++ [piece] }, true)
  else return ({ handler with sent := handler.sent ++ [.torn] }, false)

/-- Write the lines of the head, which are only forgotten when they were written. -/
def endHeaders (handler : Handler) : GatewayProgram α (Handler × Bool) := do
  let handler := { handler with buffer := handler.buffer ++ [.blank] }
  let (handler, written) ← write handler (.head handler.buffer)
  return (if written then { handler with buffer := [] } else handler, written)

/-- Answer with a status, headers, and a body. -/
def respond (handler : Handler) (status : Nat) (headers : List (String × String))
    (payload : List UInt8) : GatewayProgram α (Handler × Bool) := do
  let lines := .status status :: headers.map fun header => .header header.1 header.2
  let (handler, written) ←
    -- The status is noted before anything is written.
    endHeaders { handler with status := status, buffer := handler.buffer ++ lines }
  if written then write handler (.body payload) else return (handler, false)

/-- The headers of an answer of the gateway's own. -/
def ownHeaders (contentType : String) (payload : List UInt8) : List (String × String) :=
  [("Content-Type", contentType), ("Content-Length", toString payload.length)]

/-- An answer of the gateway's own, whose writing may raise what nothing catches. -/
def writeOwn (handler : Handler) (status : Nat) (contentType : String) (payload : List UInt8) :
    GatewayProgram α Served := do
  let (handler, written) ← respond handler status (ownHeaders contentType payload) payload
  return ⟨handler, if written then none else some .osError⟩

/-- Answer with an error. -/
def writeError (handler : Handler) (status : Nat) (detail : String) : GatewayProgram α Served :=
  writeOwn handler status "application/json" (errorPayload detail)

/-- Answer with the scrape targets. -/
def writeServiceDiscovery (settings : GatewaySettings) (connection : Connection) :
    GatewayProgram α Served :=
  match serviceDiscovery ((connection.header? "Host").getD "") settings.publicPort
    settings.shardCount with
  | .error failure => return ⟨.new, some (.discovery failure)⟩
  | .ok (status, payload) => writeOwn .new status "application/json" payload

/-- Answer with the page of metrics. -/
def writeMetrics : GatewayProgram α Served := do
  let page ← render
  writeOwn .new 200 "text/plain; version=0.0.4; charset=utf-8" (encodeText page.toList)

/-- The headers of a matcher's answer that are passed on. -/
def passedOn (headers : List (String × String)) : List (String × String) :=
  headers.filter fun header =>
    header.1.toLower ≠ "transfer-encoding" ∧ header.1.toLower ≠ "connection"

variable [Sub α]

/-- Forward a request to a matcher, and pass on its answer. -/
def forwardTo (number : Nat) (route : Route) (address : String × Nat)
    (forwarded : ForwardedRequest) : GatewayProgram α Served := do
  let started ← now
  request number route.shardIndex address forwarded
  -- Other threads may do anything before the matcher has answered, or the exchange has failed.
  match ← response number route.shardIndex with
  -- Only errors of the system are answered; others end the thread.
  | .error .other => return ⟨.new, some .exchange⟩
  | .error .osError =>
    let failed ← now
    call (.observeUpstream route.shardIndex (failed - started) true)
    writeError .new 502 "matcher is unavailable"
  | .ok response =>
    let answered ← now
    call (.observeUpstream route.shardIndex (answered - started) false)
    let (handler, written) ←
      respond .new response.status (passedOn response.headers) response.payload
    if written then return ⟨handler, none⟩
    -- A write that fails is taken for a failure of the matcher, and answered once more.
    else writeError handler 502 "matcher is unavailable"

/-- Read the body of a request, if it has a length; the answer tells whether that worked. -/
def receiveBody (number : Nat) (length : Int) : GatewayProgram α Bool :=
  if length = 0 then return true else receive number

variable (settings : GatewaySettings)

/-- Handle a request that is not about the gateway's own metrics. -/
def handle (number : Nat) (connection : Connection) : GatewayProgram α Served :=
  match connection.contentLength with
  -- A length that is no number raises before the body is read.
  | none => return ⟨.new, some .valueError⟩
  | some length => do
    match ← receiveBody number length with
    | false => return ⟨.new, some .osError⟩
    | true =>
      if connection.method = "GET" ∧ isServiceDiscoveryPath connection.path then
        writeServiceDiscovery settings connection
      else
        match settings.route connection.raw with
        | .error (.routingError status detail) => writeError .new status detail
        | .error exception => return ⟨.new, some (.routing exception)⟩
        | .ok route =>
          match settings.upstream route.shardIndex with
          | .error uncaught => return ⟨.new, some uncaught⟩
          | .ok address => forwardTo number route address (connection.forward route)

/-- Serve a request, and measure how long that takes. -/
def proxy (number : Nat) (connection : Connection) : GatewayProgram α Served := do
  -- Scrapes of the gateway are not measured.
  if connection.asksGateway then writeMetrics
  else
    let started ← now
    call (.requestStarted number)
    let served ← handle settings number connection
    let finished ← now
    -- This is the code's `finally`: it is called with whatever status was noted last.
    call (.requestFinished number connection.method served.handler.status (finished - started))
    return served

/-- Serve a connection, from its acceptance to the end of its thread. -/
def serve (number : Nat) (connection : Connection) : GatewayProgram α Served := do
  let accepted ← now
  noteAccepted number accepted
  -- From here on, the thread of the connection is at work.
  match ← takeAccepted number with
  | some accepted =>
    let reached ← now
    call (.observeAcceptWait (reached - accepted))
  | none => pure ()
  proxy settings number connection

end GatewayProgram

/-- A request that was handed over for a matcher: for which connection, shard, and address. -/
structure Forwarding where
  connection : Nat
  shard : Nat
  address : String × Nat
  request : ForwardedRequest

/-- What came of a request that was handed over. -/
structure Exchange where
  connection : Nat
  shard : Nat
  reply : Except ExchangeFault UpstreamResponse

/--
What the threads share.

Connections are numbered as they are accepted. The calls on the metrics, the requests handed over,
and the exchanges are kept as a history, which no thread reads.
-/
structure GatewayStore (α : Type) where
  connections : List Connection
  acceptedAt : Dict Nat α
  metrics : GatewayMetrics α
  calls : List (MetricsCall α)
  forwardings : List Forwarding
  exchanges : List Exchange

/-- What the world adds to a step: among others, whatever comes back from a matcher, if anything. -/
structure GatewayNature (α : Type) where
  clock : α
  received : Bool
  reply : Except ExchangeFault UpstreamResponse
  written : Bool
  readings : ProcessReadings

namespace GatewayStore

variable {α : Type} [LinearOrder α] [Zero α] [Add α]

/-- What a thread writes numbers with. -/
structure Writing (α : Type) where
  value : α → String
  sum : α → String

variable (bounds : List α) (writing : Writing α)

/-- One step of a thread. -/
def exec (store : GatewayStore α) (nature : GatewayNature α) :
    (op : GatewayOp α) → GatewayStore α × op.Reply
  | .now => (store, nature.clock)
  | .noteAccepted connection time =>
    ({ store with acceptedAt := store.acceptedAt.set connection time }, ())
  -- The time is taken out, so that the table does not grow.
  | .takeAccepted connection =>
    ({ store with acceptedAt := store.acceptedAt.erase connection },
      store.acceptedAt.get? connection)
  | .metrics call =>
    ({ store with metrics := store.metrics.apply bounds call, calls := store.calls ++ [call] }, ())
  | .render => (store, store.metrics.render writing.value writing.sum nature.readings)
  | .receive _ => (store, nature.received)
  | .request connection shard address forwarded =>
    ({ store with
        forwardings := store.forwardings ++ [⟨connection, shard, address, forwarded⟩] }, ())
  -- What a matcher answers, and when, is left to the world.
  | .response connection shard =>
    ({ store with exchanges := store.exchanges ++ [⟨connection, shard, nature.reply⟩] },
      nature.reply)
  | .send _ => (store, nature.written)

end GatewayStore

section Service

variable {α : Type} [LinearOrder α] [Zero α] [Add α] [Sub α]

/-- Every connection that is accepted gets a thread of its own. -/
def gatewayService (bounds : List α) (writing : GatewayStore.Writing α)
    (settings : GatewaySettings) : Service (GatewayOp α) GatewayOp.Reply Served
      (GatewayStore α) Nat Connection (GatewayNature α) where
  exec := fun store nature op => some (store.exec bounds writing nature op)
  serve := fun store _ connection =>
    -- The number of the connection is that of those before it.
    some ({ store with connections := store.connections ++ [connection] },
      GatewayProgram.serve settings store.connections.length connection)

/-- The gateway with its threads. -/
abbrev GatewaySystem (α : Type) :=
  Shared (GatewayOp α) GatewayOp.Reply Served (GatewayStore α) Nat Connection

/-- A connection arrives, or a thread takes a step. -/
abbrev GatewayTurn (α : Type) := Turn Nat Connection (GatewayNature α)

/-- The gateway before its first connection. -/
def GatewaySystem.start (bounds : List α) : GatewaySystem α :=
  ⟨⟨[], .empty, .new bounds, [], [], []⟩, .empty⟩

end Service

end StockMarket
