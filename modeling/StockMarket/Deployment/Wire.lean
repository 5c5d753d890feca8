import StockMarket.Deployment.CancelTruth
import StockMarket.Deployment.EventAcks
import StockMarket.Library.JsonText

/-! Requests and answers as bytes, as the gateway and the matchers behind it exchange them. -/

namespace StockMarket

/--
A request on the wire: its method, its target, and the bytes of its body.

Its headers are the ones that the runner's client sends, so that a body is declared to be JSON.
-/
structure WireRequest where
  method : String
  target : List Char
  body : List UInt8

/-- The path and the query of a target, without the fragment that may follow them. -/
def splitTarget (target : List Char) : List Char × List Char :=
  let whole := target.takeWhile (· ≠ '#')
  -- The query begins behind the first question mark.
  (whole.takeWhile (· ≠ '?'), (whole.dropWhile (· ≠ '?')).drop 1)

/-- The request that the gateway looks at. -/
def WireRequest.raw (request : WireRequest) : RawRequest :=
  let (path, query) := splitTarget request.target
  ⟨request.method, String.ofList path, String.ofList query, .bytes request.body⟩

section Bodies

/-- The bytes of a text. -/
def encodeText (text : List Char) : List UInt8 := text.flatMap String.utf8EncodeChar

/-- An object whose keys are strings. -/
def Json.record (fields : List (String × Json)) : Json :=
  .object (fields.map fun (name, value) => (codePoints name, value))

/-- A string as JSON. -/
def Json.string (text : String) : Json := .text (codePoints text)

/-- How the programs write JSON unless told otherwise: everything beyond ASCII by its number. -/
def Json.defaultStyle : Json.Style := ⟨true, fun point => decide (0x7E < point), fun _ => []⟩

/-- How the framework writes its answers. -/
def Json.rendererStyle : Json.Style :=
  ⟨false, fun point => decide (point = 0x2028 ∨ point = 0x2029), fun _ => []⟩

/-- The text without a point at its end, and without the zeros and the blanks behind it. -/
def withoutFraction (text : List Char) : List Char :=
  match (text.reverse.dropWhile isSpace).dropWhile (· = '0') with
  -- Only a point that zeros may follow is taken off.
  | '.' :: whole => whole.reverse
  | _ => text

/-- The longest text that an integer field looks at. -/
def maxIntegerText : Nat := 1000

variable (prints : Json → CodePoints)

/-- The text of a value, as a string. -/
def printedString (value : Json) : String := String.ofList (value.printed prints).characters

/-- A value as a text field reads it; halves of surrogate pairs are refused. -/
def textInput : Option Json → Field String
  | none => .missing
  | some .null => .null
  | some (.text value) =>
    if value.isEncodable then .given (String.ofList value.characters)
    else .invalid (String.ofList value.characters)
  | some (.integer value) => .given (toString value)
  | some (.float value) => .given (printedString prints (.float value))
  | some other => .invalid (printedString prints other)

/-- A value as a field of choices reads it. -/
def choiceInput : Option Json → Field String
  | none => .missing
  | some .null => .null
  | some value => .given (printedString prints value)

/-- A value as an integer field reads it: through its text, from which a zero fraction is taken. -/
def integerInput : Option Json → Field Int
  | none => .missing
  | some .null => .null
  | some (.integer value) => .given value
  | some value =>
    let text := (value.printed prints).characters
    -- Texts that are too long are refused before they are read.
    if maxIntegerText < text.length then .invalid (String.ofList text)
    else
      match integerIn? (withoutFraction text) with
      | some number => .given number
      | none => .invalid (String.ofList text)

/-- A choice that is refused is shown in the refusal, which then has to be encoded. -/
def isShowable : Option Json → Bool
  | none => true
  | some value => (value.printed prints).isEncodable

/-- The body of an order, as far as the framework can read it. -/
def orderData (nesting : Nat) (body : List UInt8) : OrderData :=
  if body = [] then .given ⟨.missing, .missing, .missing, .missing, .missing⟩
  else
  match Utf8.strict? body with
  | none => .unreadable 400 "JSON parse error"
  | some text =>
    -- The framework's parser takes none of the constants that stand for no number.
    match Json.loadsWith true nesting text with
    | .ok (.object fields) =>
      if isShowable prints (Json.field? fields "side") then
        .given {
          userId := textInput prints (Json.field? fields "user_id")
          symbol := textInput prints (Json.field? fields "symbol")
          side := choiceInput prints (Json.field? fields "side")
          price := integerInput prints (Json.field? fields "price")
          qty := integerInput prints (Json.field? fields "qty") }
      else .unreadable 500 "Server Error (500)"
    | .ok _ => .unreadable 400 "Invalid data. Expected a dictionary."
    | .error .nestedTooDeep => .unreadable 500 "Server Error (500)"
    | .error _ => .unreadable 400 "JSON parse error"

end Bodies

/-- The number that hexadecimal digits stand for. -/
def hexNumber (digits : List Char) : Nat :=
  digits.foldl (fun number digit => 16 * number + Json.hexValue digit) 0

/-- The identifier that a text stands for, whose dashes do not count. -/
def uuidOf (text : String) : UUID := BitVec.ofNat 128 (hexNumber (text.toList.filter (· ≠ '-')))

/-- The value of a limit in a query. -/
def limitInput (query : List (String × String)) : Field Int :=
  match queryGet query "limit" with
  | none => .missing
  | some value =>
    if maxIntegerText < value.length then .invalid value
    else
      match integerIn? (withoutFraction value.toList) with
      | some number => .given number
      | none => .invalid value

/-- The request that a matcher's view gets, if it is one about orders, books, or trades. -/
def viewRequest (nesting : Nat) (prints : Json → CodePoints) (orderId : UUID)
    (request : WireRequest) : Option Request :=
  let (path, query) := splitTarget request.target
  let parameters := Query.parse (String.ofList query)
  match (serverPath path).bind resolve with
  | some .createOrder =>
    if request.method = "POST" then some (.createOrder (orderData prints nesting request.body) orderId)
    else none
  | some (.cancelOrder text) =>
    if request.method = "DELETE" then
      some (.cancelOrder (uuidOf text) (queryGet parameters "symbol"))
    else none
  | some (.bookDetail symbol) =>
    if request.method = "GET" then some (.bookDetail symbol) else none
  | some .recentTradeList =>
    if request.method = "GET" then
      some (.recentTradeList (ClientRequest.queryField parameters "symbol") (limitInput parameters))
    else none
  | _ => none

section Payloads

/-- An identifier as JSON. -/
def uuidJson (orderId : UUID) : Json := .string (String.ofList (uuidText orderId))

/-- A trade with the texts of its identifier and of its time. -/
def tradePayload (stamp : String × String) (trade : Trade) : Json :=
  .record [("trade_id", .string stamp.1), ("symbol", .string trade.symbol),
    ("executed_at", .string stamp.2), ("price", .integer trade.price),
    ("qty", .integer trade.quantity), ("buy_order_id", uuidJson trade.buyOrderId),
    ("sell_order_id", uuidJson trade.sellOrderId)]

/-- Trades in their order, with the stamps of their places. -/
def tradePayloads (stamps : Nat → String × String) (trades : List Trade) : Json :=
  .array (trades.zipIdx.map fun (trade, place) => tradePayload (stamps place) trade)

/-- What an order has led to, with the stamps of its trades. -/
def matchResultPayload (stamps : Nat → String × String) (result : MatchResult) : Json :=
  .record [("order_id", uuidJson result.orderId), ("trades", tradePayloads stamps result.trades),
    ("remaining_qty", .integer result.remainingQuantity)]

/-- A level of a book. -/
def levelPayload (level : BookLevel) : Json :=
  .record [("price", .integer level.price), ("qty", .integer level.quantity)]

/-- The levels of a book. -/
def snapshotPayload (snapshot : BookSnapshot) : Json :=
  .record [("symbol", .string snapshot.symbol), ("bids", .array (snapshot.bids.map levelPayload)),
    ("asks", .array (snapshot.asks.map levelPayload))]

namespace ResponseBody

/-- What the framework renders of an answer of the views that is no refusal. -/
def payload? (stamps : Nat → String × String) : ResponseBody → Option Json
  | .matchResult result => some (matchResultPayload stamps result)
  | .snapshot shown => some (snapshotPayload shown)
  | .tape symbol trades =>
    some (.record [("symbol", .string symbol), ("trades", tradePayloads stamps trades)])
  | .canceled orderId status canceledQty =>
    some (.record [("order_id", uuidJson orderId), ("status", .string status),
      ("canceled_qty", .integer canceledQty)])
  | .detail _ | .errors _ => none

/-- The numbers in an answer. -/
def integers : ResponseBody → List Int
  | .matchResult result =>
    result.remainingQuantity :: result.trades.flatMap fun trade => [trade.price, trade.quantity]
  | .snapshot shown =>
    (shown.bids ++ shown.asks).flatMap fun level => [level.price, level.quantity]
  | .tape _ trades => trades.flatMap fun trade => [trade.price, trade.quantity]
  | .canceled _ _ canceledQty => [canceledQty]
  | _ => []

/-- Every number in an answer can be written. -/
def isWritable (body : ResponseBody) : Bool :=
  body.integers.all fun value => !isUnwritable value

end ResponseBody

/--
What a matcher adds to its answers: stamps for new trades, and the bytes of refusals and failures.

Those bytes are the framework's, and depend on its language.
-/
structure Rendering where
  stamps : Nat → String × String
  refusal : ResponseBody → List UInt8

/-- An answer as bytes; one with a number that cannot be written ends with the server's own error. -/
def Response.transport (rendering : Rendering) (response : Response) :
    BackendApiClient.Transport :=
  if response.body.isWritable then
    match response.body.payload? rendering.stamps with
    | some payload =>
      .response response.status (encodeText (Json.write Json.rendererStyle payload))
    | none => .response response.status (rendering.refusal response.body)
  else .response 500 (rendering.refusal serverError.body)

/-- An error that the gateway answers itself. -/
def writeError (status : Nat) (detail : String) : BackendApiClient.Transport :=
  .response status (encodeText (Json.write Json.defaultStyle (.record [("detail", .string detail)])))

end Payloads

/-- What the world adds to a request: the clocks, a new identifier, and how it is answered. -/
structure WireNature where
  clock : Readings
  orderId : UUID
  rendering : Rendering

/-- What becomes of a request: an answer, a dropped connection, or a view that is not about books. -/
inductive WireAnswer where
  | answered (transport : BackendApiClient.Transport)
  | dropped
  | elsewhere

/-- The interpreters of gateway and matchers: how deep JSON may nest, and how values print. -/
structure WireInterpreter where
  nesting : Nat
  prints : Json → CodePoints

namespace Cluster

variable (settings : ClusterSettings) (python : WireInterpreter)

/-- A matcher answers a request that the gateway has routed to it. -/
def answerAt (cluster : Cluster settings) (shard : Fin settings.shardCount) (nature : WireNature)
    (request : WireRequest) : Except Fault (Cluster settings × WireAnswer) := do
  match viewRequest python.nesting python.prints nature.orderId request with
  -- Another view of the matcher is asked.
  | none => return (cluster, .elsewhere)
  | some view =>
    let (registry, response) ← (cluster shard).handle (settings.matcher shard) nature.clock view
    return (Function.update cluster shard registry, .answered (response.transport nature.rendering))

/-- The gateway reads a request, and forwards it to the matcher that it routes it to. -/
def answerWire (cluster : Cluster settings) (turn : WireNature × WireRequest) :
    Except Fault (Cluster settings × WireAnswer) :=
  match routeRawRequest python.nesting python.prints turn.2.raw settings.tickers
    settings.shardCount with
  | .error (.routingError status detail) => .ok (cluster, .answered (writeError status detail))
  -- An exception that is not answered ends the connection.
  | .error _ => .ok (cluster, .dropped)
  | .ok route =>
    if inside : route.shardIndex < settings.shardCount then
      answerAt settings python cluster ⟨route.shardIndex, inside⟩ turn.1 turn.2
    else .ok (cluster, .answered (writeError 502 "matcher is unavailable"))

/-- Answer requests one at a time. -/
def serveWire (cluster : Cluster settings) (turns : List (WireNature × WireRequest)) :
    Except Fault (Cluster settings × List WireAnswer) :=
  Machine.run (answerWire settings python) cluster turns

end Cluster

end StockMarket
