import StockMarket.Deployment.Sharding
import StockMarket.Library.Dict
import StockMarket.Library.Text

/-! The gateway's choice of the matcher shard that receives an inbound request. -/

namespace StockMarket

/-- The methods that the gateway serves. -/
inductive Method where
  | get
  | post
  | delete
  | patch
  deriving DecidableEq

/-- JSON values; floats, arrays, and objects are known by how they print. -/
inductive JsonValue where
  | null
  | bool (value : Bool)
  | integer (value : Int)
  | float (printed : String)
  | text (value : String)
  | container (printed : String) (nonempty : Bool)

/-- Whether a value counts as true. -/
def JsonValue.truthy : JsonValue → Bool
  | .null => false
  | .bool value => value
  | .integer value => value ≠ 0
  -- Both zeros are false, and every other number is true, `nan` too.
  | .float printed => printed ≠ "0.0" ∧ printed ≠ "-0.0"
  | .text value => value ≠ ""
  | .container _ nonempty => nonempty

/-- The text that a value prints as. -/
def JsonValue.printed : JsonValue → String
  | .null => "None"
  | .bool value => if value then "True" else "False"
  | .integer value => toString value
  | .float printed => printed
  | .text value => value
  | .container printed _ => printed

/-- A request body, decoded as far as it can be. -/
inductive Body where
  | absent
  | undecodable
  | malformed
  | value
  | object (payload : Dict String JsonValue)

/-- A request as it arrives, with the query already split into names and values. -/
structure HttpRequest where
  method : Method
  path : String
  query : List (String × String)
  body : Body

/-- Exceptions of the routing; only the first one is answered. -/
inductive RoutingFailure where
  | routingError (status : Nat) (detail : String)
  | valueError
  deriving DecidableEq

/-- Where a request goes: its shard, its symbol, and its path there if that differs. -/
structure Route where
  shardIndex : Nat
  symbol : Option String
  upstreamPath : Option String
  deriving DecidableEq

namespace Path

/-- What follows a literal beginning. -/
def after? (literal : String) (path : List Char) : Option (List Char) :=
  if literal.toList.isPrefixOf path then some (path.drop literal.toList.length) else none

/-- The end of a text, before a newline that may close it. -/
def atEnd (rest : List Char) : Bool := rest = [] ∨ rest = ['\n']

/-- The end of a text, after an optional slash. -/
def ends : List Char → Bool
  | '/' :: rest => atEnd rest
  | rest => atEnd rest

/-- One or more characters of a class, and then the end. -/
def runThenEnd (test : Char → Bool) (rest : List Char) : Option (List Char) :=
  if rest.takeWhile test ≠ [] ∧ ends (rest.dropWhile test) then some (rest.takeWhile test) else none

/-- A character of an identifier. -/
def isHexOrDash (c : Char) : Bool := isHexDigit c || c = '-'

/-- A literal path with an optional slash. -/
def isLiteral (literal : String) (path : List Char) : Bool :=
  match after? literal path with
  | some rest => ends rest
  | none => false

/-- The symbol in a book path. -/
def book? (path : List Char) : Option (List Char) :=
  match after? "/api/v1/books/" path with
  | some rest =>
    -- The symbol of a book is six digits.
    if (rest.take 6).length = 6 ∧ (rest.take 6).all isDecimal ∧ ends (rest.drop 6) then
      some (rest.take 6)
    else none
  | none => none

/-- The path of orders, with or without a slash at its end. -/
def isOrderCreate : List Char → Bool := isLiteral "/api/v1/orders"

/-- The path of one order. -/
def isOrderCancel (path : List Char) : Bool :=
  match after? "/api/v1/orders/" path with
  | some rest => (runThenEnd isHexOrDash rest).isSome
  | none => false

/-- The path of trades. -/
def isTrades : List Char → Bool := isLiteral "/api/v1/trades"

/-- The digits in a shard's metrics path. -/
def metricsShard? (path : List Char) : Option (List Char) :=
  (after? "/metrics/" path).bind (runThenEnd isDecimal)

/-- The digits in a shard's readiness path. -/
def readyShard? (path : List Char) : Option (List Char) :=
  (after? "/api/v1/ready/" path).bind (runThenEnd isDecimal)

/-- The path of an acknowledgement, whose event identifier is anything without a slash. -/
def isEventAck (path : List Char) : Bool :=
  match after? "/api/v1/events/" path with
  | some rest => rest.takeWhile (· ≠ '/') ≠ [] ∧ isLiteral "/ack" (rest.dropWhile (· ≠ '/'))
  | none => false

/-- The paths of trader profiles. -/
def isTraders (path : List Char) : Bool :=
  match after? "/api/v1/traders" path with
  | some rest =>
    ends rest ||
      match rest with
      | '/' :: rest => (runThenEnd isHexOrDash rest).isSome
      | _ => false
  | none => false

/-- Paths that always go to the first shard. -/
def isDefaultShard (path : List Char) : Bool :=
  isLiteral "/api/v1/health" path || isLiteral "/api/v1/events" path ||
    isLiteral "/api/v1/events/pending" path || isEventAck path || isLiteral "/api/v1/ready" path ||
    isLiteral "/api/v1/symbols" path || isTraders path || isLiteral "/metrics" path

end Path

/-- The number of a shard, if there is such a shard. -/
def requireShardIndex (raw : List Char) (shardCount : Nat) : Except RoutingFailure Nat :=
  -- A number of too many digits is not read at all.
  if maxIntegerDigits < raw.length then .error .valueError
  else if decimalNumber raw < shardCount then .ok (decimalNumber raw)
  else .error (.routingError 404 "unknown matcher shard")

/-- The route of a request that names a shard itself. -/
def routeForIndexedShard (method : Method) (path : List Char) (shardCount : Nat) :
    Except RoutingFailure (Option Route) :=
  if method ≠ .get then .ok none
  else
    match Path.metricsShard? path with
    -- The matcher serves its own metrics under another path.
    | some raw => do return some ⟨← requireShardIndex raw shardCount, none, some "/metrics/"⟩
    | none =>
      match Path.readyShard? path with
      | some raw => do return some ⟨← requireShardIndex raw shardCount, none, some "/api/v1/ready/"⟩
      | none => .ok none

/-- The first `symbol` of the query, stripped. -/
def requiredQuerySymbol (query : List (String × String)) : Except RoutingFailure String :=
  let symbol := ((query.find? fun item => item.1 = "symbol").map fun item => strip item.2).getD ""
  -- A symbol of blanks is as good as none.
  if symbol = "" then .error (.routingError 400 "symbol is required") else .ok symbol

/-- The symbol in the body of an order. -/
def symbolFromOrderBody : Body → Except RoutingFailure String
  | .absent => .error (.routingError 400 "order body is required")
  | .undecodable => .error .valueError
  | .malformed => .error (.routingError 400 "order body must be JSON")
  | .value => .error (.routingError 400 "order body must be an object")
  | .object payload =>
    let value := (payload.get? "symbol").getD .null
    -- A value that counts as false stands for no symbol, and any other is printed.
    let symbol := strip (if value.truthy then value.printed else "")
    if symbol = "" then .error (.routingError 400 "symbol is required") else .ok symbol

/-- The symbol that a request is about, if it has to be about one. -/
def symbolFromRequest (request : HttpRequest) (path : List Char) : Except RoutingFailure String :=
  match request.method, Path.book? path with
  | .get, some symbol => .ok (String.ofList symbol)
  | .get, none =>
    if Path.isTrades path then requiredQuerySymbol request.query
    else .error (.routingError 404 "gateway route is not allowed")
  | .post, _ =>
    if Path.isOrderCreate path then symbolFromOrderBody request.body
    else .error (.routingError 404 "gateway route is not allowed")
  | .delete, _ =>
    if Path.isOrderCancel path then requiredQuerySymbol request.query
    else .error (.routingError 404 "gateway route is not allowed")
  | .patch, _ => .error (.routingError 404 "gateway route is not allowed")

/-- The path of a request, which starts with a slash. -/
def HttpRequest.normalizedPath (request : HttpRequest) : List Char :=
  if request.path.toList.head? = some '/' then request.path.toList else '/' :: request.path.toList

/-- The matcher shard for a request. -/
def routeRequest (request : HttpRequest) (tickers : List String) (shardCount : Nat) :
    Except RoutingFailure Route := do
  if shardCount < 1 then throw (.routingError 500 "shard_count must be at least 1")
  let path := request.normalizedPath
  match ← routeForIndexedShard request.method path shardCount with
  | some route => return route
  | none =>
    -- The paths that name no symbol come before those that must.
    if Path.isDefaultShard path then return ⟨0, none, none⟩
    let symbol ← symbolFromRequest request path
    match shardForTicker tickers symbol shardCount with
    -- Only a symbol of the universe has a shard.
    | none => throw (.routingError 400 "symbol is not in the current simulation set")
    | some shard => return ⟨shard, some symbol, none⟩

end StockMarket
