import StockMarket.Deployment.SymbolAgreement
import StockMarket.Library.Machine
import StockMarket.Matcher.Desk

/-! The deployment: one gateway in front of the matcher processes, each with a share of the books. -/

namespace StockMarket

/-- What gateway and matchers have in common. -/
structure ClusterSettings where
  tickers : List String
  shardCount : Nat
  maxAgeSeconds : ℚ
  mode : MarketMode
  shardCount_pos : 1 ≤ shardCount
  maxAge_nonneg : 0 ≤ maxAgeSeconds

/-- The settings of the matcher with an index. -/
def ClusterSettings.matcher (settings : ClusterSettings) (shard : Fin settings.shardCount) :
    MatcherSettings where
  tickers := settings.tickers
  shardIndex := shard
  shardCount := settings.shardCount
  maxAgeSeconds := settings.maxAgeSeconds
  mode := settings.mode
  shard_inside := shard.isLt
  maxAge_nonneg := settings.maxAge_nonneg

/--
What clients send through the gateway.

An order names its symbol in the body; its other fields are as the framework reads them, and its
identifier is the one that the matcher gives to it.
-/
inductive ClientRequest where
  | createOrder (payload : Dict String JsonValue) (userId side : Field String)
      (price qty : Field Int) (orderId : UUID)
  | cancelOrder (orderId : UUID) (query : List (String × String))
  | bookDetail (symbol : String)
  | recentTradeList (query : List (String × String)) (limit : Field Int)

namespace ClientRequest

/-- The request as it arrives at the gateway. -/
def http : ClientRequest → HttpRequest
  | createOrder payload _ _ _ _ _ => .createOrder (.object payload)
  | cancelOrder orderId query => .cancelOrder orderId query
  | bookDetail symbol => .bookDetail symbol
  | recentTradeList query _ => .recentTradeList query

/-- A parameter of the query as a field. -/
def queryField (query : List (String × String)) (name : String) : Field String :=
  match queryGet query name with
  | some value => .given value
  | none => .missing

/-- The request as the matcher's view receives it. -/
def view : ClientRequest → Request
  | createOrder payload userId side price qty orderId =>
    .createOrder (.given ⟨userId, textField (payload.get? "symbol"), side, price, qty⟩) orderId
  | cancelOrder orderId query => .cancelOrder orderId (queryGet query "symbol")
  | bookDetail symbol => .bookDetail symbol
  | recentTradeList query limit => .recentTradeList (queryField query "symbol") limit

/-- The request names a symbol, and says nothing else in its place. -/
def Names (symbol : String) : ClientRequest → Prop
  | createOrder payload _ _ _ _ _ => payload.get? "symbol" = some (.text symbol)
  | cancelOrder _ query | recentTradeList query _ =>
    queryFirst query "symbol" = some symbol ∧ queryGet query "symbol" = some symbol
  | bookDetail named => named = symbol

end ClientRequest

/-- The books of all matchers. -/
abbrev Cluster (settings : ClusterSettings) := Fin settings.shardCount → Registry

namespace Cluster

variable (settings : ClusterSettings)

/-- No matcher has any book yet. -/
def start : Cluster settings := fun _ => .new

/-- What a client is answered: by a matcher, or by the gateway itself. -/
abbrev GatewayAnswer := Except RoutingFailure Response

/-- The gateway forwards a request to the matcher that it routes it to. -/
def handle (cluster : Cluster settings) (request : Readings × ClientRequest) :
    Except Fault (Cluster settings × GatewayAnswer) := do
  match routeRequest request.2.http settings.tickers settings.shardCount with
  | .error failure => return (cluster, .error failure)
  | .ok route =>
    if inside : route.shardIndex < settings.shardCount then
      let shard : Fin settings.shardCount := ⟨route.shardIndex, inside⟩
      let (registry, response) ←
        (cluster shard).handle (settings.matcher shard) request.1 request.2.view
      return (Function.update cluster shard registry, .ok response)
    else return (cluster, .error (.routingError 502 "matcher is unavailable"))

/-- The answers to a sequence of requests, and what they leave behind. -/
def run (cluster : Cluster settings) (requests : List (Readings × ClientRequest)) :
    Except Fault (Cluster settings × List GatewayAnswer) :=
  Machine.run (handle settings) cluster requests

/-- The identifiers that a sequence of requests introduces. -/
def newIds (requests : List (Readings × ClientRequest)) : List UUID :=
  requests.flatMap fun request => request.2.view.newIds

/-- An order rests in the book of some symbol at a matcher. -/
def RestsAt {settings : ClusterSettings} (cluster : Cluster settings)
    (shard : Fin settings.shardCount) (orderId : UUID) : Prop :=
  ∃ symbol book, (cluster shard).bookOf symbol = some book ∧ orderId ∈ book.plain.ids

end Cluster

end StockMarket
