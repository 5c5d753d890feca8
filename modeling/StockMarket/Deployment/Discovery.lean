import StockMarket.Deployment.Wire
import StockMarket.Library.Decimal

/-! Service discovery: what the gateway tells a scraper about the metrics of the matchers. -/

namespace StockMarket

/-- The exceptions of service discovery, of which all are value errors. -/
inductive DiscoveryError where
  | valueError (message : String)
  | notAnInteger
  deriving DecidableEq

/-- The name in a `Host` header, without its port. -/
def advertisedHostname (hostHeader : String) : Except DiscoveryError (List Char) :=
  let host := (strip hostHeader).toList
  if host = [] then .error (.valueError "host header is required")
  else if host.head? = some '[' then
    if ']' ∈ host then .ok ((host.drop 1).takeWhile (· ≠ ']'))
    else .error (.valueError "invalid IPv6 host header")
  else if host.count ':' = 1 then .ok (host.takeWhile (· ≠ ':'))
  else .ok host

/-- The port that digits stand for, inside the range of ports. -/
def parsePort (raw : List Char) : Except DiscoveryError Nat :=
  match integerIn? raw with
  | none => .error .notAnInteger
  | some port =>
    if port < 1 then .error (.valueError "port must be at least 1") else .ok port.toNat

/-- The port in a `Host` header, or the default one. -/
def portFromHostHeader (hostHeader : String) (defaultPort : Nat) : Except DiscoveryError Nat :=
  let host := (strip hostHeader).toList
  if host.head? = some '[' then
    if ']' ∈ host then
      let rest := (host.dropWhile (· ≠ ']')).drop 1
      if rest.head? = some ':' then parsePort (rest.drop 1) else .ok defaultPort
    else .error (.valueError "invalid IPv6 host header")
  else if host.count ':' = 1 then parsePort ((host.dropWhile (· ≠ ':')).drop 1)
  else .ok defaultPort

/-- A name and a port; a name with colons in it stands between brackets. -/
def hostAndPort (hostname : List Char) (port : Nat) : List Char :=
  (if ':' ∈ hostname then '[' :: hostname ++ [']'] else hostname) ++ ':' :: decimalDigits port

/-- The target that a scraper is told for a `Host` header. -/
def advertisedScrapeTarget (hostHeader : String) (defaultPort : Nat) :
    Except DiscoveryError String := do
  if defaultPort < 1 then throw (.valueError "default_port must be at least 1")
  let hostname ← advertisedHostname hostHeader
  let port ← portFromHostHeader hostHeader defaultPort
  return String.ofList (hostAndPort hostname port)

/-- One target of a scraper, with the path and the shard that it is labelled with. -/
structure ScrapeTarget where
  target : String
  matcherShard : String
  metricsPath : String
  deriving DecidableEq

/-- The target of a shard: the public entry, with the path that leads to the shard from there. -/
def ScrapeTarget.ofShard (target : String) (index : Nat) : ScrapeTarget :=
  let digits := String.ofList (decimalDigits index)
  ⟨target, digits, "/metrics/" ++ digits ++ "/"⟩

/-- The scrape targets of all matchers, behind one address. -/
def prometheusSdTargets (target : String) (shardCount : Nat) :
    Except DiscoveryError (List ScrapeTarget) :=
  if isBlank target then .error (.valueError "target is required")
  else if shardCount < 1 then .error (.valueError "shard_count must be at least 1")
  else .ok ((List.range shardCount).map (ScrapeTarget.ofShard target))

/-- A scrape target as Prometheus reads it. -/
def ScrapeTarget.payload (scrape : ScrapeTarget) : Json :=
  .record [("targets", .array [.string scrape.target]),
    ("labels", .record [("matcher_shard", .string scrape.matcherShard),
      ("__metrics_path__", .string scrape.metricsPath)])]

/-- The body of an error that the gateway answers itself. -/
def errorPayload (detail : String) : List UInt8 :=
  encodeText (Json.write Json.defaultStyle (.record [("detail", .string detail)]))

/-- The status and the body of the answer to a scraper; only an error about the header is answered. -/
def serviceDiscovery (hostHeader : String) (publicPort shardCount : Nat) :
    Except DiscoveryError (Nat × List UInt8) :=
  match advertisedScrapeTarget hostHeader publicPort with
  | .error _ => .ok (400, errorPayload "host header is required")
  | .ok target => do
    let targets ← prometheusSdTargets target shardCount
    return (200, encodeText (Json.write Json.defaultStyle (.array (targets.map ScrapeTarget.payload))))

/-- The port that a matcher listens at. -/
def matcherListenPort (shardIndex firstPort : Nat) : Except DiscoveryError Nat :=
  if firstPort < 1 then .error (.valueError "first_port must be at least 1")
  else .ok (firstPort + shardIndex)

end StockMarket
