import StockMarket.Deployment.Wire
import StockMarket.Participants.Traders
import StockMarket.Profiles.Store

/-! How a runner builds its traders from the profiles and the shards that the API answers. -/

namespace StockMarket

/-- Construct settings, with the checks in their order. -/
def TraderSettings.create (userId symbol strategy : String) (referencePrice priceStep maxOffsetSteps
    quantityMin quantityMax orderTtlSeconds intervalSeconds seed : Int) :
    Except ValueError TraderSettings :=
  let blank := .error ⟨"user_id and symbol must not be blank"⟩
  let unpriced := .error ⟨"reference_price and price_step must be positive"⟩
  let unranged := .error ⟨"quantity range is invalid"⟩
  let momentary := .error ⟨"ttl and interval must be at least 1"⟩
  match supportedStrategies.find? fun supported => supported.1 = strategy with
  | none => .error ⟨"unsupported strategy: " ++ strategy⟩
  | some supported =>
    if userId_present : isBlank userId = false then
      if symbol_present : isBlank symbol = false then
        if referencePrice_pos : 1 ≤ referencePrice then
          if priceStep_pos : 1 ≤ priceStep then
            if maxOffsetSteps_nonneg : 0 ≤ maxOffsetSteps then
              if quantityMin_pos : 1 ≤ quantityMin then
                if quantity_range : quantityMin ≤ quantityMax then
                  if orderTtlSeconds_pos : 1 ≤ orderTtlSeconds then
                    if intervalSeconds_pos : 1 ≤ intervalSeconds then
                      .ok {
                        userId, symbol, strategy := supported.2, referencePrice, priceStep,
                        maxOffsetSteps, quantityMin, quantityMax, orderTtlSeconds, intervalSeconds,
                        seed, userId_present, symbol_present, referencePrice_pos, priceStep_pos,
                        maxOffsetSteps_nonneg, quantityMin_pos, quantity_range,
                        orderTtlSeconds_pos, intervalSeconds_pos }
                    else momentary
                  else momentary
                else unranged
              else unranged
            else .error ⟨"max_offset_steps must not be negative"⟩
          else unpriced
        else unpriced
      else blank
    else blank

/-- What building traders raises; a runner only handles the first kind. -/
inductive ProfilesException where
  | invalidTraderProfileError (message : String)
  | attributeError
  | typeError
  | overflowError
  deriving DecidableEq

/-- Which of the profiles a runner takes. -/
structure ProfileSelection where
  traderIds : List String
  traderStrategies : List String
  maxTraders : Option Nat
  runnerShardIndex : Option Int

section Build

variable {G : Type} (source : RandomSource G) (prints : Json → CodePoints)

/-- A field of a profile, which is nothing when it is missing; only objects have fields. -/
def profileField (profile : Json) (name : String) : Except ProfilesException Json :=
  match profile with
  | .object fields => .ok ((Json.field? fields name).getD .null)
  | _ => .error .attributeError

/-- The strategy of a profile is among those that are selected; a container is no strategy at all. -/
def strategyIn (strategies : List String) : Json → Except ProfilesException Bool
  | .text value => .ok ((strategies.map codePoints).contains value)
  -- A container cannot be looked up in a set of strategies.
  | .array _ | .object _ => .error .typeError
  | _ => .ok false

namespace ProfileSelection

variable (selection : ProfileSelection)

/-- A profile is enabled, and it has an identifier and a strategy that are selected. -/
def selects (profile : Json) : Except ProfilesException Bool := do
  if ¬ (← profileField profile "enabled").truthy then return false
  -- No selected identifiers means that every identifier is.
  else if selection.traderIds ≠ [] ∧ ¬ (selection.traderIds.map codePoints).contains
      ((← profileField profile "id").printed prints) then
    return false
  else if selection.traderStrategies = [] then return true
  else strategyIn selection.traderStrategies (← profileField profile "strategy")

/-- The profiles that are selected, in their order. -/
def selected : List Json → Except ProfilesException (List Json)
  | [] => return []
  | profile :: profiles => do
    if ← selection.selects prints profile then return profile :: (← selected profiles)
    else selected profiles

/-- Every selected identifier is that of a selected profile. -/
def requireFound (profiles : List Json) : Except ProfilesException Unit := do
  if selection.traderIds = [] then return ()
  else
    -- An identifier that is missing, or whose profile is disabled, refuses the start.
    let found ← profiles.mapM fun profile => return (← profileField profile "id").printed prints
    if selection.traderIds.all (fun traderId => found.contains (codePoints traderId)) &&
        found.all fun id => (selection.traderIds.map codePoints).contains id then return ()
    else throw (.invalidTraderProfileError "each selected trader must exist and be enabled")

/-- The shard that a profile's symbol is assigned to, if it is assigned to one. -/
def shardOf (symbolShards : Dict CodePoints Int) (profile : Json) :
    Except ProfilesException (Option Int) :=
  return symbolShards.get? ((← profileField profile "symbol").printed prints)

/-- The profiles whose symbols are assigned to a shard. -/
def ofShard (symbolShards : Dict CodePoints Int) (index : Int) :
    List Json → Except ProfilesException (List Json)
  | [] => return []
  | profile :: profiles => do
    if (← shardOf prints symbolShards profile) = some index then
      return profile :: (← ofShard symbolShards index profiles)
    else ofShard symbolShards index profiles

/-- A sharded runner keeps the profiles of its shard, for which it needs to know the shards. -/
def keepShard (symbolShards : Dict CodePoints Int) (profiles : List Json) :
    Except ProfilesException (List Json) :=
  match selection.runnerShardIndex with
  | none => .ok profiles
  | some index =>
    -- A sharded runner does not start without knowing any shards.
    if symbolShards.items = [] then
      .error (.invalidTraderProfileError
        "RUNNER_SHARD_INDEX requires matcher_shard values from /api/v1/symbols/")
    else ofShard prints symbolShards index profiles

/-- The first profiles, when there is a largest number of them. -/
def limit {α : Type} (profiles : List α) : List α :=
  match selection.maxTraders with
  | none => profiles
  | some most => profiles.take most

end ProfileSelection

open BackendApiClient in
/-- The settings in a profile. -/
def traderSettings (profile : Json) : Except ClientException TraderSettings := do
  let text (name : String) : Except ClientException String :=
    return printedString prints (← subscript profile name)
  let number (name : String) : Except ClientException Int := do toInt (← subscript profile name)
  let userId ← text "user_id"
  let symbol ← text "symbol"
  let strategy ← text "strategy"
  let referencePrice ← number "reference_price"
  let priceStep ← number "price_step"
  let maxOffsetSteps ← number "max_offset_steps"
  let quantityMin ← number "quantity_min"
  let quantityMax ← number "quantity_max"
  let orderTtlSeconds ← number "order_ttl_seconds"
  let intervalSeconds ← number "interval_seconds"
  let seed ← number "seed"
  (TraderSettings.create userId symbol strategy referencePrice priceStep maxOffsetSteps quantityMin
    quantityMax orderTtlSeconds intervalSeconds seed).mapError fun _ => .valueError

open BackendApiClient in
/-- The trader of a profile. -/
def participant (tickIntervalMs : Int) (profile : Json) :
    Except ClientException (TradingParticipant G) := do
  let settings ← traderSettings prints profile
  (buildTrader source settings tickIntervalMs).mapError fun _ => .valueError

open BackendApiClient in
/-- Errors of keys, types, and values in a profile are its own; a number may also be infinite. -/
def ProfilesException.ofProfile (exception : ClientException) : ProfilesException :=
  if exception.isShapeError then .invalidTraderProfileError "trader profile has invalid settings"
  else .overflowError

/-- Build the traders of the profiles that are selected. -/
def buildParticipants (selection : ProfileSelection) (symbolShards : Dict CodePoints Int)
    (tickIntervalMs : Int) (profiles : List Json) :
    Except ProfilesException (List (TradingParticipant G)) := do
  let chosen ← selection.selected prints profiles
  selection.requireFound prints chosen
  let kept ← selection.keepShard prints symbolShards chosen
  ((selection.limit kept).mapM (participant source prints tickIntervalMs)).mapError .ofProfile

end Build

namespace BackendApiClient

variable (python : Interpreter)

/-- Where the profiles are read. -/
def tradersPath : CodePoints := codePoints "/api/v1/traders/"

/-- Where the universe is read. -/
def symbolsPath : CodePoints := codePoints "/api/v1/symbols/?limit=100"

/-- Read the profiles. -/
def fetchTraderProfiles (transport : Transport) : Except ClientException (List Json) := do
  match ← request python tradersPath transport with
  | .array profiles => return profiles
  | _ => throw (.detailed "trader profile response must be a list")

/-- The shards after one more item; an item outside the simulation or without a shard adds none. -/
def addShard (shards : Dict CodePoints Int) (item : Json) :
    Except ClientException (Dict CodePoints Int) :=
  match item with
  | .object fields =>
    if ¬ ((Json.field? fields "simulation_enabled").getD .null).truthy then return shards
    else do
      let ticker := (← subscript item "ticker").printed python.prints
      match (Json.field? fields "matcher_shard").getD .null with
      | .null => return shards
      | raw => return shards.set ticker (← toInt raw)
  | _ => return shards

/-- The shards in a response; errors in its items are not the client's own. -/
def matcherShards (payload : Json) : Except ClientException (Dict CodePoints Int) :=
  match payload with
  | .object fields =>
    match Json.field? fields "results" with
    | some (.array items) => items.foldlM (addShard python) .empty
    | _ => .error (.detailed "symbol response must include results")
  | _ => .error (.detailed "symbol response must include results")

/-- Read which matcher each symbol belongs to. -/
def fetchMatcherShards (transport : Transport) : Except ClientException (Dict CodePoints Int) := do
  matcherShards python (← request python symbolsPath transport)

end BackendApiClient

/-- What ends the start of a runner; it reports the client's own errors and those of profiles. -/
inductive StartException where
  | client (exception : BackendApiClient.ClientException)
  | profiles (exception : ProfilesException)
  deriving DecidableEq

section Start

variable {G : Type} (source : RandomSource G) (python : BackendApiClient.Interpreter)

/-- Build the traders of a runner, which asks for the shards only when it has one itself. -/
def loadParticipants (selection : ProfileSelection) (tickIntervalMs : Int)
    (symbols traders : BackendApiClient.Transport) :
    Except StartException (List (TradingParticipant G)) := do
  let symbolShards ← match selection.runnerShardIndex with
    -- A runner without a shard does not ask for the symbols.
    | none => pure .empty
    | some _ => (BackendApiClient.fetchMatcherShards python symbols).mapError .client
  let profiles ← (BackendApiClient.fetchTraderProfiles python traders).mapError .client
  (buildParticipants source python.prints selection symbolShards tickIntervalMs profiles).mapError
    .profiles

end Start

section Payloads

/-- The answer of the API about one profile; its times are written as the framework writes them. -/
def TraderProfile.payload (stamps : UUID → String × String) (profile : TraderProfile) : Json :=
  .record [("id", uuidJson profile.id), ("name", .string profile.name),
    ("user_id", .string profile.userId), ("strategy", .string profile.strategy.value),
    ("enabled", .bool profile.enabled), ("symbol", .string profile.symbol),
    ("reference_price", .integer profile.referencePrice), ("price_step", .integer profile.priceStep),
    ("max_offset_steps", .integer profile.maxOffsetSteps),
    ("quantity_min", .integer profile.quantityMin), ("quantity_max", .integer profile.quantityMax),
    ("order_ttl_seconds", .integer profile.orderTtlSeconds),
    ("interval_seconds", .integer profile.intervalSeconds), ("seed", .integer profile.seed),
    ("created_at", .string (stamps profile.id).1), ("updated_at", .string (stamps profile.id).2)]

/-- The answer that lists profiles. -/
def profilesTransport (stamps : UUID → String × String) (profiles : List TraderProfile) :
    BackendApiClient.Transport :=
  .response 200 (encodeText (Json.write Json.rendererStyle
    (.array (profiles.map (TraderProfile.payload stamps)))))

/-- What the tables say about a listed ticker, apart from its shard. -/
structure SymbolDetails where
  name : String
  market : String
  closePrice : Int
  volume : Int
  tradingValue : Int
  tradingValueRank : Int
  fits : ∀ amount ∈ [closePrice, volume, tradingValue, tradingValueRank],
    0 ≤ amount ∧ amount ≤ maxBigInteger

/-- A value that may be missing. -/
def nullable {α : Type} (write : α → Json) : Option α → Json
  | none => .null
  | some value => write value

/-- A symbol of the universe as the view renders it. -/
def ListedSymbol.payload (details : String → SymbolDetails) (item : ListedSymbol) : Json :=
  .record [("ticker", .string item.ticker), ("name", .string (details item.ticker).name),
    ("market", .string (details item.ticker).market),
    ("close_price", .integer (details item.ticker).closePrice),
    ("volume", .integer (details item.ticker).volume),
    ("trading_value", .integer (details item.ticker).tradingValue),
    ("trading_value_rank", .integer (details item.ticker).tradingValueRank),
    ("simulation_enabled", .bool item.simulationEnabled),
    ("matcher_shard", nullable (fun shard : Nat => .integer shard) item.matcherShard)]

/-- A list of symbols, with the text of its date. -/
def SymbolListing.payload (dated : Int → String) (details : String → SymbolDetails)
    (listing : SymbolListing) : Json :=
  .record [("trade_date", nullable (fun tradeDate => .string (dated tradeDate)) listing.tradeDate),
    ("results", .array (listing.results.map (ListedSymbol.payload details)))]

/-- The answer that lists symbols. -/
def SymbolListing.transport (dated : Int → String) (details : String → SymbolDetails)
    (listing : SymbolListing) : BackendApiClient.Transport :=
  .response 200 (encodeText (Json.write Json.rendererStyle (listing.payload dated details)))

end Payloads

end StockMarket
