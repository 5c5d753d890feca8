import StockMarket.Deployment.Sharding
import StockMarket.Matcher.MarketSession
import StockMarket.Matcher.Registry

/-! Order, cancel, book, and trade requests as one matcher process answers them. -/

namespace StockMarket

/-- The settings of a matcher process, past their checks, with the universe it has cached. -/
structure MatcherSettings where
  tickers : List String
  shardIndex : Nat
  shardCount : Nat
  maxAgeSeconds : ℚ
  mode : MarketMode
  shard_inside : shardIndex < shardCount
  maxAge_nonneg : 0 ≤ maxAgeSeconds

namespace MatcherSettings

/-- Whether a ticker is in the universe of the matcher. -/
def isSimulatedSymbol (settings : MatcherSettings) (ticker : String) : Bool :=
  ticker ∈ settings.tickers

/-- The tickers this process matches; the checked shard index always has a slice. -/
def owned (settings : MatcherSettings) : Ownership where
  tickers :=
    match ownedTickers settings.tickers settings.shardIndex settings.shardCount with
    | .ok owned => owned
    | .error _ => []
  maxAgeSeconds := settings.maxAgeSeconds

end MatcherSettings

/-- A field of a request once the framework has tried to read it at the declared type. -/
inductive Field (α : Type) where
  | missing
  | null
  | invalid (printed : String)
  | given (value : α)

/-- Messages about request fields, in the order of the fields. -/
abbrev FieldErrors := List (String × List String)

/-- Checks on a required text field: it is stripped, present, and not too long. -/
def charField (maxLength : Nat) : Field String → Except (List String) String
  | .missing => .error ["This field is required."]
  | .null => .error ["This field may not be null."]
  | .invalid _ => .error ["Not a valid string."]
  | .given value =>
    let value := strip value
    if value = "" then .error ["This field may not be blank."]
    else
      -- The remaining validators all run, and their messages are collected.
      let messages :=
        (if maxLength < value.length then
          ["Ensure this field has no more than " ++ toString maxLength ++ " characters."] else []) ++
        (if '\x00' ∈ value.toList then ["Null characters are not allowed."] else [])
      if messages = [] then .ok value else .error messages

/-- An accepted text field is its value without the white space around it. -/
theorem charField_eq {maxLength : Nat} {field : Field String} {read : String}
    (accepted : charField maxLength field = .ok read) : ∃ value, field = .given value ∧
      read = strip value ∧ strip value ≠ "" := by
  -- What is not blank is accepted without the blanks around it.
  cases field with
  | missing => cases accepted
  | null => cases accepted
  | invalid printed => cases accepted
  | given value =>
    unfold charField at accepted
    by_cases blank : strip value = ""
    · simp only [if_pos blank] at accepted
      cases accepted
    · simp only [if_neg blank] at accepted
      split_ifs at accepted
      all_goals
        cases accepted
        exact ⟨value, rfl, rfl, blank⟩

/-- Checks on the side of an order. -/
def sideField : Field String → Except (List String) OrderSide
  | .missing => .error ["This field is required."]
  | .null => .error ["This field may not be null."]
  | .invalid printed => .error ["\"" ++ printed ++ "\" is not a valid choice."]
  | .given value =>
    if value = "BUY" then .ok .buy
    else if value = "SELL" then .ok .sell
    else .error ["\"" ++ value ++ "\" is not a valid choice."]

/-- Checks on a required integer field with a lower bound and perhaps an upper one. -/
def integerField (minValue : Int) (maxValue : Option Int) : Field Int → Except (List String) Int
  | .missing => .error ["This field is required."]
  | .null => .error ["This field may not be null."]
  | .invalid _ => .error ["A valid integer is required."]
  | .given value =>
    if value < minValue then
      .error ["Ensure this value is greater than or equal to " ++ toString minValue ++ "."]
    else
      -- The upper bound is checked only where the field has one.
      match maxValue with
      | none => .ok value
      | some maxValue =>
        if maxValue < value then
          .error ["Ensure this value is less than or equal to " ++ toString maxValue ++ "."]
        else .ok value

/-- A missing limit is fifty. -/
def limitField : Field Int → Except (List String) Int
  | .missing => .ok 50
  | field => integerField 1 (some 200) field

/-- The messages of one field under its name, when there are any. -/
def fieldErrors {α : Type} (name : String) : Except (List String) α → FieldErrors
  | .ok _ => []
  | .error messages => [(name, messages)]

/-- The fields of an order request. -/
structure OrderFields where
  userId : Field String
  symbol : Field String
  side : Field String
  price : Field Int
  qty : Field Int

/-- The body of an order request: its fields, or the framework's refusal to read it. -/
inductive OrderData where
  | given (order : OrderFields)
  | unreadable (status : Nat) (detail : String)

/-- What the views answer. -/
inductive ResponseBody where
  | matchResult (result : MatchResult)
  | snapshot (snapshot : BookSnapshot)
  | tape (symbol : String) (trades : List Trade)
  | canceled (orderId : UUID) (status : String) (canceledQty : Int)
  | detail (text : String)
  | errors (errors : FieldErrors)
  deriving DecidableEq

/-- An answer with its status. -/
structure Response where
  status : Nat
  body : ResponseBody
  deriving DecidableEq

/-- The answer to an exception that no view handles. -/
def serverError : Response := ⟨500, .detail "Server Error (500)"⟩

/-- Check the fields of an order request and construct the order under its new identifier. -/
def OrderData.createOrder (orderId : UUID) : OrderData → Except Response Order
  | .unreadable status detail => .error ⟨status, .detail detail⟩
  | .given order =>
    match charField 128 order.userId, charField 6 order.symbol, sideField order.side,
      integerField 1 none order.price, integerField 1 none order.qty with
    | .ok userId, .ok symbol, .ok side, .ok price, .ok qty =>
      match Order.create userId symbol side price qty orderId with
      | .ok order => .ok order
      -- What the serializer accepts but the order refuses is an error of the server.
      | .error _ => .error serverError
    -- The messages are in the order in which the serializer declares its fields.
    | userId, symbol, side, price, qty =>
      .error ⟨400, .errors (fieldErrors "user_id" userId ++ fieldErrors "symbol" symbol ++
        fieldErrors "side" side ++ fieldErrors "price" price ++ fieldErrors "qty" qty)⟩

/-- The clock readings of one request, in the order in which they may be taken. -/
structure Readings where
  openAt : Instant
  sessionAt : Instant
  bookAt : ℚ
  restAt : ℚ
  buyDepthAt : ℚ
  sellDepthAt : ℚ

namespace Registry

/-- Start a newer session before a request, unless the market never closes. -/
def rolloverMarketSession (registry : Registry) (settings : MatcherSettings) (now : Instant) :
    Registry :=
  if settings.mode = .alwaysOpen then registry
  else (registry.rollover (sessionDate settings.mode now)).1

/-- Read both depths of a symbol's book after it has changed. -/
def updateOrderbookDepth (registry : Registry) (owned : Ownership) (symbol : String)
    (buyAt sellAt : ℚ) : Except Fault (Registry × Except BookError Unit) := do
  match registry.get owned symbol with
  | (registry, .ok (some ref)) =>
    -- Reading a depth expires orders first, as every read of the book does.
    let (registry, _, _) ← registry.call ref (.totalQuantity .buy buyAt)
    let (registry, _, _) ← registry.call ref (.totalQuantity .sell sellAt)
    return (registry, .ok ())
  | (registry, .ok none) => return (registry, .ok ())
  | (registry, .error error) => return (registry, .error error)

/-- The answer after reading the depths, which an exception replaces. -/
def answerWith (response : Response) : Registry × Except BookError Unit → Registry × Response
  | (registry, .ok _) => (registry, response)
  | (registry, .error _) => (registry, serverError)

/-- Match a valid order that this process owns. -/
def placeOrder (registry : Registry) (settings : MatcherSettings) (clock : Readings)
    (order : Order) : Except Fault (Registry × Response) := do
  let (registry, outcome) ← registry.submit settings.owned order clock.bookAt clock.restAt
  match outcome with
  | .ok (.matched result) =>
    return answerWith ⟨201, .matchResult result⟩ (← registry.updateOrderbookDepth settings.owned
      order.symbol clock.buyDepthAt clock.sellDepthAt)
  | _ => return (registry, serverError)

/-- Refuse an order while the market is closed, before anything else happens. -/
def createOrder (registry : Registry) (settings : MatcherSettings) (clock : Readings)
    (data : OrderData) (orderId : UUID) : Except Fault (Registry × Response) :=
  -- A closed market is answered before the session is rolled over.
  if ¬ isOpen settings.mode clock.openAt then
    .ok (registry, ⟨409, .detail "market is closed"⟩)
  else
    let registry := registry.rolloverMarketSession settings clock.sessionAt
    match data.createOrder orderId with
    | .error response => .ok (registry, response)
    | .ok order =>
      if ¬ settings.isSimulatedSymbol order.symbol then
        .ok (registry, ⟨400, .errors
          [("symbol", ["symbol is not in the current simulation set"])]⟩)
      -- Being simulated is checked first, being owned second.
      else if ¬ settings.owned.isOwnedSymbol order.symbol then
        .ok (registry, ⟨400, .errors [("symbol", ["symbol is owned by another matcher shard"])]⟩)
      else registry.placeOrder settings clock order

/-- Call the book of a symbol and answer with what it replies. -/
def readBook (registry : Registry) (settings : MatcherSettings) (symbol : String) (op : BookOp)
    (answer : BookReply → Response) : Except Fault (Registry × Response) := do
  match registry.get settings.owned symbol with
  | (registry, .ok (some ref)) =>
    let (registry, reply, _) ← registry.call ref op
    return (registry, answer reply)
  | (registry, .ok none) => return (registry, ⟨404, .detail "symbol was not found"⟩)
  | (registry, .error _) => return (registry, serverError)

/-- `GET /books/<symbol>/`: the book of a symbol. -/
def bookDetail (registry : Registry) (settings : MatcherSettings) (clock : Readings)
    (symbol : String) : Except Fault (Registry × Response) :=
  let registry := registry.rolloverMarketSession settings clock.sessionAt
  registry.readBook settings symbol (.snapshot clock.bookAt) fun
    | .snapshot snapshot => ⟨200, .snapshot snapshot⟩
    | _ => serverError

/-- `GET /trades/`: the newest trades of a symbol. -/
def recentTradeList (registry : Registry) (settings : MatcherSettings) (clock : Readings)
    (symbol : Field String) (limit : Field Int) : Except Fault (Registry × Response) :=
  let registry := registry.rolloverMarketSession settings clock.sessionAt
  match charField 6 symbol, limitField limit with
  | .ok symbol, .ok limit =>
    registry.readBook settings symbol (.recentTrades limit) fun
      | .trades trades => ⟨200, .tape symbol trades⟩
      | _ => serverError
  | symbol, limit =>
    .ok (registry, ⟨400, .errors (fieldErrors "symbol" symbol ++ fieldErrors "limit" limit)⟩)

/-- Cancel an order; one that is not found counts as closed already. -/
def takeOrder (registry : Registry) (settings : MatcherSettings) (clock : Readings)
    (orderId : UUID) : Except Fault (Registry × Response) := do
  let (registry, outcome) ← registry.cancel settings.owned orderId clock.bookAt
  match outcome with
  | .ok (.canceled taken) =>
    return answerWith ⟨200, .canceled taken.order.orderId "CANCELED" taken.remainingQuantity⟩
      (← registry.updateOrderbookDepth settings.owned taken.order.symbol clock.buyDepthAt
        clock.sellDepthAt)
  -- An order that is not at rest here counts as closed.
  | .ok (.raised (.orderNotFound _)) | .error (.book (.orderNotFound _)) =>
    return (registry, ⟨200, .canceled orderId "ALREADY_CLOSED" 0⟩)
  | _ => return (registry, serverError)

/-- A symbol named by a cancel is only checked; the order is found by its identifier. -/
def cancelOrder (registry : Registry) (settings : MatcherSettings) (clock : Readings)
    (orderId : UUID) (symbol : Option String) : Except Fault (Registry × Response) :=
  let registry := registry.rolloverMarketSession settings clock.sessionAt
  let symbol := strip (symbol.getD "")
  -- A cancel without a symbol skips both checks.
  if symbol ≠ "" ∧ ¬ settings.isSimulatedSymbol symbol then
    .ok (registry, ⟨400, .errors [("symbol", ["symbol is not in the current simulation set"])]⟩)
  else if symbol ≠ "" ∧ ¬ settings.owned.isOwnedSymbol symbol then
    .ok (registry, ⟨400, .errors [("symbol", ["symbol is owned by another matcher shard"])]⟩)
  else registry.takeOrder settings clock orderId

end Registry

/-- Requests whose path has been resolved to a view; an order gets a new identifier. -/
inductive Request where
  | createOrder (data : OrderData) (orderId : UUID)
  | cancelOrder (orderId : UUID) (symbol : Option String)
  | bookDetail (symbol : String)
  | recentTradeList (symbol : Field String) (limit : Field Int)

/-- The identifiers that a request introduces. -/
def Request.newIds : Request → List UUID
  | .createOrder _ orderId => [orderId]
  | _ => []

/-- Answer one request. -/
def Registry.handle (registry : Registry) (settings : MatcherSettings) (clock : Readings) :
    Request → Except Fault (Registry × Response)
  | .createOrder data orderId => registry.createOrder settings clock data orderId
  | .cancelOrder orderId symbol => registry.cancelOrder settings clock orderId symbol
  | .bookDetail symbol => registry.bookDetail settings clock symbol
  | .recentTradeList symbol limit => registry.recentTradeList settings clock symbol limit

end StockMarket
