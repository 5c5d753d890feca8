import StockMarket.Library.Decimal
import StockMarket.Library.Json
import StockMarket.Library.Outcome
import StockMarket.Library.Utf8
import StockMarket.Participants.Types

/-! The runner's client of the public API, and which of its calls end with an error of its own. -/

namespace StockMarket.BackendApiClient

/-- What a call raises; the runner only handles the first kind, which may have its cause's text. -/
inductive ClientException where
  | backendApiError (statusCode : Option Nat) (detail : Option CodePoints)
  | keyError
  | typeError
  | valueError
  | unicodeDecodeError
  | unicodeEncodeError
  | overflowError
  | recursionError
  | invalidUrl
  | timeoutError
  deriving DecidableEq

namespace ClientException

/-- The client's own error with a text. -/
def detailed (detail : String) : ClientException := .backendApiError none (some (codePoints detail))

/-- Errors in the shape of a response: of keys, of types, and of values of any kind. -/
def isShapeError : ClientException → Bool
  | .keyError | .typeError | .valueError | .unicodeDecodeError | .unicodeEncodeError => true
  | _ => false

/-- Errors of keys and of types. -/
def isLookupError : ClientException → Bool
  | .keyError | .typeError => true
  | _ => false

end ClientException

/--
What the transport comes back with, at the end of all redirections.

The body of a response that is no success may not arrive in time, when the status is known already.
A redirection may lead to a location that cannot be parsed, or not be part of a URL.
-/
inductive Transport where
  | response (status : Nat) (body : List UInt8)
  | urlError
  | timeoutError
  | errorBodyTimeout
  | badLocation (invalidUrl : Bool)

/--
What the interpreter adds: how deep JSON may nest, how numbers, lists, and dictionaries print, and
which paths cannot be part of a URL.
-/
structure Interpreter where
  nesting : Nat
  prints : Json → CodePoints
  refusesUrl : CodePoints → Bool

/-- What the backend says about an order it took. -/
structure SubmittedOrder where
  orderId : CodePoints
  remainingQuantity : Int
  deriving DecidableEq

/-- What the backend says about a cancellation. -/
structure CancellationResult where
  status : CodePoints
  deriving DecidableEq

/-- An event that waits to be acknowledged. -/
structure PendingMarketEvent where
  eventId : CodePoints
  symbol : CodePoints
  eventType : CodePoints
  direction : CodePoints
  confidence : Floating
  impact : CodePoints
  source : CodePoints
  headline : CodePoints
  deriving DecidableEq

/-- The outcome of an attempt, in which some exceptions become an error of the client. -/
def rescue {α : Type} (detail : String) (caught : ClientException → Bool)
    (attempt : Except ClientException α) : Except ClientException α :=
  match attempt with
  | .ok result => .ok result
  | .error exception => .error (if caught exception then .detailed detail else exception)

/-- A value by its key. -/
def subscript (value : Json) (name : String) : Except ClientException Json :=
  match value with
  | .object fields =>
    match Json.field? fields name with
    | some field => .ok field
    | none => .error .keyError
  | _ => .error .typeError

/-- What a text stands for; a text that stands for nothing is an error of values. -/
def orValueError {α : Type} : Option α → Except ClientException α
  | some result => .ok result
  | none => .error .valueError

/-- A whole number. -/
def toInt : Json → Except ClientException Int
  | .integer value => .ok value
  | .bool value => .ok (if value then 1 else 0)
  | .float .nan => .error .valueError
  | .float (.infinite _) => .error .overflowError
  | .float (.finite negative mantissa exponent) =>
    .ok (Floating.truncated negative mantissa exponent)
  | .text value => orValueError (integerIn? value.characters)
  | _ => .error .typeError

/-- A number that may have a fraction. -/
def toFloat : Json → Except ClientException Floating
  | .integer value =>
    match Floating.ofInt value with
    | .infinite _ => .error .overflowError
    | number => .ok number
  | .bool value => .ok (Floating.ofInt (if value then 1 else 0))
  | .float value => .ok value
  | .text value => orValueError (Floating.ofText? value.characters)
  | _ => .error .typeError

/-- The characters that stand for themselves in a URL. -/
def isUnreserved (c : Char) : Bool := c.isAlphanum || c = '_' || c = '.' || c = '-' || c = '~'

/-- A byte in a URL. -/
def quoteByte (byte : UInt8) : List Char :=
  if byte.toNat < 0x80 && isUnreserved (Char.ofNat byte.toNat) then [Char.ofNat byte.toNat]
  else '%' :: (hexDigits byte.toNat 2).map Char.toUpper

/-- A text in a URL, with nothing that has a meaning there. -/
def quote (text : List Char) : CodePoints :=
  (text.flatMap fun c => (String.utf8EncodeChar c).flatMap quoteByte).map Char.toNat

/-- A text in a query, where blanks are plus signs. -/
def quotePlus (text : List Char) : CodePoints :=
  text.flatMap fun c => if c = ' ' then ['+'.toNat] else quote [c]

/-- Where the book of a symbol is read. -/
def bookPath (symbol : String) : CodePoints := codePoints ("/api/v1/books/" ++ symbol ++ "/")

/-- Where orders are posted. -/
def ordersPath : CodePoints := codePoints "/api/v1/orders/"

/-- The path of a cancellation, with the symbol if there is one. -/
def cancelPath (orderId : CodePoints) (symbol : String) : CodePoints :=
  ordersPath ++ orderId ++ codePoints "/" ++
    if symbol = "" then [] else codePoints ("?symbol=" ++ symbol)

/-- Where the pending events of symbols are read. -/
def pendingPath (symbols : List String) : CodePoints :=
  codePoints "/api/v1/events/pending/?symbols=" ++
    quotePlus ([','].intercalate (symbols.map String.toList))

/-- Where an event is acknowledged. -/
def acknowledgementPath (eventId : String) : CodePoints :=
  codePoints "/api/v1/events/" ++ quote eventId.toList ++ codePoints "/ack/"

section Calls

variable (python : Interpreter)

/-- Send a request and read the response; only some of the failures become errors of the client. -/
def request (path : CodePoints) (transport : Transport) : Except ClientException Json :=
  if python.refusesUrl path then .error .invalidUrl
  else
    match transport with
    | .urlError | .timeoutError => .error (.backendApiError none none)
    -- The body of an error is read where exceptions are no longer caught.
    | .errorBodyTimeout => .error .timeoutError
    | .badLocation invalidUrl => .error (if invalidUrl then .invalidUrl else .valueError)
    | .response status body =>
      if 200 ≤ status ∧ status < 300 then
        match Utf8.strict? body with
        | none => .error .unicodeDecodeError
        | some text =>
          match Json.loads python.nesting text with
          | .ok payload => .ok payload
          | .error .malformed => .error (.backendApiError none none)
          | .error .integerTooLong => .error .valueError
          | .error .nestedTooDeep => .error .recursionError
      else
        .error (.backendApiError (some status) (some ((Utf8.replacing body).map Char.toNat)))

/-- A level, from its price and its quantity. -/
def bookLevel (level : Json) : Except ClientException BookLevel := do
  let price ← toInt (← subscript level "price")
  let quantity ← toInt (← subscript level "qty")
  if price < 1 ∨ quantity < 1 then throw .valueError else return ⟨price, quantity⟩

/-- The levels of a side, which must be a list. -/
def bookLevels : Json → Except ClientException (List BookLevel)
  | .array levels => levels.mapM bookLevel
  | _ => .error .valueError

/-- The symbol and the two sides of a book in a response. -/
def bookFields (payload : Json) :
    Except ClientException (CodePoints × List BookLevel × List BookLevel) := do
  let payloadSymbol := (← subscript payload "symbol").printed python.prints
  let bids ← bookLevels (← subscript payload "bids")
  let asks ← bookLevels (← subscript payload "asks")
  return (payloadSymbol, bids, asks)

/-- Read the book of a symbol. -/
def fetchBook (symbol : String) (transport : Transport) : Except ClientException BookSnapshot := do
  let payload ← request python (bookPath symbol) transport
  let (payloadSymbol, bids, asks) ← rescue "book response has an invalid shape"
    ClientException.isShapeError (bookFields python payload)
  if payloadSymbol ≠ codePoints symbol then
    throw (.detailed "book response symbol does not match request")
  else return ⟨symbol, bids, asks⟩

/-- The order in a response. -/
def orderFields (payload : Json) : Except ClientException SubmittedOrder := do
  let orderId := (← subscript payload "order_id").printed python.prints
  let remainingQuantity ← toInt (← subscript payload "remaining_qty")
  return ⟨orderId, remainingQuantity⟩

/-- Post an order. -/
def submitOrder (intent : OrderIntent) (transport : Transport) :
    Except ClientException SubmittedOrder := do
  if isUnwritable intent.price ∨ isUnwritable intent.quantity then throw .valueError
  else
    let payload ← request python ordersPath transport
    rescue "order response has an invalid shape" ClientException.isShapeError
      (orderFields python payload)

/-- The event in an item of a response. -/
def eventFields (item : Json) : Except ClientException PendingMarketEvent := do
  let text (name : String) : Except ClientException CodePoints :=
    return (← subscript item name).printed python.prints
  let eventId ← text "event_id"
  let symbol ← text "symbol"
  let eventType ← text "event_type"
  let direction ← text "direction"
  let confidence ← toFloat (← subscript item "confidence")
  let impact ← text "impact"
  let source ← text "source"
  -- A headline may be missing from an item that has the other fields.
  let headline := match text "headline" with
    | .ok headline => headline
    | .error _ => []
  return ⟨eventId, symbol, eventType, direction, confidence, impact, source, headline⟩

/-- The values that the client accepts in an event. -/
def PendingMarketEvent.isValid (event : PendingMarketEvent) : Bool :=
  event.eventId ≠ [] ∧ event.symbol.length = 6 ∧ event.symbol.characters.all isAnyDigit ∧
    event.direction ∈ ["BUY", "SELL", "MIXED"].map codePoints ∧
    event.impact ∈ ["low", "medium", "high"].map codePoints ∧ event.confidence.isUnit

/-- A pending event, from its fields. -/
def pendingEvent (item : Json) : Except ClientException PendingMarketEvent := do
  let event ← rescue "pending event response has an invalid shape" ClientException.isShapeError
    (eventFields python item)
  if event.isValid then return event
  else throw (.detailed "pending event response has invalid values")

/-- The events in a response. -/
def pendingEvents (payload : Json) : Except ClientException (List PendingMarketEvent) :=
  match payload with
  | .object fields =>
    match Json.field? fields "results" with
    | some (.array items) => items.mapM (pendingEvent python)
    | _ => .error (.detailed "pending event response must include results")
  | _ => .error (.detailed "pending event response must include results")

/-- Read the events that are pending for symbols. -/
def fetchPendingMarketEvents (symbols : List String) (transport : Transport) :
    Except ClientException (List PendingMarketEvent) := do
  if symbols = [] then return []
  else pendingEvents python (← request python (pendingPath symbols) transport)

/-- The response says that the event is dispatched. -/
def isDispatched : Json → Bool
  | .object fields =>
    match Json.field? fields "state" with
    | some (.text state) => state = codePoints "dispatched"
    | _ => false
  | _ => false

/-- Acknowledge an event. -/
def acknowledgeMarketEvent (eventId : CodePoints) (transport : Transport) :
    Except ClientException Unit := do
  match eventId.toString? with
  | none => throw .unicodeEncodeError
  | some text =>
    let payload ← request python (acknowledgementPath text) transport
    if isDispatched payload then return ()
    else throw (.detailed "event acknowledgement response is invalid")

/-- The statuses of a cancellation that the client knows. -/
def cancelStatuses : List CodePoints := ["CANCELED", "ALREADY_CLOSED"].map codePoints

/-- The status in a response to a cancellation. -/
def cancelFields (payload : Json) : Except ClientException CancellationResult := do
  return ⟨(← subscript payload "status").printed python.prints⟩

/-- Cancel an order. -/
def cancelOrder (orderId : CodePoints) (symbol : String) (transport : Transport) :
    Except ClientException CancellationResult := do
  let payload ← request python (cancelPath orderId symbol) transport
  let result ← rescue "cancel response has an invalid shape" ClientException.isLookupError
    (cancelFields python payload)
  if result.status ∈ cancelStatuses then return result
  else
    throw (.backendApiError none (some (codePoints "unexpected cancel status: " ++ result.status)))

end Calls

/-- A call returns a value as it should be, or raises the error of the client. -/
def Handled {α : Type} (accepted : α → Prop) (called : Except ClientException α) : Prop :=
  match called with
  | .ok result => accepted result
  | .error (.backendApiError _ _) => True
  | .error _ => False

/--
A successful response has a body that can be decoded, with a text that can be loaded.

Any other response is there in time with its body, and every location along the way can be visited.
-/
def Transport.Readable (nesting : Nat) : Transport → Prop
  | .response status body => 200 ≤ status ∧ status < 300 →
    ∃ text, Utf8.strict? body = some text ∧ Json.Loadable nesting text
  | .errorBodyTimeout | .badLocation _ => False
  | .urlError | .timeoutError => True

/-- The value in the body of a successful response. -/
def Transport.Carries (nesting : Nat) (transport : Transport) (payload : Json) : Prop :=
  ∃ status body text, transport = .response status body ∧ (200 ≤ status ∧ status < 300) ∧
    Utf8.strict? body = some text ∧ Json.loads nesting text = .ok payload

/-- The path can be part of a URL, and a successful response can be decoded and loaded. -/
def Reaches (python : Interpreter) (path : CodePoints) (transport : Transport) : Prop :=
  python.refusesUrl path = false ∧ transport.Readable python.nesting

/-- A number without end, which is not converted to a whole one. -/
def IsInfinite (value : Json) : Prop := ∃ negative, value = .float (.infinite negative)

/-- A whole number that is too large for one with a fraction. -/
def IsHuge (value : Json) : Prop :=
  ∃ number negative, value = .integer number ∧ Floating.ofInt number = .infinite negative

/-- A field of an object. -/
def HasField (value : Json) (name : String) (field : Json) : Prop :=
  subscript value name = .ok field

/-- A level with an infinite price, or with a number for a price and an infinite quantity. -/
def LevelOverflows (level : Json) : Prop :=
  ∃ price, HasField level "price" price ∧ (IsInfinite price ∨ ∃ number quantity,
    toInt price = .ok number ∧ HasField level "qty" quantity ∧ IsInfinite quantity)

/-- Some item is bad, and all before it are accepted. -/
def FirstBad {α : Type} (check : Json → Except ClientException α) (bad : Json → Prop)
    (items : List Json) : Prop :=
  ∃ before item after, items = before ++ item :: after ∧
    (∀ earlier ∈ before, ∃ result, check earlier = .ok result) ∧ bad item

/-- A side of a book in which the first level that is not accepted overflows. -/
def SideOverflows (payload : Json) (name : String) : Prop :=
  ∃ levels, HasField payload name (.array levels) ∧ FirstBad bookLevel LevelOverflows levels

/-- The bids overflow, or they are accepted and the asks overflow. -/
def BookOverflows (payload : Json) : Prop :=
  (∃ symbol, HasField payload "symbol" symbol) ∧ (SideOverflows payload "bids" ∨
    (∃ side bids, HasField payload "bids" side ∧ bookLevels side = .ok bids) ∧
      SideOverflows payload "asks")

/-- An order whose remaining quantity is infinite. -/
def OrderOverflows (payload : Json) : Prop :=
  (∃ orderId, HasField payload "order_id" orderId) ∧
    ∃ quantity, HasField payload "remaining_qty" quantity ∧ IsInfinite quantity

/-- An event whose confidence is a whole number that is too large. -/
def EventOverflows (item : Json) : Prop :=
  (∀ name ∈ ["event_id", "symbol", "event_type", "direction"], ∃ field, HasField item name field) ∧
    ∃ confidence, HasField item "confidence" confidence ∧ IsHuge confidence

/-- The first event that is not accepted overflows. -/
def EventsOverflow (python : Interpreter) (payload : Json) : Prop :=
  ∃ items, HasField payload "results" (.array items) ∧
    FirstBad (pendingEvent python) EventOverflows items

section Outcomes

variable {α β : Type} {python : Interpreter} {path : CodePoints} {transport : Transport}
  {accepted : α → Prop}

/-- A response that carries a value can be read. -/
theorem Transport.Carries.readable {nesting : Nat} {payload : Json}
    (carries : transport.Carries nesting payload) : transport.Readable nesting := by
  -- A text that was loaded is neither too long nor too deep.
  obtain ⟨status, body, text, rfl, _, decoded, loaded⟩ := carries
  refine fun _ => ⟨text, decoded, ?_⟩
  rw [Json.Loadable, loaded]
  exact ⟨nofun, nofun⟩

/-- A response carries one value at most. -/
theorem Transport.Carries.unique {nesting : Nat} {payload payload' : Json}
    (carries : transport.Carries nesting payload) (also : transport.Carries nesting payload') :
    payload = payload' := by
  obtain ⟨status, body, text, rfl, _, decoded, loaded⟩ := carries
  obtain ⟨status', body', text', same, _, decoded', loaded'⟩ := also
  -- Both read the same body, and decoding and loading are functions of it.
  cases same
  rw [decoded] at decoded'
  cases decoded'
  rw [loaded] at loaded'
  exact Except.ok.inj loaded'

/-- A request that is sent gets the value of the response, or fails by whether it can be read. -/
theorem request_spec (accepted : α → Prop) (transport : Transport)
    (sends : python.refusesUrl path = false) :
    (∃ payload, request python path transport = .ok payload ∧
        transport.Carries python.nesting payload) ∨
      ∃ exception, request python path transport = .error exception ∧
        (∀ payload, ¬transport.Carries python.nesting payload) ∧
        (Handled accepted (.error exception) ↔ transport.Readable python.nesting) := by
  have nothing : (∀ status body, transport ≠ .response status body) →
      ∀ payload, ¬transport.Carries python.nesting payload :=
    fun other payload ⟨status, body, _, same, _⟩ => other status body same
  unfold request
  rw [sends, if_neg Bool.false_ne_true]
  -- Without a response there is nothing to read, and the exception is the client's own.
  match transport with
  | .urlError | .timeoutError =>
    exact .inr ⟨_, rfl, nothing nofun, iff_of_true trivial trivial⟩
  | .errorBodyTimeout => exact .inr ⟨_, rfl, nothing nofun, iff_of_false id id⟩
  | .badLocation invalidUrl =>
    refine .inr ⟨_, rfl, nothing nofun, iff_of_false ?_ id⟩
    cases invalidUrl <;> exact id
  | .response status body =>
    simp only
    split_ifs with success
    · cases decoded : Utf8.strict? body with
      | none =>
        -- A body that is no text is not readable, and raises the decoder's exception.
        refine .inr ⟨_, rfl, ?_, iff_of_false id fun readable => ?_⟩
        · rintro payload ⟨_, _, _, ⟨⟩, _, found, _⟩
          rw [decoded] at found
          cases found
        · obtain ⟨text, found, _⟩ := readable success
          rw [decoded] at found
          cases found
      | some text =>
        simp only
        cases loaded : Json.loads python.nesting text with
        | ok payload => exact .inl ⟨payload, rfl, status, body, text, rfl, success, decoded, loaded⟩
        | error failure =>
          -- A text is read, is no JSON, or is too large.
          have unread : ∀ payload,
              ¬(Transport.response status body).Carries python.nesting payload := by
            rintro payload ⟨_, _, _, ⟨⟩, _, found, read⟩
            rw [decoded] at found
            cases found
            rw [loaded] at read
            cases read
          have large (readable : (Transport.response status body).Readable python.nesting) :
              failure = .malformed := by
            obtain ⟨_, found, long, deep⟩ := readable success
            rw [decoded] at found
            cases found
            rw [loaded] at long deep
            cases failure with
            | malformed => rfl
            | integerTooLong => exact absurd rfl long
            | nestedTooDeep => exact absurd rfl deep
          cases failure with
          | malformed =>
            refine .inr ⟨_, rfl, unread, iff_of_true trivial fun _ => ⟨text, decoded, ?_⟩⟩
            rw [Json.Loadable, loaded]
            exact ⟨nofun, nofun⟩
          | integerTooLong =>
            exact .inr ⟨_, rfl, unread, iff_of_false id fun readable => nomatch large readable⟩
          | nestedTooDeep =>
            exact .inr ⟨_, rfl, unread, iff_of_false id fun readable => nomatch large readable⟩
    · -- The body of an unsuccessful response is never looked at as JSON.
      refine .inr ⟨_, rfl, ?_, iff_of_true trivial fun also => absurd also success⟩
      rintro payload ⟨_, _, _, ⟨⟩, also, _⟩
      exact success also

/-- A call is handled when it can be sent and read, and what it does with the value is handled. -/
theorem handled_request_iff {next : Json → Except ClientException α} {bad : Json → Prop}
    (each : ∀ payload, Handled accepted (next payload) ↔ ¬bad payload) :
    Handled accepted (request python path transport >>= next) ↔ Reaches python path transport ∧
      ∀ payload, transport.Carries python.nesting payload → ¬bad payload := by
  rw [Reaches, and_assoc]
  -- The three stages of a call: it is sent, the response is read, and the value is used.
  cases sends : python.refusesUrl path with
  | true =>
    have refused : request python path transport = .error .invalidUrl := by
      unfold request
      rw [if_pos sends]
    rw [refused]
    exact iff_of_false id nofun
  | false =>
    rw [and_iff_right rfl]
    -- Either a payload comes out that was carried, or nothing was carried.
    obtain ⟨payload, asked, carries⟩ | ⟨exception, asked, nothing, handled⟩ :=
      request_spec accepted transport sends
    · rw [asked, and_iff_right carries.readable]
      refine (each payload).trans ⟨fun fine payload' also => ?_, fun fine => fine payload carries⟩
      exact carries.unique also ▸ fine
    · rw [asked]
      exact handled.trans ⟨fun readable => ⟨readable, fun payload carries =>
        absurd carries (nothing payload)⟩, And.left⟩

/-- A call that handles every value is handled when it can be sent and read. -/
theorem handled_request_of_always {next : Json → Except ClientException α}
    (each : ∀ payload, Handled accepted (next payload)) :
    Handled accepted (request python path transport >>= next) ↔ Reaches python path transport := by
  -- The condition on the value is one that no value fails.
  have never : ∀ payload, Handled accepted (next payload) ↔ ¬False :=
    fun payload => iff_of_true (each payload) id
  exact (handled_request_iff never).trans (and_iff_left fun _ _ => id)

end Outcomes

section Fields

variable {α β : Type} {python : Interpreter} {value : Json} {accepted : α → Prop}

/-- A computation that only fails by the shape of its input, or by an overflow. -/
def FailsByShape (attempt : Except ClientException α) : Prop :=
  ∀ exception, attempt = .error exception → exception.isShapeError = true ∨
    exception = .overflowError

/-- A result is no failure. -/
theorem failsByShape_ok (result : α) : FailsByShape (.ok result) := nofun

/-- A sequence only fails by shape when its parts do. -/
theorem FailsByShape.bind {first : Except ClientException β} {next : β → Except ClientException α}
    (one : FailsByShape first) (other : ∀ middle, FailsByShape (next middle)) :
    FailsByShape (first >>= next) := by
  -- The exception comes from the first part, or from the second after the first has succeeded.
  intro exception failed
  rcases Outcome.bind_eq_error_iff.mp failed with early | ⟨middle, _, late⟩
  · exact one exception early
  · exact other middle exception late

/-- A value is looked up, or an error of keys or of types is raised. -/
theorem isLookupError_of_subscript {name : String} {exception : ClientException}
    (failed : subscript value name = .error exception) : exception.isLookupError = true := by
  -- Only an object can be asked for a name, and the name may be missing.
  cases value with
  | object fields =>
    rw [subscript] at failed
    cases found : Json.field? fields name with
    | some field =>
      rw [found] at failed
      cases failed
    | none =>
      rw [found] at failed
      cases failed
      rfl
  | _ =>
    cases failed
    rfl

/-- Errors of keys and of types are errors in the shape of a response. -/
theorem isShapeError_of_isLookupError {exception : ClientException}
    (lookup : exception.isLookupError = true) : exception.isShapeError = true := by
  cases exception with
  | keyError | typeError => rfl
  | _ => cases lookup

/-- Subscripting fails by the shape of a value. -/
theorem subscript_failsByShape (name : String) : FailsByShape (subscript value name) :=
  fun _ failed => .inl (isShapeError_of_isLookupError (isLookupError_of_subscript failed))

/-- What comes of a text that stands for a number, or for none. -/
theorem orValueError_failsByShape (number : Option α) : FailsByShape (orValueError number) := by
  -- A text that is no number is an error of values.
  intro exception failed
  cases number with
  | some _ => cases failed
  | none =>
    cases failed
    exact .inl rfl

/-- Reading a whole number fails by the shape of a value. -/
theorem toInt_failsByShape : FailsByShape (toInt value) := by
  -- Only an infinite number overflows; all other refusals are errors of values and types.
  intro exception failed
  cases value with
  | integer _ | bool _ => cases failed
  | float number =>
    cases number with
    | finite _ _ _ => cases failed
    | nan =>
      cases failed
      exact .inl rfl
    | infinite _ =>
      cases failed
      exact .inr rfl
  | text _ =>
    rw [toInt] at failed
    exact orValueError_failsByShape _ exception failed
  | null | array _ | object _ =>
    cases failed
    exact .inl rfl

/-- Reading a number fails by the shape of a value. -/
theorem toFloat_failsByShape : FailsByShape (toFloat value) := by
  -- A whole number may be too large for a float, and texts may stand for no number.
  intro exception failed
  cases value with
  | bool _ | float _ => cases failed
  | integer number =>
    rw [toFloat] at failed
    split at failed
    · cases failed
      exact .inr rfl
    · cases failed
  | text _ =>
    rw [toFloat] at failed
    exact orValueError_failsByShape _ exception failed
  | null | array _ | object _ =>
    cases failed
    exact .inl rfl

/-- Reading a level fails by its shape. -/
theorem bookLevel_failsByShape (level : Json) : FailsByShape (bookLevel level) := by
  -- Two fields are looked up and converted, and then both numbers are checked.
  refine (subscript_failsByShape _).bind fun price => toInt_failsByShape.bind fun _ =>
    (subscript_failsByShape _).bind fun quantity => toInt_failsByShape.bind fun _ => ?_
  split_ifs
  · rintro exception ⟨⟩
    exact .inl rfl
  · exact failsByShape_ok _

/-- Reading the levels of a side fails by their shape. -/
theorem bookLevels_failsByShape (side : Json) : FailsByShape (bookLevels side) := by
  intro exception failed
  unfold bookLevels at failed
  split at failed
  · -- The list fails as its first failing level does.
    obtain ⟨_, level, _, _, _, failed⟩ := Outcome.mapM_eq_error_iff.mp failed
    exact bookLevel_failsByShape level exception failed
  · cases failed
    exact .inl rfl

/-- Reading a book fails by its shape. -/
theorem bookFields_failsByShape (payload : Json) : FailsByShape (bookFields python payload) :=
  (subscript_failsByShape _).bind fun _ => (subscript_failsByShape _).bind fun bids =>
    (bookLevels_failsByShape bids).bind fun _ => (subscript_failsByShape _).bind fun asks =>
      (bookLevels_failsByShape asks).bind fun _ => failsByShape_ok _

/-- Reading an order fails by its shape. -/
theorem orderFields_failsByShape (payload : Json) : FailsByShape (orderFields python payload) :=
  (subscript_failsByShape _).bind fun _ => (subscript_failsByShape _).bind fun _ =>
    toInt_failsByShape.bind fun _ => failsByShape_ok _

/-- Reading an event fails by its shape. -/
theorem eventFields_failsByShape (item : Json) : FailsByShape (eventFields python item) := by
  -- The fields are printed, whatever they are, and only the confidence is converted.
  have text (name : String) : FailsByShape (do
      return (← subscript item name).printed python.prints) :=
    (subscript_failsByShape name).bind fun _ => failsByShape_ok _
  exact (text _).bind fun _ => (text _).bind fun _ => (text _).bind fun _ => (text _).bind fun _ =>
    (subscript_failsByShape _).bind fun _ => toFloat_failsByShape.bind fun _ =>
      (text _).bind fun _ => (text _).bind fun _ => failsByShape_ok _

/-- A text that stands for no number does not overflow. -/
theorem orValueError_ne_overflow (number : Option α) :
    orValueError number ≠ .error .overflowError := by
  cases number <;> exact nofun

/-- Only infinite numbers overflow when they are converted to whole ones. -/
theorem toInt_overflow_iff : toInt value = .error .overflowError ↔ IsInfinite value := by
  constructor
  · intro failed
    cases value with
    | integer _ | bool _ => cases failed
    | float number =>
      cases number with
      | nan | finite _ _ _ => cases failed
      -- An infinite number is the only one that overflows.
      | infinite negative => exact ⟨negative, rfl⟩
    | text _ =>
      rw [toInt] at failed
      exact absurd failed (orValueError_ne_overflow _)
    | null | array _ | object _ => cases failed
  · rintro ⟨negative, rfl⟩
    rfl

/-- Only whole numbers that are too large overflow when they are converted. -/
theorem toFloat_overflow_iff : toFloat value = .error .overflowError ↔ IsHuge value := by
  constructor
  · intro failed
    cases value with
    | integer number =>
      rw [toFloat] at failed
      split at failed
      · -- The integer is too large for a floating-point number.
        rename_i negative large
        exact ⟨number, negative, rfl, large⟩
      · cases failed
    | bool _ | float _ => cases failed
    | text _ =>
      rw [toFloat] at failed
      exact absurd failed (orValueError_ne_overflow _)
    | null | array _ | object _ => cases failed
  · rintro ⟨number, negative, rfl, large⟩
    rw [toFloat, large]

/-- Looking a field up never overflows. -/
theorem subscript_ne_overflow (name : String) : subscript value name ≠ .error .overflowError :=
  fun failed => nomatch isLookupError_of_subscript failed

/-- Reading a list overflows when the first item that is not accepted overflows. -/
theorem mapM_overflow_iff {check : Json → Except ClientException α} {bad : Json → Prop}
    (each : ∀ item, check item = .error .overflowError ↔ bad item) {items : List Json} :
    items.mapM check = .error .overflowError ↔ FirstBad check bad items := by
  simp only [Outcome.mapM_eq_error_iff, each, FirstBad]

/-- When reading a level overflows. -/
theorem bookLevel_overflow_iff (level : Json) :
    bookLevel level = .error .overflowError ↔ LevelOverflows level := by
  constructor
  · intro failed
    -- The price is looked up and converted, and then the quantity.
    obtain early | ⟨price, found, failed⟩ := Outcome.bind_eq_error_iff.mp failed
    · exact absurd early (subscript_ne_overflow _)
    obtain early | ⟨number, whole, failed⟩ := Outcome.bind_eq_error_iff.mp failed
    · exact ⟨price, found, .inl (toInt_overflow_iff.mp early)⟩
    obtain early | ⟨quantity, found', failed⟩ := Outcome.bind_eq_error_iff.mp failed
    · exact absurd early (subscript_ne_overflow _)
    obtain early | ⟨_, _, failed⟩ := Outcome.bind_eq_error_iff.mp failed
    · exact ⟨price, found, .inr ⟨number, quantity, whole, found', toInt_overflow_iff.mp early⟩⟩
    · split_ifs at failed <;> cases failed
  · rintro ⟨price, found, infinite | ⟨number, quantity, whole, found', infinite⟩⟩
    · refine (Outcome.bind_ok found).trans ?_
      exact Outcome.bind_error (toInt_overflow_iff.mpr infinite)
    · refine (Outcome.bind_ok found).trans ((Outcome.bind_ok whole).trans ?_)
      refine (Outcome.bind_ok found').trans ?_
      exact Outcome.bind_error (toInt_overflow_iff.mpr infinite)

/-- When reading the levels of a side overflows. -/
theorem bookLevels_overflow_iff (side : Json) : bookLevels side = .error .overflowError ↔
    ∃ levels, side = .array levels ∧ FirstBad bookLevel LevelOverflows levels := by
  -- Only a list has levels that could overflow.
  cases side with
  | array levels =>
    refine (mapM_overflow_iff bookLevel_overflow_iff).trans ⟨fun bad => ⟨levels, rfl, bad⟩, ?_⟩
    rintro ⟨_, ⟨⟩, bad⟩
    exact bad
  | _ => exact iff_of_false nofun fun ⟨_, same, _⟩ => nomatch same

/-- When reading a book overflows. -/
theorem bookFields_overflow_iff (python : Interpreter) (payload : Json) :
    bookFields python payload = .error .overflowError ↔ BookOverflows payload := by
  constructor
  · intro failed
    -- The symbol and the bids stand before the asks, so they are sound when the asks are reached.
    obtain early | ⟨symbol, named, failed⟩ := Outcome.bind_eq_error_iff.mp failed
    · exact absurd early (subscript_ne_overflow _)
    obtain early | ⟨side, found, failed⟩ := Outcome.bind_eq_error_iff.mp failed
    · exact absurd early (subscript_ne_overflow _)
    obtain early | ⟨bids, read, failed⟩ := Outcome.bind_eq_error_iff.mp failed
    · obtain ⟨levels, rfl, bad⟩ := (bookLevels_overflow_iff side).mp early
      exact ⟨⟨symbol, named⟩, .inl ⟨levels, found, bad⟩⟩
    obtain early | ⟨side', found', failed⟩ := Outcome.bind_eq_error_iff.mp failed
    · exact absurd early (subscript_ne_overflow _)
    obtain early | ⟨_, _, failed⟩ := Outcome.bind_eq_error_iff.mp failed
    · obtain ⟨levels, rfl, bad⟩ := (bookLevels_overflow_iff side').mp early
      exact ⟨⟨symbol, named⟩, .inr ⟨⟨side, bids, found, read⟩, levels, found', bad⟩⟩
    · cases failed
  · -- The other way around, the first overflow is what the whole reading fails with.
    rintro ⟨⟨symbol, named⟩,
      ⟨levels, found, bad⟩ | ⟨⟨side, bids, found, read⟩, levels, found', bad⟩⟩
    · refine (Outcome.bind_ok named).trans ((Outcome.bind_ok found).trans ?_)
      exact Outcome.bind_error ((bookLevels_overflow_iff _).mpr ⟨levels, rfl, bad⟩)
    · refine (Outcome.bind_ok named).trans ((Outcome.bind_ok found).trans ?_)
      refine (Outcome.bind_ok read).trans ((Outcome.bind_ok found').trans ?_)
      exact Outcome.bind_error ((bookLevels_overflow_iff _).mpr ⟨levels, rfl, bad⟩)

/-- When reading an order overflows. -/
theorem orderFields_overflow_iff (python : Interpreter) (payload : Json) :
    orderFields python payload = .error .overflowError ↔ OrderOverflows payload := by
  constructor
  · intro failed
    -- Reading a field never overflows, so it is the conversion of the quantity.
    obtain early | ⟨orderId, named, failed⟩ := Outcome.bind_eq_error_iff.mp failed
    · exact absurd early (subscript_ne_overflow _)
    obtain early | ⟨quantity, found, failed⟩ := Outcome.bind_eq_error_iff.mp failed
    · exact absurd early (subscript_ne_overflow _)
    obtain early | ⟨_, _, failed⟩ := Outcome.bind_eq_error_iff.mp failed
    · exact ⟨⟨orderId, named⟩, quantity, found, toInt_overflow_iff.mp early⟩
    · cases failed
  · rintro ⟨⟨orderId, named⟩, quantity, found, infinite⟩
    refine (Outcome.bind_ok named).trans ((Outcome.bind_ok found).trans ?_)
    exact Outcome.bind_error (toInt_overflow_iff.mpr infinite)

/-- A field that is there has a text, and one that is not fails without an overflow. -/
theorem text_ne_overflow (item : Json) (name : String) : (do
    return (← subscript item name).printed python.prints : Except ClientException CodePoints) ≠
      .error .overflowError := by
  intro failed
  obtain early | ⟨_, _, failed⟩ := Outcome.bind_eq_error_iff.mp failed
  · exact subscript_ne_overflow name early
  · cases failed

/-- A field has a text when it is there. -/
theorem text_eq_ok_iff (python : Interpreter) (item : Json) (name : String) : (∃ text, (do
    return (← subscript item name).printed python.prints : Except ClientException CodePoints) =
      .ok text) ↔ ∃ field, HasField item name field := by
  -- Whatever is in the field is printed as a text.
  constructor
  · rintro ⟨text, ran⟩
    obtain ⟨field, found, _⟩ := Outcome.bind_eq_ok ran
    exact ⟨field, found⟩
  · rintro ⟨field, found⟩
    exact ⟨_, Outcome.bind_ok found⟩

/-- When reading an event overflows. -/
theorem eventFields_overflow_iff (python : Interpreter) (item : Json) :
    eventFields python item = .error .overflowError ↔ EventOverflows item := by
  constructor
  · intro failed
    -- Four texts stand before the confidence.
    obtain early | ⟨eventId, first, failed⟩ := Outcome.bind_eq_error_iff.mp failed
    · exact absurd early (text_ne_overflow item _)
    obtain early | ⟨symbol, second, failed⟩ := Outcome.bind_eq_error_iff.mp failed
    · exact absurd early (text_ne_overflow item _)
    obtain early | ⟨eventType, third, failed⟩ := Outcome.bind_eq_error_iff.mp failed
    · exact absurd early (text_ne_overflow item _)
    obtain early | ⟨direction, fourth, failed⟩ := Outcome.bind_eq_error_iff.mp failed
    · exact absurd early (text_ne_overflow item _)
    obtain early | ⟨confidence, found, failed⟩ := Outcome.bind_eq_error_iff.mp failed
    · exact absurd early (subscript_ne_overflow _)
    obtain early | ⟨_, _, failed⟩ := Outcome.bind_eq_error_iff.mp failed
    · refine ⟨?_, confidence, found, toFloat_overflow_iff.mp early⟩
      simp only [List.forall_mem_cons]
      exact ⟨(text_eq_ok_iff python item _).mp ⟨_, first⟩,
        (text_eq_ok_iff python item _).mp ⟨_, second⟩, (text_eq_ok_iff python item _).mp ⟨_, third⟩,
        (text_eq_ok_iff python item _).mp ⟨_, fourth⟩, nofun⟩
    -- Two more texts stand behind it, and a text cannot overflow.
    obtain early | ⟨_, _, failed⟩ := Outcome.bind_eq_error_iff.mp failed
    · exact absurd early (text_ne_overflow item _)
    obtain early | ⟨_, _, failed⟩ := Outcome.bind_eq_error_iff.mp failed
    · exact absurd early (text_ne_overflow item _)
    · cases failed
  · rintro ⟨present, confidence, found, huge⟩
    simp only [List.forall_mem_cons] at present
    obtain ⟨first, second, third, fourth, -⟩ := present
    obtain ⟨_, first⟩ := (text_eq_ok_iff python item _).mpr first
    obtain ⟨_, second⟩ := (text_eq_ok_iff python item _).mpr second
    obtain ⟨_, third⟩ := (text_eq_ok_iff python item _).mpr third
    obtain ⟨_, fourth⟩ := (text_eq_ok_iff python item _).mpr fourth
    refine (Outcome.bind_ok first).trans ((Outcome.bind_ok second).trans ?_)
    refine (Outcome.bind_ok third).trans ((Outcome.bind_ok fourth).trans ?_)
    exact (Outcome.bind_ok found).trans (Outcome.bind_error (toFloat_overflow_iff.mpr huge))

end Fields

/-- The book that a call of the client may return. -/
structure BookAccepted (symbol : String) (snapshot : BookSnapshot) : Prop where
  symbol : snapshot.symbol = symbol
  levels : ∀ level ∈ snapshot.bids ++ snapshot.asks, 1 ≤ level.price ∧ 1 ≤ level.quantity

section Handling

variable {α β : Type} {python : Interpreter} {accepted : α → Prop} {payload : Json}

/-- An attempt whose exceptions are caught only fails by an overflow. -/
theorem handled_rescue_iff {attempt : Except ClientException β} {detail : String}
    {caught : ClientException → Bool} {next : β → Except ClientException α}
    (kinds : ∀ exception, attempt = .error exception → caught exception = true ∨
      exception = .overflowError) (uncaught : caught .overflowError = false)
    (fine : ∀ result, attempt = .ok result → Handled accepted (next result)) :
    Handled accepted (rescue detail caught attempt >>= next) ↔ attempt ≠ .error .overflowError := by
  cases attempt with
  | ok result => exact iff_of_true (fine result rfl) nofun
  | error exception =>
    -- What is caught becomes the client's own error, and only an overflow is not caught.
    rcases kinds exception rfl with shape | rfl
    · have rescued : rescue detail caught (.error exception : Except ClientException β) =
          .error (.detailed detail) := by rw [rescue, if_pos shape]
      rw [rescued]
      refine iff_of_true trivial fun same => ?_
      cases same
      rw [uncaught] at shape
      cases shape
    · have kept : rescue detail caught (.error .overflowError : Except ClientException β) =
          .error .overflowError := by rw [rescue, uncaught, if_neg Bool.false_ne_true]
      rw [kept]
      exact iff_of_false id fun differs => differs rfl

/-- A level that is read is positive. -/
theorem bookLevel_positive {level : Json} {read : BookLevel} (ran : bookLevel level = .ok read) :
    1 ≤ read.price ∧ 1 ≤ read.quantity := by
  -- The check stands behind both conversions, so a level that is read has passed it.
  obtain ⟨_, _, ran⟩ := Outcome.bind_eq_ok ran
  obtain ⟨price, _, ran⟩ := Outcome.bind_eq_ok ran
  obtain ⟨_, _, ran⟩ := Outcome.bind_eq_ok ran
  obtain ⟨quantity, _, ran⟩ := Outcome.bind_eq_ok ran
  split_ifs at ran with small
  cases ran
  exact ⟨by simp only; omega, by simp only; omega⟩

/-- Levels that are read have positive prices and quantities. -/
theorem bookLevels_positive {side : Json} {levels : List BookLevel}
    (ran : bookLevels side = .ok levels) :
    ∀ level ∈ levels, 1 ≤ level.price ∧ 1 ≤ level.quantity := by
  -- Every level comes from an item that was read as one.
  intro level member
  cases side with
  | array items =>
    obtain ⟨item, _, read⟩ := Outcome.exists_left (Outcome.mapM_eq_ok_iff.mp ran) member
    exact bookLevel_positive read
  | _ => cases ran

/-- What is done with the payload of a book is handled unless it overflows. -/
theorem bookPayload_handled_iff (symbol : String) : Handled (BookAccepted symbol) (do
    let (payloadSymbol, bids, asks) ← rescue "book response has an invalid shape"
      ClientException.isShapeError (bookFields python payload)
    if payloadSymbol ≠ codePoints symbol then
      throw (.detailed "book response symbol does not match request")
    else return ⟨symbol, bids, asks⟩) ↔ ¬BookOverflows payload := by
  rw [← bookFields_overflow_iff python]
  refine handled_rescue_iff (bookFields_failsByShape payload) rfl fun fields ran => ?_
  obtain ⟨payloadSymbol, bids, asks⟩ := fields
  simp only
  split_ifs
  · -- Another symbol is answered with the client's own error.
    trivial
  · obtain ⟨_, _, ran⟩ := Outcome.bind_eq_ok ran
    obtain ⟨_, _, ran⟩ := Outcome.bind_eq_ok ran
    obtain ⟨_, readBids, ran⟩ := Outcome.bind_eq_ok ran
    obtain ⟨_, _, ran⟩ := Outcome.bind_eq_ok ran
    obtain ⟨_, readAsks, ran⟩ := Outcome.bind_eq_ok ran
    cases ran
    refine ⟨rfl, fun level member => ?_⟩
    -- Each level was read with a positive price and quantity.
    rcases List.mem_append.mp member with bid | ask
    · exact bookLevels_positive readBids level bid
    · exact bookLevels_positive readAsks level ask

/-- Reading an event fails with the error of the client, or by an overflow. -/
theorem pendingEvent_handled_iff (python : Interpreter) (item : Json) :
    Handled (fun event => event.isValid = true) (pendingEvent python item) ↔
      ¬EventOverflows item := by
  -- Of the exceptions of the fields, only the overflow is not caught.
  rw [← eventFields_overflow_iff python]
  refine handled_rescue_iff (eventFields_failsByShape item) rfl fun event _ => ?_
  split_ifs with valid
  · exact valid
  · trivial

/-- Whether an exception is handled has nothing to do with the results. -/
theorem handled_error_iff {accepted' : β → Prop} (exception : ClientException) :
    Handled accepted' (.error exception) ↔ Handled accepted (.error exception) := by
  cases exception <;> exact Iff.rfl

/-- An overflow in an event is not caught. -/
theorem pendingEvent_overflow_iff (python : Interpreter) (item : Json) :
    pendingEvent python item = .error .overflowError ↔ EventOverflows item := by
  constructor
  · intro failed
    -- Whatever is not handled can only be an overflow of the fields.
    have handled := pendingEvent_handled_iff python item
    rw [failed] at handled
    exact not_not.mp fun fine => handled.mpr fine
  · intro bad
    have failed := (eventFields_overflow_iff python item).mpr bad
    refine Outcome.bind_error ?_
    rw [failed]
    rfl

/-- A list is read up to the first item that fails, and handled unless that one overflows. -/
theorem mapM_handled_iff {check : Json → Except ClientException α} {bad : Json → Prop}
    (each : ∀ item, Handled accepted (check item) ↔ ¬bad item)
    (overflows : ∀ item, check item = .error .overflowError ↔ bad item) (items : List Json) :
    Handled (fun results => ∀ result ∈ results, accepted result) (items.mapM check) ↔
      ¬FirstBad check bad items := by
  rw [← mapM_overflow_iff overflows]
  -- All items were read, or one of them has decided how the list fails.
  cases ran : items.mapM check with
  | ok results =>
    refine iff_of_true (fun result member => ?_) nofun
    obtain ⟨item, _, read⟩ := Outcome.exists_left (Outcome.mapM_eq_ok_iff.mp ran) member
    have fine : ¬bad item := fun bad => by
      rw [(overflows item).mpr bad] at read
      cases read
    have handled := (each item).mpr fine
    rwa [read] at handled
  | error exception =>
    obtain ⟨_, item, _, _, _, failed⟩ := Outcome.mapM_eq_error_iff.mp ran
    have handled := each item
    rw [← overflows item, failed] at handled
    -- The list fails with the exception of the item, which is handled alike.
    have same : (.error exception : Except ClientException α) = .error .overflowError ↔
        (.error exception : Except ClientException (List α)) = .error .overflowError := by
      rw [Except.error.injEq, Except.error.injEq]
    exact (handled_error_iff exception).trans (handled.trans (not_congr same))

/-- The events of a response are handled unless the first one that is not accepted overflows. -/
theorem pendingEvents_handled_iff (payload : Json) :
    Handled (fun events => ∀ event ∈ events, event.isValid = true) (pendingEvents python payload) ↔
      ¬EventsOverflow python payload := by
  -- A payload without a list of results is refused with the client's own error.
  have absent (missing : ∀ items, ¬HasField payload "results" (.array items)) :
      ¬EventsOverflow python payload := fun ⟨items, found, _⟩ => missing items found
  cases payload with
  | object fields =>
    cases found : Json.field? fields "results" with
    | none =>
      simp only [pendingEvents, found]
      refine iff_of_true trivial (absent fun items present => ?_)
      rw [HasField, subscript, found] at present
      cases present
    | some results =>
      have named : HasField (.object fields) "results" results := by rw [HasField, subscript, found]
      cases results with
      | array items =>
        simp only [pendingEvents, found]
        refine (mapM_handled_iff (pendingEvent_handled_iff python) (pendingEvent_overflow_iff python)
          items).trans (not_congr ⟨fun bad => ⟨items, named, bad⟩, ?_⟩)
        rintro ⟨items', present, bad⟩
        rw [HasField, named] at present
        cases present
        exact bad
      | _ =>
        simp only [pendingEvents, found]
        refine iff_of_true trivial (absent fun items present => ?_)
        rw [HasField, named] at present
        cases present
  | _ => exact iff_of_true trivial (absent fun items present => nomatch present)

/-- What is done with the payload of an order is handled unless it overflows. -/
theorem orderPayload_handled_iff (payload : Json) : Handled (fun _ => True)
    (rescue "order response has an invalid shape" ClientException.isShapeError
      (orderFields python payload)) ↔ ¬OrderOverflows payload := by
  rw [← orderFields_overflow_iff python, ← bind_pure (rescue _ _ _)]
  exact handled_rescue_iff (orderFields_failsByShape payload) rfl fun _ _ => trivial

/-- What is done with the payload of a cancellation is always handled. -/
theorem cancelPayload_handled (payload : Json) :
    Handled (fun result => result.status ∈ cancelStatuses) (do
      let result ← rescue "cancel response has an invalid shape" ClientException.isLookupError
        (cancelFields python payload)
      if result.status ∈ cancelStatuses then return result
      else throw (.backendApiError none
        (some (codePoints "unexpected cancel status: " ++ result.status)))) := by
  have kinds : ∀ exception, cancelFields python payload = .error exception →
      exception.isLookupError = true ∨ exception = .overflowError := by
    intro exception failed
    -- Only the status is looked up, and every value prints.
    obtain early | ⟨_, _, failed⟩ := Outcome.bind_eq_error_iff.mp failed
    · exact .inl (isLookupError_of_subscript early)
    · cases failed
  refine (handled_rescue_iff kinds rfl fun result _ => ?_).mpr fun failed => ?_
  · split_ifs with known
    · exact known
    · trivial
  · obtain early | ⟨_, _, failed⟩ := Outcome.bind_eq_error_iff.mp failed
    · exact subscript_ne_overflow _ early
    · cases failed

end Handling

/--
Every call returns a checked value or raises the error of the client, with these exceptions.

The arguments cannot be sent, the body of a successful response cannot be decoded or loaded, or a
number in it overflows before anything else is found to be wrong. Or the body of another response
does not arrive in time, or a redirection has a location that cannot be visited.
-/
theorem calls_handled_iff (python : Interpreter) (transport : Transport) :
    (∀ symbol, Handled (BookAccepted symbol) (fetchBook python symbol transport) ↔
      Reaches python (bookPath symbol) transport ∧
        ∀ payload, transport.Carries python.nesting payload → ¬BookOverflows payload) ∧
    (∀ intent, Handled (fun _ => True) (submitOrder python intent transport) ↔
      ¬(isUnwritable intent.price = true ∨ isUnwritable intent.quantity = true) ∧
        Reaches python ordersPath transport ∧
        ∀ payload, transport.Carries python.nesting payload → ¬OrderOverflows payload) ∧
    (∀ orderId symbol, Handled (fun result => result.status ∈ cancelStatuses)
        (cancelOrder python orderId symbol transport) ↔
      Reaches python (cancelPath orderId symbol) transport) ∧
    (∀ symbols, Handled (fun events => ∀ event ∈ events, event.isValid = true)
        (fetchPendingMarketEvents python symbols transport) ↔
      (symbols ≠ [] → Reaches python (pendingPath symbols) transport ∧
        ∀ payload, transport.Carries python.nesting payload → ¬EventsOverflow python payload)) ∧
    ∀ eventId, Handled (fun _ => True) (acknowledgeMarketEvent python eventId transport) ↔
      ∃ text, eventId.toString? = some text ∧
        Reaches python (acknowledgementPath text) transport := by
  -- Each call sends one request, and differs in what it checks before and does afterwards.
  refine ⟨fun symbol => ?_, fun intent => ?_, fun orderId symbol => ?_, fun symbols => ?_,
    fun eventId => ?_⟩
  · exact handled_request_iff fun payload => bookPayload_handled_iff symbol
  · rw [submitOrder]
    split_ifs with unwritable
    · -- An integer that cannot be written never leaves the client.
      exact iff_of_false id fun writable => writable.1 unwritable
    · rw [and_iff_right unwritable]
      exact handled_request_iff orderPayload_handled_iff
  · exact handled_request_of_always cancelPayload_handled
  · rw [fetchPendingMarketEvents]
    split_ifs with nobody
    · -- Without symbols nothing is asked.
      exact iff_of_true nofun fun somebody => absurd nobody somebody
    · rw [imp_iff_right nobody]
      exact handled_request_iff pendingEvents_handled_iff
  · unfold acknowledgeMarketEvent
    cases eventId.toString? with
    | none => exact iff_of_false id fun ⟨_, found, _⟩ => nomatch found
    | some text =>
      have dispatched (payload : Json) : Handled (fun _ => True) (if isDispatched payload = true
          then return () else throw (.detailed "event acknowledgement response is invalid")) := by
        split_ifs <;> trivial
      refine (handled_request_of_always dispatched).trans ⟨fun reaches => ⟨text, rfl, reaches⟩, ?_⟩
      rintro ⟨_, ⟨⟩, reaches⟩
      exact reaches

/-- A response of one byte that is no text. -/
theorem undecodable_response_raised :
    ¬∀ (python : Interpreter) (symbol : String) (transport : Transport),
      Handled (BookAccepted symbol) (fetchBook python symbol transport) :=
  fun always => always ⟨1000, fun _ => [], fun _ => false⟩ "005930" (.response 200 [0xFF])

end StockMarket.BackendApiClient
