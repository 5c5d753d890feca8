import StockMarket.Deployment.RoutingLaws
import StockMarket.Library.Json
import StockMarket.Library.Utf8

/-! The routing of requests as they come off the wire, and when one is left without an answer. -/

namespace StockMarket

/-- What the routing raises; the proxy only answers the first kind. -/
inductive RoutingException where
  | routingError (status : Nat) (detail : String)
  | unicodeDecodeError
  | valueError
  | recursionError
  deriving DecidableEq

/-- The exception behind a failure of the routing by path and query. -/
def RoutingFailure.exception : RoutingFailure → RoutingException
  | .routingError status detail => .routingError status detail
  | .valueError => .valueError

/-- The kind of failure that an exception is. -/
def RoutingException.failure : RoutingException → RoutingFailure
  | .routingError status detail => .routingError status detail
  | _ => .valueError

/-- A body as it arrives: missing, or bytes. -/
inductive RawBody where
  | absent
  | bytes (body : List UInt8)
  | text (body : String)

/-- A request as the gateway receives it. -/
structure RawRequest where
  method : String
  path : String
  query : String
  body : RawBody

/--
The upper case of a character.

Beyond the ordinary letters, only these characters turn into letters of a method that is served.
-/
def upperCase (c : Char) : List Char :=
  if c = 'ſ' then ['S'] else if c = 'ﬅ' ∨ c = 'ﬆ' then ['S', 'T'] else [c.toUpper]

/-- The method by its name; all others are treated like the last one. -/
def methodOf (name : String) : Method :=
  let normalized := String.ofList (name.toList.flatMap upperCase)
  if normalized = "GET" then .get
  else if normalized = "POST" then .post
  else if normalized = "DELETE" then .delete
  else .patch

namespace Query

/-- The bytes of a text, in which a percent sign and two digits stand for one byte. -/
def unquoteBytes : List Char → List UInt8
  | '%' :: high :: low :: rest =>
    if isHexDigit high && isHexDigit low then
      UInt8.ofNat (16 * Json.hexValue high + Json.hexValue low) :: unquoteBytes rest
    else UInt8.ofNat '%'.toNat :: unquoteBytes (high :: low :: rest)
  | c :: rest => UInt8.ofNat c.toNat :: unquoteBytes rest
  | [] => []

/-- Decode the runs of ordinary characters; the run at hand is in reverse order. -/
def unquoteRuns : List Char → List Char → List Char
  | run, [] => Utf8.replacing (unquoteBytes run.reverse)
  | run, c :: rest =>
    if c.toNat < 0x80 then unquoteRuns (c :: run) rest
    else Utf8.replacing (unquoteBytes run.reverse) ++ c :: unquoteRuns [] rest

/-- A name or a value, in which a plus sign stands for a blank. -/
def unquotePlus (text : List Char) : String :=
  String.ofList (unquoteRuns [] (text.map fun c => if c = '+' then ' ' else c))

/-- The names and values of a query; a name without a value has a blank one. -/
def parse (query : String) : List (String × String) :=
  ((query.toList.splitOn '&').filter (· ≠ [])).map fun part =>
    (unquotePlus (part.takeWhile (· ≠ '=')), unquotePlus ((part.dropWhile (· ≠ '=')).drop 1))

end Query

/-- Remove white space at both ends. -/
def CodePoints.strip (text : CodePoints) : CodePoints :=
  let isBlankPoint (point : Nat) : Bool := isSpace (Char.ofNat point)
  ((text.dropWhile isBlankPoint).reverse.dropWhile isBlankPoint).reverse

section Routing

variable (nesting : Nat) (prints : Json → CodePoints)

/-- The symbol in the text of an order. -/
def symbolFromOrderText (text : List Char) : Except RoutingException CodePoints :=
  match Json.loads nesting text with
  | .error .malformed => .error (.routingError 400 "order body must be JSON")
  | .error .integerTooLong => .error .valueError
  | .error .nestedTooDeep => .error .recursionError
  | .ok (.object fields) =>
    let value := (Json.field? fields "symbol").getD .null
    let symbol := (if value.truthy then value.printed prints else []).strip
    if symbol = [] then .error (.routingError 400 "symbol is required") else .ok symbol
  | .ok _ => .error (.routingError 400 "order body must be an object")

/-- The symbol in the body of an order, which has to be decoded first. -/
def symbolFromRawBody : RawBody → Except RoutingException CodePoints
  | .absent => .error (.routingError 400 "order body is required")
  | .bytes body =>
    if body = [] then .error (.routingError 400 "order body is required")
    else
      match Utf8.strict? body with
      | none => .error .unicodeDecodeError
      | some text => symbolFromOrderText nesting prints text
  | .text body =>
    if body = "" then .error (.routingError 400 "order body is required")
    else symbolFromOrderText nesting prints body.toList

/-- The symbol of the query. -/
def rawQuerySymbol (query : String) : Except RoutingException CodePoints :=
  match requiredQuerySymbol (Query.parse query) with
  | .ok symbol => .ok (codePoints symbol)
  | .error failure => .error failure.exception

/-- The symbol that a request is about, read from its path, its query, or its body. -/
def symbolFromRawRequest (request : RawRequest) (path : List Char) :
    Except RoutingException CodePoints :=
  match methodOf request.method, Path.book? path with
  | .get, some symbol => .ok (symbol.map Char.toNat)
  | .get, none =>
    if Path.isTrades path then rawQuerySymbol request.query
    else .error (.routingError 404 "gateway route is not allowed")
  | .post, _ =>
    if Path.isOrderCreate path then symbolFromRawBody nesting prints request.body
    else .error (.routingError 404 "gateway route is not allowed")
  | .delete, _ =>
    if Path.isOrderCancel path then rawQuerySymbol request.query
    else .error (.routingError 404 "gateway route is not allowed")
  | .patch, _ => .error (.routingError 404 "gateway route is not allowed")

/-- The path of a request, which starts with a slash. -/
def RawRequest.normalizedPath (request : RawRequest) : List Char :=
  if request.path.toList.head? = some '/' then request.path.toList else '/' :: request.path.toList

/-- The route to the shard of a symbol. -/
def routeRawSymbol (tickers : List String) (count : Nat) (symbol : CodePoints) :
    Except RoutingException Route :=
  match symbol.toString? with
  | none => .error (.routingError 400 "symbol is not in the current simulation set")
  | some text =>
    match shardForTicker tickers text count with
    | none => .error (.routingError 400 "symbol is not in the current simulation set")
    | some shard => .ok ⟨shard, some text, none⟩

/-- The matcher shard for a request. -/
def routeRawRequest (request : RawRequest) (tickers : List String) (shardCount : Int) :
    Except RoutingException Route :=
  if shardCount < 1 then .error (.routingError 500 "shard_count must be at least 1")
  else
    let path := request.normalizedPath
    match routeForIndexedShard (methodOf request.method) path shardCount.toNat with
    | .error failure => .error failure.exception
    | .ok (some route) => .ok route
    | .ok none =>
      if Path.isDefaultShard path then .ok ⟨0, none, none⟩
      else
        match symbolFromRawRequest nesting prints request path with
        | .error exception => .error exception
        | .ok symbol => routeRawSymbol tickers shardCount.toNat symbol

end Routing

/-- An exception that the proxy turns into a response. -/
def RoutingException.Answered : RoutingException → Prop
  | .routingError status _ => 400 ≤ status ∧ status ≤ 599
  | _ => False

/-- A symbol has been read, or the request is refused by a response. -/
def ReadOrRefused (read : Except RoutingException CodePoints) : Prop :=
  match read with
  | .ok _ => True
  | .error exception => exception.Answered

/-- A request has a shard in range, or is refused by a response. -/
def RoutedOrRefused (shardCount : Int) (routed : Except RoutingException Route) : Prop :=
  match routed with
  | .ok route => (route.shardIndex : Int) < shardCount
  | .error exception => exception.Answered

/-- The text of a body, if it can be decoded. -/
def RawBody.characters? : RawBody → Option (List Char)
  | .absent => some []
  | .bytes body => Utf8.strict? body
  | .text body => some body.toList

/-- A body that can be decoded, with a text that can be loaded. -/
def RawBody.Readable (nesting : Nat) (body : RawBody) : Prop :=
  ∃ text, body.characters? = some text ∧ Json.Loadable nesting text

/-- A path names a shard by more digits than are converted to a number. -/
def Path.NamesLongShard (method : Method) (path : List Char) : Prop :=
  method = .get ∧ ∃ raw, (metricsShard? path = some raw ∨ readyShard? path = some raw) ∧
    maxIntegerDigits < raw.length

namespace RawRequest

/-- A request for a shard that is named by too many digits. -/
def NamesLongShard (request : RawRequest) : Prop :=
  Path.NamesLongShard (methodOf request.method) request.normalizedPath

/-- An order whose body cannot be read. -/
def IsUnreadableOrder (nesting : Nat) (request : RawRequest) : Prop :=
  methodOf request.method = .post ∧ Path.isOrderCreate request.normalizedPath = true ∧
    ¬request.body.Readable nesting

end RawRequest

section Answers

variable {nesting : Nat} {prints : Json → CodePoints} {path : List Char} {count : Nat}

/-- No path begins with two literals of which neither begins with the other. -/
theorem Path.not_both_after {first second : String} {rest rest' : List Char}
    (apart : first.toList.isPrefixOf second.toList = false)
    (apart' : second.toList.isPrefixOf first.toList = false)
    (begins : after? first path = some rest) : after? second path ≠ some rest' := by
  intro also
  rw [after?_eq_some_iff] at begins also
  -- Two beginnings of one path are beginnings of each other.
  have one : first.toList <+: path := ⟨rest, begins.symm⟩
  have other : second.toList <+: path := ⟨rest', also.symm⟩
  rcases List.prefix_or_prefix_of_prefix one other with shorter | shorter
  · rw [List.isPrefixOf_iff_prefix.mpr shorter] at apart
    cases apart
  · rw [List.isPrefixOf_iff_prefix.mpr shorter] at apart'
    cases apart'

/-- A shard that is named is in range, or the request is refused, unless the name is too long. -/
theorem requireShardIndex_spec (raw : List Char) (count : Nat) :
    (∃ index, requireShardIndex raw count = .ok index ∧ index < count ∧
        ¬maxIntegerDigits < raw.length) ∨
      (requireShardIndex raw count = .error (.routingError 404 "unknown matcher shard") ∧
        ¬maxIntegerDigits < raw.length) ∨
      requireShardIndex raw count = .error .valueError ∧ maxIntegerDigits < raw.length := by
  -- The length is checked by the interpreter before the number is compared.
  unfold requireShardIndex
  split_ifs with long inside
  · exact .inr (.inr ⟨rfl, long⟩)
  · exact .inl ⟨_, rfl, inside, long⟩
  · exact .inr (.inl ⟨rfl, long⟩)

/-- What comes of a path that may name a shard. -/
def IndexedSpec (method : Method) (path : List Char) (count : Nat)
    (indexed : Except RoutingFailure (Option Route)) : Prop :=
  match indexed with
  | .ok (some route) => route.shardIndex < count ∧ ¬Path.NamesLongShard method path
  | .ok none => ¬Path.NamesLongShard method path
  | .error failure => failure.exception.Answered ↔ ¬Path.NamesLongShard method path

/-- A named shard is routed to as it should be, when its digits decide about the path. -/
theorem indexedSpec_of_raw {method : Method} {raw : List Char} {upstream : String}
    (names : Path.NamesLongShard method path ↔ maxIntegerDigits < raw.length) :
    IndexedSpec method path count (do
      return some ⟨← requireShardIndex raw count, none, some upstream⟩) := by
  obtain ⟨index, indexed, inside, short⟩ | ⟨indexed, short⟩ | ⟨indexed, long⟩ :=
    requireShardIndex_spec raw count
  · -- A shard that exists is found, by a number that is short enough.
    rw [indexed]
    exact ⟨inside, mt names.mp short⟩
  · -- A shard that does not exist is refused with a response.
    rw [indexed]
    exact iff_of_true ⟨by decide, by decide⟩ (mt names.mp short)
  · rw [indexed]
    exact iff_of_false id (not_not_intro (names.mpr long))

/-- A path that names a shard is routed to it, or refused, unless the name is too long. -/
theorem routeForIndexedShard_spec (method : Method) (path : List Char) (count : Nat) :
    IndexedSpec method path count (routeForIndexedShard method path count) := by
  unfold routeForIndexedShard
  split_ifs with other
  · -- Only reads can name a shard.
    exact fun names => other names.1
  · have get : method = .get := not_not.mp other
    cases metrics : Path.metricsShard? path with
    | some raw =>
      refine indexedSpec_of_raw ⟨?_, fun long => ⟨get, raw, .inl metrics, long⟩⟩
      rintro ⟨-, raw', found | found, long⟩
      · rw [metrics] at found
        cases found
        exact long
      · -- No path is about metrics and about readiness.
        obtain ⟨rest, begins, _⟩ := Option.bind_eq_some_iff.mp metrics
        obtain ⟨rest', begins', _⟩ := Option.bind_eq_some_iff.mp found
        exact absurd begins' (Path.not_both_after (by decide) (by decide) begins)
    | none =>
      -- A path about readiness is read in the same way, and others name no shard.
      cases ready : Path.readyShard? path with
      | some raw =>
        refine indexedSpec_of_raw ⟨?_, fun long => ⟨get, raw, .inr ready, long⟩⟩
        rintro ⟨-, raw', found | found, long⟩
        · rw [metrics] at found
          cases found
        · rw [ready] at found
          cases found
          exact long
      | none =>
        rintro ⟨-, raw, found | found, -⟩
        · rw [metrics] at found
          cases found
        · rw [ready] at found
          cases found

/-- A symbol that is required is answered in either case. -/
theorem required_answered (symbol : CodePoints) : ReadOrRefused
    (if symbol = [] then .error (.routingError 400 "symbol is required") else .ok symbol) := by
  split_ifs
  · exact ⟨by decide, by decide⟩
  · trivial

/-- The text of an order is answered exactly when it can be loaded. -/
theorem symbolFromOrderText_answered_iff (text : List Char) :
    ReadOrRefused (symbolFromOrderText nesting prints text) ↔ Json.Loadable nesting text := by
  rw [symbolFromOrderText, Json.Loadable]
  -- Malformed texts are answered; the two other failures of loading are not caught.
  cases loaded : Json.loads nesting text with
  | error failure =>
    cases failure with
    | malformed => exact iff_of_true ⟨by decide, by decide⟩ ⟨nofun, nofun⟩
    | integerTooLong => exact iff_of_false id fun loadable => loadable.1 rfl
    | nestedTooDeep => exact iff_of_false id fun loadable => loadable.2 rfl
  | ok value =>
    refine iff_of_true ?_ ⟨nofun, nofun⟩
    cases value with
    | object fields => exact required_answered _
    | _ => exact ⟨by decide, by decide⟩

/-- A body is answered exactly when it can be read. -/
theorem symbolFromRawBody_answered_iff (body : RawBody) :
    ReadOrRefused (symbolFromRawBody nesting prints body) ↔ body.Readable nesting := by
  -- An empty body is answered before it is loaded, and the empty text is merely malformed.
  have nothing : Json.Loadable nesting [] := ⟨nofun, nofun⟩
  cases body with
  | absent => exact iff_of_true ⟨by decide, by decide⟩ ⟨[], rfl, nothing⟩
  | bytes body =>
    simp only [symbolFromRawBody, RawBody.Readable, RawBody.characters?]
    split_ifs with empty
    · subst empty
      exact iff_of_true ⟨by decide, by decide⟩ ⟨[], rfl, nothing⟩
    · -- Bytes that are no text raise before anything is loaded.
      cases decoded : Utf8.strict? body with
      | none => exact iff_of_false id fun ⟨_, found, _⟩ => nomatch found
      | some text =>
        rw [symbolFromOrderText_answered_iff]
        exact ⟨fun loadable => ⟨text, rfl, loadable⟩, fun ⟨_, found, loadable⟩ => by
          cases found
          exact loadable⟩
  -- A body that is text already only has to be loaded.
  | text body =>
    simp only [symbolFromRawBody, RawBody.Readable, RawBody.characters?]
    split_ifs with empty
    · subst empty
      exact iff_of_true ⟨by decide, by decide⟩ ⟨[], rfl, nothing⟩
    · rw [symbolFromOrderText_answered_iff]
      exact ⟨fun loadable => ⟨_, rfl, loadable⟩, fun ⟨_, found, loadable⟩ => by
        cases found
        exact loadable⟩

/-- A query is always answered. -/
theorem rawQuerySymbol_answered (query : String) : ReadOrRefused (rawQuerySymbol query) := by
  -- A symbol is there, or it is refused with an answer of its own.
  unfold rawQuerySymbol requiredQuerySymbol
  simp only
  split_ifs
  · exact ⟨by decide, by decide⟩
  · trivial

/-- Only an order with a body that cannot be read is left without an answer. -/
theorem symbolFromRawRequest_answered_iff (nesting : Nat) (prints : Json → CodePoints)
    (request : RawRequest) :
    ReadOrRefused (symbolFromRawRequest nesting prints request request.normalizedPath) ↔
      ¬request.IsUnreadableOrder nesting := by
  have refused : ReadOrRefused
      (.error (.routingError 404 "gateway route is not allowed")) := ⟨by decide, by decide⟩
  rw [symbolFromRawRequest, RawRequest.IsUnreadableOrder]
  -- Of the four methods only the one of orders looks at the body.
  cases methodOf request.method with
  | get =>
    refine iff_of_true ?_ nofun
    cases Path.book? request.normalizedPath with
    | some symbol => trivial
    | none =>
      simp only
      split_ifs
      · exact rawQuerySymbol_answered request.query
      · exact refused
  | delete =>
    refine iff_of_true ?_ nofun
    simp only
    split_ifs
    · exact rawQuerySymbol_answered request.query
    · exact refused
  | patch => exact iff_of_true refused nofun
  -- Only the path of orders makes it read the body.
  | post =>
    simp only
    split_ifs with create
    · rw [symbolFromRawBody_answered_iff]
      exact ⟨fun readable orders => orders.2.2 readable,
        fun orders => by_contra fun unreadable => orders ⟨trivial, create, unreadable⟩⟩
    · exact iff_of_true refused fun orders => create orders.2.1

/-- The paths of orders do not go to the first shard by default. -/
theorem isDefaultShard_of_isOrderCreate (create : Path.isOrderCreate path = true) :
    Path.isDefaultShard path = false := by
  -- What begins the path of an order is none of the paths of the first shard.
  unfold Path.isOrderCreate Path.isLiteral at create
  split at create
  · rename_i rest begins
    rw [Path.after?_eq_some_iff.mp begins]
    rfl
  · cases create

/-- The symbol of a request leads to a shard in range, or the request is refused. -/
theorem routeRawSymbol_answered (tickers : List String) (symbol : CodePoints) :
    RoutedOrRefused count (routeRawSymbol tickers count symbol) := by
  unfold routeRawSymbol
  cases symbol.toString? with
  | none =>
    -- A text with a lone surrogate is no ticker.
    exact ⟨by decide, by decide⟩
  | some text =>
    simp only
    cases assigned : shardForTicker tickers text count with
    | none => exact ⟨by decide, by decide⟩
    | some shard => exact Int.ofNat_lt.mpr (shardForTicker_lt assigned)

/--
A request is routed in range, or refused by a response, but for two kinds of requests.

One names a shard by too many digits; the other is an order with a body that cannot be read.
-/
theorem routeRawRequest_answered_iff (nesting : Nat) (prints : Json → CodePoints)
    (request : RawRequest) (tickers : List String) (shardCount : Int) :
    RoutedOrRefused shardCount (routeRawRequest nesting prints request tickers shardCount) ↔
      (1 ≤ shardCount → ¬request.NamesLongShard ∧ ¬request.IsUnreadableOrder nesting) := by
  rw [routeRawRequest]
  split_ifs with few
  · exact iff_of_true ⟨by decide, by decide⟩ fun positive => absurd few (by omega)
  · have positive : 1 ≤ shardCount := by omega
    obtain ⟨count, rfl⟩ := Int.eq_ofNat_of_zero_le (show 0 ≤ shardCount by omega)
    rw [imp_iff_right positive, Int.toNat_natCast]
    have spec := routeForIndexedShard_spec (methodOf request.method) request.normalizedPath count
    -- An order never names a shard, so the two kinds of requests do not overlap.
    have posts : request.IsUnreadableOrder nesting → routeForIndexedShard
        (methodOf request.method) request.normalizedPath count = .ok none := by
      rintro ⟨post, -, -⟩
      rw [post]
      rfl
    simp only
    generalize routeForIndexedShard _ _ _ = indexed at spec posts ⊢
    match indexed with
    | .error failure =>
      exact spec.trans ⟨fun short => ⟨short, fun order => nomatch posts order⟩, And.left⟩
    | .ok (some route) =>
      exact iff_of_true (Int.ofNat_lt.mpr spec.1) ⟨spec.2, fun order => nomatch posts order⟩
    | .ok none =>
      -- No shard is named, so only the symbol can be in the way.
      have symbols := symbolFromRawRequest_answered_iff nesting prints request
      simp only
      split_ifs with first
      · refine iff_of_true (Int.lt_of_lt_of_le Int.zero_lt_one positive) ⟨spec, ?_⟩
        rintro ⟨-, create, -⟩
        rw [isDefaultShard_of_isOrderCreate create] at first
        cases first
      · rw [and_iff_right (show ¬request.NamesLongShard from spec), ← symbols]
        cases symbolFromRawRequest nesting prints request request.normalizedPath with
        | error exception => exact Iff.rfl
        | ok symbol => exact iff_of_true (routeRawSymbol_answered tickers symbol) trivial

/-- An order whose body is one byte that is no text. -/
def undecodableOrder : RawRequest := ⟨"POST", "/api/v1/orders/", "", .bytes [0xFF]⟩

/-- A body that is no text is not answered. -/
theorem undecodable_order_unanswered :
    ¬∀ (nesting : Nat) (prints : Json → CodePoints) (request : RawRequest) (tickers : List String)
      (shardCount : Int),
      RoutedOrRefused shardCount (routeRawRequest nesting prints request tickers shardCount) :=
  fun always => always 0 (fun _ => []) undecodableOrder ["005930"] 1

end Answers

section Decoding

variable {nesting : Nat} {prints : Json → CodePoints} {request : RawRequest} {body : Body}
  {raw : List UInt8}

/-- The request as it is routed once its query and its body are decoded. -/
def RawRequest.decoded (request : RawRequest) (body : Body) : HttpRequest :=
  ⟨methodOf request.method, request.path, Query.parse request.query, body⟩

/-- A decoded body says the same about the symbol as the bytes do. -/
def RawBody.DecodesTo (nesting : Nat) (prints : Json → CodePoints) (raw : RawBody) (body : Body) :
    Prop :=
  (symbolFromRawBody nesting prints raw).mapError RoutingException.failure =
    (symbolFromOrderBody body).map codePoints

/-- Stripping a string strips its characters. -/
theorem strip_codePoints (text : String) :
    CodePoints.strip (codePoints text) = codePoints (strip text) := by
  -- Both drop white space at the two ends, and a character is the same by its code.
  have blank (c : Char) : isSpace (Char.ofNat c.toNat) = isSpace c := by rw [Char.ofNat_toNat]
  simp only [CodePoints.strip, codePoints, strip, String.toList_ofList, List.dropWhile_map,
    ← List.map_reverse, Function.comp_def, blank]

/-- An order in whose body the symbol is a string decodes to an object with that string. -/
theorem decodesTo_order {text : List Char} {fields : List (CodePoints × Json)} {symbol : String}
    {payload : Dict String JsonValue} (decoded : Utf8.strict? raw = some text) (present : raw ≠ [])
    (loaded : Json.loads nesting text = .ok (.object fields))
    (named : Json.field? fields "symbol" = some (.text (codePoints symbol)))
    (same : payload.get? "symbol" = some (.text symbol)) :
    (RawBody.bytes raw).DecodesTo nesting prints (.object payload) := by
  have blank (text : String) : codePoints text = [] ↔ text = "" := by
    rw [codePoints, List.map_eq_nil_iff, String.toList_eq_nil_iff]
  -- An empty symbol counts as false, and what is read instead is empty as well.
  have points : (if decide (codePoints symbol ≠ []) = true then codePoints symbol else []) =
      codePoints symbol := by
    split_ifs with filled
    · rfl
    · exact (by simpa using filled : codePoints symbol = []).symm
  have string : (if decide (symbol ≠ "") = true then symbol else "") = symbol := by
    split_ifs with filled
    · rfl
    · exact (by simpa using filled : symbol = "").symm
  simp only [RawBody.DecodesTo, symbolFromRawBody, if_neg present, decoded, symbolFromOrderText,
    loaded, named, symbolFromOrderBody, same, Option.getD_some, Json.truthy, JsonValue.truthy,
    Json.printed, JsonValue.printed]
  rw [points, string, strip_codePoints]
  simp only [blank]
  split_ifs <;> rfl

/-- A failure of the routing is the kind of its exception. -/
theorem failure_exception (failure : RoutingFailure) : failure.exception.failure = failure := by
  cases failure <;> rfl

/-- The symbol is the same one, once the body is decoded. -/
theorem symbolFromRawRequest_decoded (decodes : request.body.DecodesTo nesting prints body)
    (path : List Char) :
    (symbolFromRawRequest nesting prints request path).mapError RoutingException.failure =
      (symbolFromRequest (request.decoded body) path).map codePoints := by
  have queries : (rawQuerySymbol request.query).mapError RoutingException.failure =
      (requiredQuerySymbol (Query.parse request.query)).map codePoints := by
    unfold rawQuerySymbol
    cases requiredQuerySymbol (Query.parse request.query) with
    | ok symbol => rfl
    | error failure => exact congrArg Except.error (failure_exception failure)
  simp only [symbolFromRawRequest, symbolFromRequest, RawRequest.decoded]
  -- Both take the same branches; only a body is decoded, and for that there is the assumption.
  cases methodOf request.method with
  | get =>
    cases Path.book? path with
    | some symbol => simp [Except.map, Except.mapError, codePoints]
    | none =>
      simp only
      split_ifs
      · exact queries
      · rfl
  -- A body is read by the same path on both sides.
  | post =>
    simp only
    split_ifs
    · exact decodes
    · rfl
  | delete =>
    simp only
    split_ifs
    · exact queries
    · rfl
  | patch => rfl

/-- A request is routed by its bytes as it is routed once it is decoded. -/
theorem routeRawRequest_decoded (decodes : request.body.DecodesTo nesting prints body)
    (tickers : List String) {count : Nat} (positive : 1 ≤ count) :
    (routeRawRequest nesting prints request tickers count).mapError RoutingException.failure =
      routeRequest (request.decoded body) tickers count := by
  have enough : ¬(count : Int) < 1 := by omega
  have same := symbolFromRawRequest_decoded decodes request.normalizedPath
  have path : (request.decoded body).normalizedPath = request.normalizedPath := rfl
  have method : (request.decoded body).method = methodOf request.method := rfl
  rw [routeRequest_eq positive, routeRawRequest, if_neg enough, path, method]
  -- Paths that name a shard are routed alike, as they have no body to be read.
  simp only [Int.toNat_natCast]
  cases routeForIndexedShard (methodOf request.method) request.normalizedPath count with
  | error failure => exact congrArg Except.error (failure_exception failure)
  | ok indexed =>
    cases indexed with
    | some route => rfl
    | none =>
      simp only
      split_ifs
      · rfl
      · -- Both read the same symbol, or fail alike.
        cases raw : symbolFromRawRequest nesting prints request request.normalizedPath with
        | error exception =>
          rw [raw] at same
          cases read : symbolFromRequest (request.decoded body) request.normalizedPath with
          | ok symbol =>
            rw [read] at same
            cases same
          | error failure =>
            rw [read] at same
            cases same
            rfl
        -- A symbol that is read is text, and so it is the same text.
        | ok points =>
          rw [raw] at same
          cases read : symbolFromRequest (request.decoded body) request.normalizedPath with
          | error failure =>
            rw [read] at same
            cases same
          | ok symbol =>
            rw [read] at same
            cases same
            simp only [routeRawSymbol, CodePoints.toString?_codePoints]
            cases shardForTicker tickers symbol count <;> rfl

end Decoding

end StockMarket
