import StockMarket.Deployment.SingleMatcher
import StockMarket.Deployment.WireAnswers

/-! The requests of the runner's client as bytes, and what gateway and matcher read from them. -/

namespace StockMarket

/-- The name of a side in requests. -/
def OrderSide.value : OrderSide → String
  | .buy => "BUY"
  | .sell => "SELL"

namespace BackendApiClient

/-- The body of an order. -/
def orderPayload (intent : OrderIntent) : Json :=
  .record [("user_id", .string intent.userId), ("symbol", .string intent.symbol),
    ("side", .string intent.side.value), ("price", .integer intent.price),
    ("qty", .integer intent.quantity)]

/-- The request for a book. -/
def bookRequest (symbol : String) : WireRequest := ⟨"GET", (bookPath symbol).characters, []⟩

/-- The request that submits an order. -/
def orderRequest (intent : OrderIntent) : WireRequest :=
  ⟨"POST", ordersPath.characters, encodeText (Json.write Json.defaultStyle (orderPayload intent))⟩

/-- The request that cancels an order. -/
def cancelRequest (orderId : CodePoints) (symbol : String) : WireRequest :=
  ⟨"DELETE", (cancelPath orderId symbol).characters, []⟩

end BackendApiClient

section Targets

variable {path query : List Char}

/-- A target without separators is a path. -/
theorem splitTarget_path (plain : ∀ c ∈ path, c ≠ '?' ∧ c ≠ '#') :
    splitTarget path = (path, []) := by
  -- Neither separator is in the path.
  have whole : path.takeWhile (· ≠ '#') = path :=
    List.takeWhile_eq_self_iff.mpr fun c member => decide_eq_true (plain c member).2
  have own : path.takeWhile (· ≠ '?') = path :=
    List.takeWhile_eq_self_iff.mpr fun c member => decide_eq_true (plain c member).1
  have nothing : path.dropWhile (· ≠ '?') = [] :=
    List.dropWhile_eq_nil_iff.mpr fun c member => decide_eq_true (plain c member).1
  simp only [splitTarget, whole, own, nothing, List.drop_nil]

/-- A question mark stands between the path and the query. -/
theorem splitTarget_query (plain : ∀ c ∈ path, c ≠ '?' ∧ c ≠ '#')
    (plain' : ∀ c ∈ query, c ≠ '#') : splitTarget (path ++ '?' :: query) = (path, query) := by
  -- The first question mark is the one behind the path.
  have whole : (path ++ '?' :: query).takeWhile (· ≠ '#') = path ++ '?' :: query := by
    refine List.takeWhile_eq_self_iff.mpr fun c member => decide_eq_true ?_
    rcases List.mem_append.mp member with first | rest
    · exact (plain c first).2
    · rcases List.mem_cons.mp rest with rfl | later
      · decide
      · exact plain' c later
  have all : ∀ c ∈ path, decide (c ≠ '?') = true := fun c member => decide_eq_true (plain c member).1
  have own : (path ++ '?' :: query).takeWhile (· ≠ '?') = path := by
    rw [List.takeWhile_append_of_pos all, List.takeWhile_cons_of_neg (by simp), List.append_nil]
  have later : (path ++ '?' :: query).dropWhile (· ≠ '?') = '?' :: query := by
    rw [List.dropWhile_append_of_pos all, List.dropWhile_cons_of_neg (by simp)]
  simp only [splitTarget, whole, own, later, List.drop_one, List.tail_cons]

/-- A path of ordinary characters is seen by the server as it is. -/
theorem serverPath_ordinary (ordinary : path.all BackendApiClient.isOrdinary = true) :
    serverPath path = some path := by
  have bytes := BackendApiClient.unquoteBytes_literal [] (BackendApiClient.isOrdinary_of_all ordinary)
  rw [List.append_nil, Query.unquoteBytes, List.append_nil] at bytes
  rw [serverPath, bytes, Utf8.strict?_encode]

/-- Characters of a query that stand for themselves are read as they are. -/
theorem unquotePlus_ordinary {text : List Char}
    (ordinary : ∀ c ∈ text, c ≠ '%' ∧ c ≠ '+' ∧ c.toNat < 0x80) :
    Query.unquotePlus text = String.ofList text := by
  have same : (text.map fun c => if c = '+' then ' ' else c) = text := by
    conv_rhs => rw [← List.map_id text]
    exact List.map_congr_left fun c member => if_neg (ordinary c member).2.1
  -- The run at hand grows by every character, and is decoded at the end.
  have runs : ∀ (rest run : List Char), (∀ c ∈ rest, c.toNat < 0x80) →
      Query.unquoteRuns run rest = Utf8.replacing (Query.unquoteBytes (run.reverse ++ rest)) := by
    intro rest
    induction rest with
    | nil =>
      intro run _
      rw [Query.unquoteRuns, List.append_nil]
    | cons c rest ih =>
      intro run small
      rw [Query.unquoteRuns, if_pos (small c List.mem_cons_self),
        ih (c :: run) fun other member => small other (List.mem_cons_of_mem _ member)]
      simp
  -- Plain characters are their own bytes, and these decode to themselves.
  have bytes := BackendApiClient.unquoteBytes_literal [] fun c member =>
    ⟨(ordinary c member).1, (ordinary c member).2.2⟩
  rw [List.append_nil, Query.unquoteBytes, List.append_nil] at bytes
  rw [Query.unquotePlus, same, runs text [] fun c member => (ordinary c member).2.2, List.reverse_nil,
    List.nil_append, bytes, Utf8.replacing_encode]

end Targets

section Identifiers

/-- Each of the sixteen digits has its value, and is a small letter or a digit. -/
theorem hexDigit_spec : ∀ digit < 16,
    Json.hexValue ("0123456789abcdef".toList.getD digit '0') = digit ∧
      isLowerHex ("0123456789abcdef".toList.getD digit '0') = true ∧
      "0123456789abcdef".toList.getD digit '0' ≠ '-' := by decide

/-- As many digits are written as are asked for. -/
theorem length_hexDigits (number count : Nat) : (hexDigits number count).length = count := by
  induction count generalizing number with
  | zero => rfl
  | succ count ih => simp [hexDigits, ih]

/-- Every digit that is written is one of the sixteen. -/
theorem exists_of_mem_hexDigits {number count : Nat} {c : Char} (member : c ∈ hexDigits number count) :
    ∃ digit < 16, c = "0123456789abcdef".toList.getD digit '0' := by
  -- The digits of the number are taken off from its end.
  induction count generalizing number with
  | zero => exact absurd member List.not_mem_nil
  | succ count ih =>
    rw [hexDigits, List.mem_append, List.mem_singleton] at member
    rcases member with earlier | last
    · exact ih earlier
    · exact ⟨number % 16, Nat.mod_lt _ (by decide), last⟩

/-- Enough digits stand for the number that they were written for. -/
theorem hexNumber_hexDigits {number count : Nat} (small : number < 16 ^ count) :
    hexNumber (hexDigits number count) = number := by
  -- Reading the digits multiplies by sixteen where writing has divided.
  induction count generalizing number with
  | zero =>
    rw [Nat.pow_zero, Nat.lt_one_iff] at small
    rw [small]
    rfl
  | succ count ih =>
    have last := (hexDigit_spec (number % 16) (Nat.mod_lt _ (by decide))).1
    have front : hexNumber (hexDigits (number / 16) count) = number / 16 :=
      ih (by rw [Nat.pow_succ] at small; omega)
    unfold hexNumber at front ⊢
    rw [hexDigits, List.foldl_append, front, List.foldl_cons, List.foldl_nil, last]
    omega

/-- A group of digits fits where no dash stands. -/
theorem group_fits {digits : List Char} {start : Nat} (lower : ∀ c ∈ digits, isLowerHex c = true)
    (apart : ∀ place ∈ [8, 13, 18, 23], place < start ∨ start + digits.length ≤ place) :
    ((digits.zipIdx start).all fun (c, place) =>
      if place ∈ [8, 13, 18, 23] then c = '-' else isLowerHex c) = true := by
  -- No dash of the text falls into the group.
  refine List.all_eq_true.mpr fun entry member => ?_
  obtain ⟨low, high, same⟩ := List.mem_zipIdx member
  have digit : isLowerHex entry.1 = true := lower _ (same ▸ List.getElem_mem _)
  have other : entry.2 ∉ [8, 13, 18, 23] := by
    intro dash
    rcases apart entry.2 dash with before | behind <;> omega
  simp only [if_neg other, digit]

/-- The text of an identifier has the form that the routes ask for. -/
theorem isUuidText_uuidText (orderId : UUID) : isUuidText (uuidText orderId) = true := by
  have count := length_hexDigits orderId.toNat 32
  have lower : ∀ c ∈ hexDigits orderId.toNat 32, isLowerHex c = true := by
    intro c member
    obtain ⟨digit, small, rfl⟩ := exists_of_mem_hexDigits member
    exact (hexDigit_spec digit small).2.1
  unfold isUuidText uuidText
  generalize hexDigits orderId.toNat 32 = digits at count lower ⊢
  refine decide_eq_true ⟨by simp [count], ?_⟩
  -- The five groups stand between the four dashes.
  have first : (digits.take 8).length = 8 := by simp [count]
  have second : ((digits.drop 8).take 4).length = 4 := by simp [count]
  have third : ((digits.drop 12).take 4).length = 4 := by simp [count]
  have fourth : ((digits.drop 16).take 4).length = 4 := by simp [count]
  have last : (digits.drop 20).length = 12 := by simp [count]
  simp only [List.cons_append, List.append_assoc, List.zipIdx_append, List.zipIdx_cons,
    List.all_append, List.all_cons, first, second, third, fourth, Bool.and_eq_true]
  refine ⟨group_fits (fun c member => lower c (List.mem_of_mem_take member)) ?_, by decide,
    group_fits (fun c member => lower c (List.mem_of_mem_drop (List.mem_of_mem_take member))) ?_,
    by decide,
    group_fits (fun c member => lower c (List.mem_of_mem_drop (List.mem_of_mem_take member))) ?_,
    by decide,
    group_fits (fun c member => lower c (List.mem_of_mem_drop (List.mem_of_mem_take member))) ?_,
    by decide, group_fits (fun c member => lower c (List.mem_of_mem_drop member)) ?_⟩
  all_goals simp [first, second, third, fourth, last]

/-- The digits of an identifier are what its text has besides dashes. -/
theorem filter_uuidText (orderId : UUID) :
    (uuidText orderId).filter (· ≠ '-') = hexDigits orderId.toNat 32 := by
  have digits : ∀ c ∈ hexDigits orderId.toNat 32, c ≠ '-' := by
    intro c member
    obtain ⟨digit, small, rfl⟩ := exists_of_mem_hexDigits member
    exact (hexDigit_spec digit small).2.2
  unfold uuidText
  generalize hexDigits orderId.toNat 32 = written at digits ⊢
  have kept : ∀ {group : List Char}, (∀ c ∈ group, c ∈ written) →
      group.filter (· ≠ '-') = group := fun inside =>
    List.filter_eq_self.mpr fun c member => decide_eq_true (digits c (inside c member))
  have middle (count : Nat) : ∀ c ∈ (written.drop count).take 4, c ∈ written :=
    fun c member => List.mem_of_mem_drop (List.mem_of_mem_take member)
  simp only [List.cons_append, List.append_assoc, List.filter_append, List.filter_cons, ne_eq,
    not_true_eq_false, decide_false, Bool.false_eq_true, if_false]
  rw [kept fun c member => List.mem_of_mem_take member, kept (middle 8), kept (middle 12),
    kept (middle 16), kept fun c member => List.mem_of_mem_drop member]
  -- The groups are taken from the digits one after the other.
  have join (count : Nat) (group : Nat) (rest : List Char) (next : rest = written.drop (count + group)) :
      (written.drop count).take group ++ rest = written.drop count := by
    rw [next, ← List.drop_drop, List.take_append_drop]
  rw [join 16 4 _ rfl, join 12 4 _ rfl, join 8 4 _ rfl, List.take_append_drop]

/-- An identifier is read back from its text. -/
theorem uuidOf_uuidText (orderId : UUID) : uuidOf (String.ofList (uuidText orderId)) = orderId := by
  -- The dashes are dropped, and the digits tell the number.
  have small : orderId.toNat < 16 ^ 32 := by
    have bound := orderId.isLt
    norm_num at bound ⊢
    exact bound
  rw [uuidOf, String.toList_ofList, filter_uuidText, hexNumber_hexDigits small,
    BitVec.ofNat_toNat, BitVec.setWidth_eq]

end Identifiers

/-- A character that is one byte, and that separates nothing in a URL. -/
def isPlain (c : Char) : Bool := c.toNat < 0x80 ∧ c ∉ ['%', '+', '?', '#', '&', '=', '/']

section Plain

variable {text : List Char} {c : Char}

/-- A character is plain when the one with its number is. -/
theorem isPlain_of_code (plain : isPlain (Char.ofNat c.toNat) = true) : isPlain c = true := by
  rwa [Char.ofNat_toNat] at plain

/-- The characters of a ticker are plain. -/
theorem isPlain_ticker {ticker : String} (six : Cluster.isTicker ticker = true) :
    ∀ c ∈ ticker.toList, isPlain c = true := by
  have codes : ∀ code < 58, 48 ≤ code → isPlain (Char.ofNat code) = true := by decide
  intro c member
  have digit := List.all_eq_true.mp (Cluster.isNumeric_of_isTicker six) c member
  -- A ticker is made of digits, which are ten of the plain characters.
  obtain ⟨low, high⟩ := bounds_of_isDigit digit
  exact isPlain_of_code (codes c.toNat high low)

/-- The characters of an identifier are plain. -/
theorem isPlain_uuidText (orderId : UUID) : ∀ c ∈ uuidText orderId, isPlain c = true := by
  -- A character is a dash, or a digit of the number.
  have digits : ∀ digit < 16, isPlain ("0123456789abcdef".toList.getD digit '0') = true := by decide
  intro c member
  by_cases dash : c = '-'
  · rw [dash]
    decide
  · have digit : c ∈ (uuidText orderId).filter (· ≠ '-') :=
      List.mem_filter.mpr ⟨member, decide_eq_true dash⟩
    rw [filter_uuidText] at digit
    obtain ⟨value, small, rfl⟩ := exists_of_mem_hexDigits digit
    exact digits value small

/-- Plain characters separate nothing. -/
theorem ne_of_isPlain {other : Char} (plain : isPlain c = true)
    (separates : other ∈ ['%', '+', '?', '#', '&', '=', '/']) : c ≠ other := by
  rintro rfl
  exact (of_decide_eq_true plain).2 separates

/-- A path of plain characters and slashes is taken for a path, and seen as it is. -/
theorem serverPath_plain (plain : ∀ c ∈ text, isPlain c = true ∨ c = '/') :
    serverPath text = some text ∧ ∀ c ∈ text, c ≠ '?' ∧ c ≠ '#' := by
  -- Plain characters and slashes are neither quoted nor separators.
  constructor
  · refine serverPath_ordinary (List.all_eq_true.mpr fun c member => ?_)
    rcases plain c member with own | rfl
    · exact decide_eq_true ⟨ne_of_isPlain own (by decide), (of_decide_eq_true own).1⟩
    · decide
  · intro c member
    rcases plain c member with own | rfl
    · exact ⟨ne_of_isPlain own (by decide), ne_of_isPlain own (by decide)⟩
    · decide

/-- The only parameter of a query is its symbol. -/
theorem parse_symbol (plain : ∀ c ∈ text, isPlain c = true) :
    Query.parse (String.ofList ("symbol=".toList ++ text)) = [("symbol", String.ofList text)] := by
  -- There is one field, and neither its name nor its value is quoted.
  have whole : ("symbol=".toList ++ text).splitOn '&' = ["symbol=".toList ++ text] := by
    rw [List.splitOn_eq_splitOnP]
    refine List.splitOnP_eq_singleton fun c member => beq_eq_false_iff_ne.mpr ?_
    rcases List.mem_append.mp member with first | last
    · exact ne_of_mem_of_not_mem first (by decide)
    · exact ne_of_isPlain (plain c last) (by decide)
  have named : ("symbol=".toList ++ text).takeWhile (· ≠ '=') = "symbol".toList := rfl
  have value : (("symbol=".toList ++ text).dropWhile (· ≠ '=')).drop 1 = text := rfl
  have first : Query.unquotePlus "symbol".toList = "symbol" := by decide
  have second : Query.unquotePlus text = String.ofList text :=
    unquotePlus_ordinary fun c member => ⟨ne_of_isPlain (plain c member) (by decide),
      ne_of_isPlain (plain c member) (by decide), (of_decide_eq_true (plain c member)).1⟩
  rw [Query.parse, String.toList_ofList, whole, List.filter_cons_of_pos (by simp), List.filter_nil,
    List.map_cons, List.map_nil, named, value, first, second]

end Plain

namespace BackendApiClient

/-- What the runner asks the gateway for. -/
inductive Call where
  | fetchBook (symbol : String)
  | submitOrder (intent : OrderIntent)
  | cancelOrder (orderId : UUID) (symbol : String)

namespace Call

/-- The call as bytes. -/
def wire : Call → WireRequest
  | fetchBook symbol => bookRequest symbol
  | submitOrder intent => orderRequest intent
  | cancelOrder orderId symbol => cancelRequest (codePoints (String.ofList (uuidText orderId))) symbol

/-- The call as a request, with the identifier that a new order gets. -/
def request (orderId : UUID) : Call → ClientRequest
  | fetchBook symbol => .bookDetail symbol
  | submitOrder intent =>
    .createOrder (.set .empty "symbol" (.text intent.symbol)) (.given intent.userId)
      (.given intent.side.value) (.given intent.price) (.given intent.quantity) orderId
  | cancelOrder canceled symbol => .cancelOrder canceled [("symbol", symbol)]

/-- The symbol that a call is about. -/
def symbol : Call → String
  | fetchBook symbol | cancelOrder _ symbol => symbol
  | submitOrder intent => intent.symbol

/-- A call names its symbol. -/
theorem names (call : Call) (orderId : UUID) : (call.request orderId).Names call.symbol := by
  cases call with
  | fetchBook symbol => rfl
  | submitOrder intent => rfl
  | cancelOrder canceled symbol => exact ⟨rfl, rfl⟩

/-- Paths name tickers, and the numbers of an order can be written. -/
def IsSendable : Call → Prop
  | fetchBook symbol | cancelOrder _ symbol => Cluster.isTicker symbol = true
  | submitOrder intent => isUnwritable intent.price = false ∧ isUnwritable intent.quantity = false

end Call

section Targets

variable {symbol : String}

/-- The characters of the path of a book. -/
theorem characters_bookPath (symbol : String) :
    (bookPath symbol).characters = "/api/v1/books/".toList ++ (symbol.toList ++ ['/']) := by
  rw [bookPath, characters_codePoints, String.toList_append, String.toList_append, List.append_assoc]
  rfl

/-- The characters of the path of orders. -/
theorem characters_ordersPath : ordersPath.characters = "/api/v1/orders/".toList :=
  characters_codePoints _

/-- A cancellation has the symbol in its query. -/
theorem characters_cancelPath (named : symbol ≠ "") (orderId : UUID) :
    (cancelPath (codePoints (String.ofList (uuidText orderId))) symbol).characters =
      "/api/v1/orders/".toList ++ (uuidText orderId ++ ['/']) ++
        '?' :: ("symbol=".toList ++ symbol.toList) := by
  -- The pieces of the path are put together in the order in which they are written.
  have joined (first second : CodePoints) :
      CodePoints.characters (first ++ second) = first.characters ++ second.characters :=
    List.map_append
  simp only [cancelPath, if_neg named, joined, characters_ordersPath, characters_codePoints,
    String.toList_ofList, String.toList_append, List.append_assoc]
  rfl

/-- The target of a book is its path. -/
theorem splitTarget_book (six : Cluster.isTicker symbol = true) :
    splitTarget (bookRequest symbol).target = ((bookPath symbol).characters, []) ∧
      serverPath (bookPath symbol).characters = some (bookPath symbol).characters := by
  -- Everything in the path is plain, the six digits included.
  have fixed : "/api/v1/books/".toList.all (fun c => isPlain c || c = '/') = true := by decide
  obtain ⟨seen, apart⟩ := @serverPath_plain (bookPath symbol).characters (by
    intro c member
    rw [characters_bookPath] at member
    rcases List.mem_append.mp member with first | rest
    · simpa using List.all_eq_true.mp fixed c first
    · rcases List.mem_append.mp rest with own | last
      · exact .inl (isPlain_ticker six c own)
      · exact .inr (List.mem_singleton.mp last))
  exact ⟨splitTarget_path apart, seen⟩

/-- The target of orders is their path. -/
theorem splitTarget_orders (intent : OrderIntent) :
    splitTarget (orderRequest intent).target = ("/api/v1/orders/".toList, []) ∧
      serverPath "/api/v1/orders/".toList = some "/api/v1/orders/".toList := by
  have target : (orderRequest intent).target = "/api/v1/orders/".toList := characters_ordersPath
  rw [target]
  decide +kernel

/-- The target of a cancellation is the path of the order, and a query with the symbol. -/
theorem splitTarget_cancel (six : Cluster.isTicker symbol = true) (orderId : UUID) :
    splitTarget (cancelRequest (codePoints (String.ofList (uuidText orderId))) symbol).target =
        ("/api/v1/orders/".toList ++ (uuidText orderId ++ ['/']),
          "symbol=".toList ++ symbol.toList) ∧
      serverPath ("/api/v1/orders/".toList ++ (uuidText orderId ++ ['/'])) =
        some ("/api/v1/orders/".toList ++ (uuidText orderId ++ ['/'])) := by
  have named : symbol ≠ "" := (strip_of_isShortCode (Cluster.shortCode_of_isTicker six)).2
  have fixed : "/api/v1/orders/".toList.all (fun c => isPlain c || c = '/') = true := by decide
  obtain ⟨seen, apart⟩ := @serverPath_plain ("/api/v1/orders/".toList ++ (uuidText orderId ++ ['/']))
    (by
      intro c member
      rcases List.mem_append.mp member with first | rest
      · simpa using List.all_eq_true.mp fixed c first
      · rcases List.mem_append.mp rest with own | last
        · exact .inl (isPlain_uuidText orderId c own)
        · exact .inr (List.mem_singleton.mp last))
  -- The query follows the path, and nothing in either is quoted.
  refine ⟨?_, seen⟩
  have target : (cancelRequest (codePoints (String.ofList (uuidText orderId))) symbol).target =
      "/api/v1/orders/".toList ++ (uuidText orderId ++ ['/']) ++
        '?' :: ("symbol=".toList ++ symbol.toList) := characters_cancelPath named orderId
  rw [target]
  refine splitTarget_query apart fun c member => ?_
  rcases List.mem_append.mp member with first | own
  · exact ne_of_mem_of_not_mem first (by decide)
  · exact ne_of_isPlain (isPlain_ticker six c own) (by decide)

end Targets

section Gateway

variable {nesting : Nat} {prints : Json → CodePoints} {tickers : List String} {count : Nat}
  {symbol : String}

/-- What a call is for the gateway, once it is decoded. -/
def Call.body : Call → Body
  | .submitOrder intent => .object (.set .empty "symbol" (.text intent.symbol))
  | _ => .absent

/-- The gateway sees the request that the call stands for. -/
theorem decoded_call {call : Call} (sendable : call.IsSendable) (orderId : UUID) :
    call.wire.raw.decoded call.body = (call.request orderId).http := by
  -- Method, path and query are read back from the target, call by call.
  have get : methodOf "GET" = .get := by decide
  have post : methodOf "POST" = .post := by decide
  have delete : methodOf "DELETE" = .delete := by decide
  have nothing : Query.parse (String.ofList []) = [] := by decide
  cases call with
  | fetchBook symbol =>
    have path : String.ofList (bookPath symbol).characters = "/api/v1/books/" ++ symbol ++ "/" := by
      rw [bookPath, characters_codePoints, String.ofList_toList]
    have target := (splitTarget_book sendable).1
    simp only [Call.wire, WireRequest.raw, RawRequest.decoded, target, path, nothing,
      Call.body, Call.request, ClientRequest.http, HttpRequest.bookDetail]
    rw [show (bookRequest symbol).method = "GET" from rfl, get]
  | submitOrder intent =>
    have target := (splitTarget_orders intent).1
    simp only [Call.wire, WireRequest.raw, RawRequest.decoded, target, nothing,
      Call.body, Call.request, ClientRequest.http, HttpRequest.createOrder, String.ofList_toList]
    rw [show (orderRequest intent).method = "POST" from rfl, post]
  -- The path has the identifier, and the query the symbol.
  | cancelOrder canceled symbol =>
    have target := (splitTarget_cancel sendable canceled).1
    have query := parse_symbol (isPlain_ticker sendable)
    have path : String.ofList ("/api/v1/orders/".toList ++ (uuidText canceled ++ ['/'])) =
        "/api/v1/orders/" ++ String.ofList (uuidText canceled) ++ "/" := by
      have slash : "/".toList = ['/'] := rfl
      rw [← String.toList_inj]
      simp only [String.toList_append, String.toList_ofList, List.append_assoc, slash]
    simp only [Call.wire, WireRequest.raw, RawRequest.decoded, target, query, path, Call.body,
      Call.request, ClientRequest.http, HttpRequest.cancelOrder, String.ofList_toList]
    rw [show (cancelRequest (codePoints (String.ofList (uuidText canceled))) symbol).method =
      "DELETE" from rfl, delete]

/-- The body of an order has its five fields. -/
theorem exists_orderFields (intent : OrderIntent) : ∃ fields, orderPayload intent = .object fields ∧
    Json.field? fields "user_id" = some (.text (codePoints intent.userId)) ∧
    Json.field? fields "symbol" = some (.text (codePoints intent.symbol)) ∧
    Json.field? fields "side" = some (.text (codePoints intent.side.value)) ∧
    Json.field? fields "price" = some (.integer intent.price) ∧
    Json.field? fields "qty" = some (.integer intent.quantity) :=
  ⟨_, rfl, (field?_record _ _).trans rfl, (field?_record _ _).trans rfl,
    (field?_record _ _).trans rfl, (field?_record _ _).trans rfl, (field?_record _ _).trans rfl⟩

/-- The body of an order is loaded again, be the reader strict or not. -/
theorem loadsWith_orderBody (strict : Bool) {intent : OrderIntent}
    (price : isUnwritable intent.price = false) (quantity : isUnwritable intent.quantity = false)
    (deep : 1 ≤ nesting) :
    Json.loadsWith strict nesting (Json.write Json.defaultStyle (orderPayload intent)) =
      .ok (orderPayload intent) := by
  -- The payload is written and read back, and strict reading refuses nothing in it.
  have legible : Json.Legible Json.defaultStyle 1 (orderPayload intent) := by
    refine .record (by simp) ?_
    simp only [List.forall_mem_cons]
    exact ⟨.string _, .string _, .string _, .integer (isUnwritable_eq_false_iff.mp price),
      .integer (isUnwritable_eq_false_iff.mp quantity), nofun⟩
  exact Json.loadsWith_write strict (legible.deeper deep)

/-- The body of an order is not empty. -/
theorem orderBody_ne_nil (intent : OrderIntent) :
    encodeText (Json.write Json.defaultStyle (orderPayload intent)) ≠ [] := by
  -- Nothing would be decoded to nothing, but the body begins with a brace.
  intro nothing
  have decoded : Utf8.strict? (encodeText (Json.write Json.defaultStyle (orderPayload intent))) =
      some (Json.write Json.defaultStyle (orderPayload intent)) := Utf8.strict?_encode _
  rw [nothing] at decoded
  cases decoded

/-- What the gateway reads from the bytes of a call is what it reads from the decoded call. -/
theorem decodesTo_call {call : Call} (sendable : call.IsSendable) (deep : 1 ≤ nesting) :
    call.wire.raw.body.DecodesTo nesting prints call.body := by
  -- Only an order has a body, which is read back as it was written.
  cases call with
  | fetchBook symbol => rfl
  | cancelOrder canceled symbol => rfl
  | submitOrder intent =>
    have loaded := loadsWith_orderBody false sendable.1 sendable.2 deep
    have decoded : Utf8.strict? (encodeText (Json.write Json.defaultStyle (orderPayload intent))) =
        some (Json.write Json.defaultStyle (orderPayload intent)) := Utf8.strict?_encode _
    obtain ⟨fields, payload, _, named, _⟩ := exists_orderFields intent
    exact decodesTo_order decoded (orderBody_ne_nil intent) (loaded.trans (congrArg _ payload)) named
      rfl

/-- The gateway routes the bytes of a call as it routes the call. -/
theorem routeRawRequest_call {call : Call} (sendable : call.IsSendable) (deep : 1 ≤ nesting)
    (positive : 1 ≤ count) (orderId : UUID) :
    (routeRawRequest nesting prints call.wire.raw tickers count).mapError
        RoutingException.failure = routeRequest (call.request orderId).http tickers count := by
  rw [routeRawRequest_decoded (decodesTo_call sendable deep) tickers positive,
    decoded_call sendable orderId]

end Gateway

end BackendApiClient

end StockMarket
