import StockMarket.Deployment.RoutingLaws
import StockMarket.Matcher.Views

/-! The symbol that the gateway routes by beside the symbol that the matcher reads. -/

namespace StockMarket

/-- The first value of a parameter, as the gateway takes it. -/
def queryFirst (query : List (String × String)) (name : String) : Option String :=
  (query.find? fun item => item.1 = name).map Prod.snd

/-- The last value of a parameter, as the framework takes it. -/
def queryGet (query : List (String × String)) (name : String) : Option String :=
  (query.reverse.find? fun item => item.1 = name).map Prod.snd

/-- A text field of a decoded body; numbers are read as their text. -/
def textField : Option JsonValue → Field String
  | none => .missing
  | some .null => .null
  | some (.bool value) => .invalid (JsonValue.bool value).printed
  | some (.integer value) => .given (toString value)
  | some (.float printed) => .given printed
  | some (.text value) => .given value
  | some (.container printed _) => .invalid printed

namespace HttpRequest

/-- The symbol in the path of a book, up to the slash that must end the path. -/
def pathSymbol (rest : List Char) : Option String :=
  if rest.dropWhile (· ≠ '/') = ['/'] then some (String.ofList (rest.takeWhile (· ≠ '/'))) else none

/-- The symbol that the view behind a request reads, if it gets that far. -/
def viewSymbol (request : HttpRequest) : Option String :=
  match request.method with
  | .get =>
    match Path.after? "/api/v1/books/" request.normalizedPath with
    | some rest => pathSymbol rest
    | none => some (strip ((queryGet request.query "symbol").getD ""))
  | .post =>
    match request.body with
    | .object payload => (charField 6 (textField (payload.get? "symbol"))).toOption
    | _ => none
  | .delete => some (strip ((queryGet request.query "symbol").getD ""))
  | .patch => none

/-- A cancel or a read of trades, whose symbol is in the query. -/
def readsQuery (request : HttpRequest) : Bool :=
  match request.method with
  | .get => Path.isTrades request.normalizedPath
  | .delete => Path.isOrderCancel request.normalizedPath
  | _ => false

/-- The first symbol of the query is blank or, stripped, the same as the last one. -/
def queryAgrees (request : HttpRequest) : Prop :=
  strip ((queryFirst request.query "symbol").getD "") = "" ∨
    strip ((queryFirst request.query "symbol").getD "") =
      strip ((queryGet request.query "symbol").getD "")

/-- Whenever the gateway routes a request by a symbol, the view reads the same symbol. -/
def ReadAlike (request : HttpRequest) : Prop :=
  ∀ tickers count route symbol read, routeRequest request tickers count = .ok route →
    route.symbol = some symbol → request.viewSymbol = some read → read = symbol

end HttpRequest

section Reads

variable {request : HttpRequest} {tickers : List String} {count : Nat} {route : Route}
  {symbol read : String}

/-- The gateway requires the first symbol of the query not to be blank. -/
theorem requiredQuerySymbol_eq (query : List (String × String)) : requiredQuerySymbol query =
    if strip ((queryFirst query "symbol").getD "") = "" then
      .error (.routingError 400 "symbol is required")
    else .ok (strip ((queryFirst query "symbol").getD "")) := by
  -- A symbol that is missing is read as a blank one.
  have blank : strip "" = "" := by decide
  unfold requiredQuerySymbol queryFirst
  cases query.find? (fun item => item.1 = "symbol") with
  | none => simp only [Option.map_none, Option.getD_none, blank]
  | some item => simp only [Option.map_some, Option.getD_some]

/-- The symbol of a route is the one read from the request. -/
theorem routeRequest_read (routed : routeRequest request tickers count = .ok route)
    (named : route.symbol = some symbol) :
    symbolFromRequest request request.normalizedPath = .ok symbol := by
  -- A route with a symbol is neither that of a shard nor the default one.
  by_cases positive : 1 ≤ count
  · rw [routeRequest_eq positive] at routed
    split at routed
    · cases routed
    · rename_i indexed
      cases routed
      rw [routeForIndexedShard_symbol indexed] at named
      cases named
    · split at routed
      · cases routed
        cases named
      · split at routed
        · cases routed
        · rename_i found
          split at routed
          · cases routed
          · cases routed
            cases named
            exact found
  · -- Without shards nothing is routed.
    have none_left : count < 1 := by omega
    simp [routeRequest, none_left, Bind.bind, Except.bind, throw, throwThe, MonadExceptOf.throw]
      at routed

/-- No decimal digit is a slash. -/
theorem ne_slash_of_isDecimal {c : Char} (digit : isDecimal c = true) : c ≠ '/' := by
  rintro rfl
  revert digit
  decide

/-- A value that the serializer takes as a text is the text that it prints as. -/
theorem printed_of_given {json : Option JsonValue} {value : String}
    (given : textField json = .given value) : value = (json.getD .null).printed := by
  cases json with
  | none => cases given
  | some json => cases json <;> cases given <;> rfl

/-- A body whose symbol the serializer accepts is routed by that symbol, if it is routed. -/
theorem orderBody_agrees {payload : Dict String JsonValue}
    (routed : symbolFromOrderBody (.object payload) = .ok symbol)
    (accepted : charField 6 (textField (payload.get? "symbol")) = .ok read) : read = symbol := by
  obtain ⟨value, given, rfl, present⟩ := charField_eq accepted
  rw [printed_of_given given]
  unfold symbolFromOrderBody at routed
  by_cases truthy : ((payload.get? "symbol").getD .null).truthy = true
  · simp only [if_pos truthy] at routed
    split_ifs at routed
    cases routed
    rfl
  · -- A value that counts as false leaves nothing to route by.
    have blank : strip "" = "" := by decide
    simp only [if_neg truthy, if_pos blank] at routed
    cases routed

/-- Behind an accepted text stands a slash, or nothing but a newline. -/
theorem takeWhile_of_ends {rest : List Char} (ended : Path.ends rest = true) :
    rest.takeWhile (fun c => decide (c ≠ '/')) = [] ∨ rest = ['\n'] := by
  -- At its end a path has at most one line feed left.
  unfold Path.ends at ended
  split at ended
  · exact .inl rfl
  · rcases of_decide_eq_true ended with rfl | rfl
    · exact .inl rfl
    · exact .inr rfl

/-- A book path is resolved to the symbol that the gateway takes it for, or to nothing. -/
theorem book_agrees {path rest raw : List Char} (found : Path.book? path = some raw)
    (begins : Path.after? "/api/v1/books/" path = some rest)
    (resolved : HttpRequest.pathSymbol rest = some read) : read = String.ofList raw := by
  rw [Path.book?, begins] at found
  simp only at found
  split at found
  · rename_i shape
    obtain ⟨_, digits, ended⟩ := shape
    -- No digit is a slash, so the segment of the path begins with the six digits.
    have solid : ∀ c ∈ rest.take 6, decide (c ≠ '/') = true := by
      intro c member
      exact decide_eq_true (ne_slash_of_isDecimal (List.all_eq_true.mp digits c member))
    unfold HttpRequest.pathSymbol at resolved
    rw [← List.take_append_drop 6 rest, List.dropWhile_append_of_pos solid,
      List.takeWhile_append_of_pos solid] at resolved
    -- The six digits are followed by the end, or by a newline before it.
    cases takeWhile_of_ends ended with
    | inl nothing =>
      split at resolved
      · rw [nothing, List.append_nil] at resolved
        cases resolved
        cases found
        rfl
      · cases resolved
    | inr newline =>
      simp [newline] at resolved
  · cases found

/-- Only cancels and reads of trades that name a symbol are routed by the query. -/
theorem queryRead_agrees (agrees : request.queryAgrees)
    (routed : requiredQuerySymbol request.query = .ok symbol) :
    strip ((queryGet request.query "symbol").getD "") = symbol := by
  -- Routing reads the symbol that the view is assumed to read.
  rw [requiredQuerySymbol_eq] at routed
  split at routed
  · cases routed
  · rename_i present
    cases routed
    cases agrees with
    | inl blank => exact absurd blank present
    | inr same => exact same.symm

/-- The path of a trades request is not the path of a book. -/
theorem books_of_isTrades {path : List Char} (trades : Path.isTrades path = true) :
    Path.after? "/api/v1/books/" path = none := by
  -- Behind the beginning of the path of a book, the path would have to be that of trades.
  cases begins : Path.after? "/api/v1/books/" path with
  | none => rfl
  | some rest =>
    cases Path.after?_eq_some_iff.mp begins
    cases trades

/-- A request whose symbol is in the query is routed and served by that query. -/
theorem readsQuery_spec (reads : request.readsQuery = true) :
    symbolFromRequest request request.normalizedPath = requiredQuerySymbol request.query ∧
      request.viewSymbol = some (strip ((queryGet request.query "symbol").getD "")) := by
  -- The paths that read a query are those of trades and of cancels.
  unfold HttpRequest.readsQuery at reads
  unfold symbolFromRequest HttpRequest.viewSymbol
  cases method : request.method with
  | get =>
    simp only [method] at reads
    have books := books_of_isTrades reads
    simp only [Path.book?, books, reads, if_true, and_self]
  | delete =>
    simp only [method] at reads
    simp only [reads, if_true, and_self]
  | post => rw [method] at reads; cases reads
  | patch => rw [method] at reads; cases reads

/-- A request whose symbol is in the query is routed to the shard of that symbol. -/
theorem routeRequest_query (positive : 1 ≤ count) (reads : request.readsQuery = true) :
    routeRequest request tickers count =
      routeSymbol tickers count (requiredQuerySymbol request.query) := by
  have read := (readsQuery_spec reads).1
  unfold HttpRequest.readsQuery at reads
  split at reads
  · -- Trades.
    unfold Path.isTrades Path.isLiteral at reads
    split at reads
    · rename_i rest begins
      rw [routeRequest_under positive (by simp) (Path.after?_eq_some_iff.mp begins), read]
    · cases reads
  · -- Cancels, whose path is longer than that of the orders.
    unfold Path.isOrderCancel at reads
    split at reads
    · rename_i rest begins
      have longer : request.normalizedPath = "/api/v1/orders".toList ++ '/' :: rest :=
        (Path.after?_eq_some_iff.mp begins).trans rfl
      rw [routeRequest_under positive (by simp) longer, read]
    · cases reads
  · cases reads

/-- A request whose symbol is in its path or in its body is served by the symbol it is routed by. -/
theorem pathOrBody_agrees (reads : ¬request.readsQuery = true)
    (found : symbolFromRequest request request.normalizedPath = .ok symbol)
    (viewed : request.viewSymbol = some read) : read = symbol := by
  -- Without a query, the symbol stands in the path of a book or in the body of an order.
  unfold HttpRequest.readsQuery at reads
  unfold symbolFromRequest at found
  unfold HttpRequest.viewSymbol at viewed
  cases method : request.method with
  | get =>
    simp only [method] at reads found viewed
    cases book : Path.book? request.normalizedPath with
    | none =>
      simp only [book, if_neg reads] at found
      cases found
    | some raw =>
      simp only [book] at found
      cases found
      cases begins : Path.after? "/api/v1/books/" request.normalizedPath with
      | none =>
        simp only [Path.book?, begins] at book
        cases book
      | some rest =>
        simp only [begins] at viewed
        exact book_agrees book begins viewed
  -- The body of an order is an object for both, and the symbol is one of its fields.
  | post =>
    simp only [method] at found viewed
    split at found
    · split at viewed
      · rename_i payload object
        rw [object] at found
        cases accepted : charField 6 (textField (payload.get? "symbol")) with
        | error messages => rw [accepted] at viewed; cases viewed
        | ok value =>
          rw [accepted] at viewed
          cases viewed
          exact orderBody_agrees found accepted
      · cases viewed
    · cases found
  -- A cancel reads the query, which is excluded here.
  | delete =>
    simp only [method] at reads found
    rw [if_neg reads] at found
    cases found
  | patch =>
    simp only [method] at found
    cases found

end Reads

/-- The only ticker is on the only shard. -/
theorem shardForTicker_singleton (ticker : String) : shardForTicker [ticker] ticker 1 = some 0 := by
  simp [shardForTicker, matcherShard]

/-- The gateway and the matcher read the same symbol from every request if and only if the query
of a cancel or of a read of trades begins and ends with the same symbol. -/
theorem symbols_agree_iff (request : HttpRequest) :
    request.ReadAlike ↔ (request.readsQuery = true → request.queryAgrees) := by
  constructor
  · intro alike reads
    -- What the gateway reads is routed when the universe holds nothing else.
    generalize first : strip ((queryFirst request.query "symbol").getD "") = symbol at *
    by_cases blank : symbol = ""
    · exact .inl (first.trans blank)
    · have routed : routeRequest request [symbol] 1 = .ok ⟨0, some symbol, none⟩ := by
        rw [routeRequest_query (le_refl 1) reads, requiredQuerySymbol_eq, first, if_neg blank]
        simp only [routeSymbol, shardForTicker_singleton]
      have same := alike [symbol] 1 _ symbol _ routed rfl (readsQuery_spec reads).2
      exact .inr (first.trans same.symm)
  · -- What does not read the query agrees in any case.
    intro agrees tickers count route symbol read routed named viewed
    have found := routeRequest_read routed named
    by_cases reads : request.readsQuery = true
    · rw [(readsQuery_spec reads).1] at found
      rw [(readsQuery_spec reads).2] at viewed
      cases viewed
      exact queryRead_agrees (agrees reads) found
    · exact pathOrBody_agrees reads found viewed

/-- A cancel that names two symbols is routed by one and checked for the other. -/
theorem symbols_differ :
    ¬(HttpRequest.cancelOrder 0 [("symbol", "005930"), ("symbol", "000660")]).ReadAlike := by
  -- The first symbol routes the request, and the view takes the last one.
  intro alike
  have routed : routeRequest (.cancelOrder 0 [("symbol", "005930"), ("symbol", "000660")])
      ["005930", "000660"] 2 = .ok ⟨0, some "005930", none⟩ := by
    rw [route_cancelOrder (by decide)]
    decide
  have same := alike _ _ _ "005930" "000660" routed rfl (by decide)
  exact absurd same (by decide)

end StockMarket
