import StockMarket.Deployment.ShardPartition
import StockMarket.Orderbook.Types

/-! The requests of clients as they arrive at the gateway, and where each of them is routed. -/

namespace StockMarket

/-- The text of an identifier: its hexadecimal digits in five groups. -/
def uuidText (orderId : UUID) : List Char :=
  let digits := hexDigits orderId.toNat 32
  digits.take 8 ++ '-' :: (digits.drop 8).take 4 ++ '-' :: (digits.drop 12).take 4 ++
    '-' :: (digits.drop 16).take 4 ++ '-' :: digits.drop 20

namespace HttpRequest

/-- A request that submits an order. -/
def createOrder (body : Body) : HttpRequest := ⟨.post, "/api/v1/orders/", [], body⟩

/-- A request that cancels an order. -/
def cancelOrder (orderId : UUID) (query : List (String × String)) : HttpRequest :=
  ⟨.delete, "/api/v1/orders/" ++ String.ofList (uuidText orderId) ++ "/", query, .absent⟩

/-- A request for a book. -/
def bookDetail (symbol : String) : HttpRequest :=
  ⟨.get, "/api/v1/books/" ++ symbol ++ "/", [], .absent⟩

/-- A request for trades. -/
def recentTradeList (query : List (String × String)) : HttpRequest :=
  ⟨.get, "/api/v1/trades/", query, .absent⟩

end HttpRequest

/-- The route to the shard of a symbol, once the symbol has been read. -/
def routeSymbol (tickers : List String) (count : Nat) (read : Except RoutingFailure String) :
    Except RoutingFailure Route :=
  match read with
  | .error failure => .error failure
  | .ok symbol =>
    match shardForTicker tickers symbol count with
    | none => .error (.routingError 400 "symbol is not in the current simulation set")
    | some shard => .ok ⟨shard, some symbol, none⟩

namespace Path

/-- A literal beginning is followed by what was put behind it. -/
theorem after?_append (literal : String) (rest : List Char) :
    after? literal (literal.toList ++ rest) = some rest := by
  rw [after?, if_pos (List.isPrefixOf_iff_prefix.mpr (List.prefix_append _ _)), List.drop_left]

/-- A path continues behind a literal exactly when it begins with it. -/
theorem after?_eq_some_iff {literal : String} {path rest : List Char} :
    after? literal path = some rest ↔ path = literal.toList ++ rest := by
  -- What is behind a literal is what the literal was put in front of.
  constructor
  · intro found
    unfold after? at found
    split at found
    · rename_i begins
      cases found
      exact (List.prefix_iff_eq_append.mp (List.isPrefixOf_iff_prefix.mp begins)).symm
    · cases found
  · rintro rfl
    exact after?_append literal rest

/-- An identifier is written with hexadecimal digits and dashes. -/
theorem isHexOrDash_uuidText {orderId : UUID} {c : Char} (member : c ∈ uuidText orderId) :
    isHexOrDash c = true := by
  have digit : ∀ c ∈ hexDigits orderId.toNat 32, isHexOrDash c = true := by
    intro c inside
    rw [isHexOrDash, isHexDigit_of_mem inside, Bool.true_or]
  simp only [uuidText, List.cons_append, List.append_assoc, List.mem_append, List.mem_cons] at member
  -- Every group is a part of the digits, and dashes stand between the groups.
  rcases member with first | rfl | second | rfl | third | rfl | fourth | rfl | last
  · exact digit c (List.mem_of_mem_take first)
  · rfl
  · exact digit c (List.mem_of_mem_drop (List.mem_of_mem_take second))
  · rfl
  · exact digit c (List.mem_of_mem_drop (List.mem_of_mem_take third))
  · rfl
  · exact digit c (List.mem_of_mem_drop (List.mem_of_mem_take fourth))
  · rfl
  · exact digit c (List.mem_of_mem_drop last)

/-- A run of a class is read up to the slash that ends the path. -/
theorem runThenEnd_slash {test : Char → Bool} {run : List Char} (nonempty : run ≠ [])
    (accepted : ∀ c ∈ run, test c = true) (slash : test '/' = false) :
    runThenEnd test (run ++ ['/']) = some run := by
  -- The run ends at the slash, which is all that is left.
  have taken : (run ++ ['/']).takeWhile test = run := by
    rw [List.takeWhile_append_of_pos accepted]
    simp [slash]
  have dropped : (run ++ ['/']).dropWhile test = ['/'] := by
    rw [List.dropWhile_append_of_pos accepted]
    simp [slash]
  rw [runThenEnd, taken, dropped, if_pos ⟨nonempty, rfl⟩]

end Path

/-- A path that starts with a slash is taken as it is. -/
theorem normalizedPath_eq {request : HttpRequest} {path : List Char}
    (same : request.path.toList = path) (slash : path.head? = some '/') :
    request.normalizedPath = path := by
  rw [HttpRequest.normalizedPath, same, if_pos slash]

section Routes

variable {tickers : List String} {count : Nat}

/-- A request whose path names neither a shard nor the first shard is routed by its symbol. -/
theorem routeRequest_symbol {request : HttpRequest} (positive : 1 ≤ count)
    (indexed : routeForIndexedShard request.method request.normalizedPath count = .ok none)
    (default : Path.isDefaultShard request.normalizedPath = false) :
    routeRequest request tickers count =
      routeSymbol tickers count (symbolFromRequest request request.normalizedPath) := by
  rw [routeRequest_eq positive, indexed]
  simp only [default, Bool.false_eq_true, if_false]
  rfl

/-- Paths under orders, trades, and books name neither a shard nor the first shard. -/
theorem routeRequest_under {request : HttpRequest} {rest : List Char} (positive : 1 ≤ count)
    {literal : String} (literals : literal ∈ ["/api/v1/orders", "/api/v1/trades", "/api/v1/books/"])
    (path : request.normalizedPath = literal.toList ++ rest) :
    routeRequest request tickers count =
      routeSymbol tickers count (symbolFromRequest request request.normalizedPath) := by
  -- Such a path neither names a shard nor goes to the default one.
  simp only [List.mem_cons, List.not_mem_nil, or_false] at literals
  refine routeRequest_symbol positive ?_ ?_
  · rw [path, routeForIndexedShard]
    rcases literals with rfl | rfl | rfl
    all_goals
      split
      · rfl
      · rfl
  · rw [path]
    rcases literals with rfl | rfl | rfl <;> rfl

/-- The path of an order starts with a slash, so it is taken as it is. -/
theorem createOrder_path (body : Body) : (HttpRequest.createOrder body).normalizedPath =
    "/api/v1/orders".toList ++ ['/'] :=
  normalizedPath_eq (by show "/api/v1/orders/".toList = _; decide) (by decide)

/-- The path of a read of trades is taken as it is. -/
theorem recentTradeList_path (query : List (String × String)) :
    (HttpRequest.recentTradeList query).normalizedPath = "/api/v1/trades".toList ++ ['/'] :=
  normalizedPath_eq (by show "/api/v1/trades/".toList = _; decide) (by decide)

/-- The path of a read of a book is taken as it is. -/
theorem bookDetail_path (symbol : String) : (HttpRequest.bookDetail symbol).normalizedPath =
    "/api/v1/books/".toList ++ (symbol.toList ++ ['/']) := by
  -- The path begins and ends with a slash, so that nothing is added to it.
  have whole : (HttpRequest.bookDetail symbol).path.toList =
      "/api/v1/books/".toList ++ (symbol.toList ++ ['/']) := by
    simp only [HttpRequest.bookDetail, String.toList_append, List.append_assoc]
    rfl
  exact normalizedPath_eq whole rfl

/-- An order is routed by the symbol in its body. -/
theorem route_createOrder (positive : 1 ≤ count) (body : Body) :
    routeRequest (.createOrder body) tickers count =
      routeSymbol tickers count (symbolFromOrderBody body) := by
  -- The symbol of an order that is posted is read from its body.
  have path := createOrder_path body
  have create : Path.isOrderCreate ("/api/v1/orders".toList ++ ['/']) = true := by decide
  have read : symbolFromRequest (.createOrder body)
      (HttpRequest.createOrder body).normalizedPath = symbolFromOrderBody body := by
    rw [path]
    simp only [symbolFromRequest, HttpRequest.createOrder, create, if_true]
  rw [routeRequest_under positive (by simp) path, read]

/-- The path of a cancel starts with a slash, so it is taken as it is. -/
theorem cancelOrder_path (orderId : UUID) (query : List (String × String)) :
    (HttpRequest.cancelOrder orderId query).normalizedPath =
      "/api/v1/orders/".toList ++ (uuidText orderId ++ ['/']) := by
  -- The identifier stands behind the literal, and ends with the slash.
  have whole : (HttpRequest.cancelOrder orderId query).path.toList =
      "/api/v1/orders/".toList ++ (uuidText orderId ++ ['/']) := by
    simp only [HttpRequest.cancelOrder, String.toList_append, String.toList_ofList,
      List.append_assoc]
    rfl
  refine normalizedPath_eq whole ?_
  generalize uuidText orderId ++ ['/'] = rest
  rfl

/-- A cancel is routed by the symbol in its query. -/
theorem route_cancelOrder (positive : 1 ≤ count) (orderId : UUID) (query : List (String × String)) :
    routeRequest (.cancelOrder orderId query) tickers count =
      routeSymbol tickers count (requiredQuerySymbol query) := by
  -- The symbol of a cancelled order is read from the query.
  have path := cancelOrder_path orderId query
  have nonempty : uuidText orderId ≠ [] := by simp [uuidText]
  -- Digits and dashes are followed by the slash, and nothing else is there.
  have cancel : Path.isOrderCancel ("/api/v1/orders/".toList ++ (uuidText orderId ++ ['/'])) =
      true := by
    rw [Path.isOrderCancel, Path.after?_append]
    simp only [Path.runThenEnd_slash nonempty (fun c => Path.isHexOrDash_uuidText) rfl,
      Option.isSome_some]
  have longer : "/api/v1/orders/".toList ++ (uuidText orderId ++ ['/']) =
      "/api/v1/orders".toList ++ ('/' :: (uuidText orderId ++ ['/'])) := by
    generalize uuidText orderId ++ ['/'] = rest
    rfl
  have read : symbolFromRequest (.cancelOrder orderId query)
      (HttpRequest.cancelOrder orderId query).normalizedPath = requiredQuerySymbol query := by
    rw [path]
    simp only [symbolFromRequest, HttpRequest.cancelOrder, cancel, if_true]
  rw [routeRequest_under positive (by simp) (path.trans longer), read]

/-- A read of trades is routed by the symbol in its query. -/
theorem route_recentTradeList (positive : 1 ≤ count) (query : List (String × String)) :
    routeRequest (.recentTradeList query) tickers count =
      routeSymbol tickers count (requiredQuerySymbol query) := by
  -- The path is that of no book, and the symbol is read from the query.
  have path := recentTradeList_path query
  have book : Path.book? ("/api/v1/trades".toList ++ ['/']) = none := by decide
  have trades : Path.isTrades ("/api/v1/trades".toList ++ ['/']) = true := by decide
  have read : symbolFromRequest (.recentTradeList query)
      (HttpRequest.recentTradeList query).normalizedPath = requiredQuerySymbol query := by
    rw [path]
    simp only [symbolFromRequest, HttpRequest.recentTradeList, book, trades, if_true]
  rw [routeRequest_under positive (by simp) path, read]

/-- A read of a book is routed by the symbol in its path when that is six digits. -/
theorem route_bookDetail (positive : 1 ≤ count) {symbol : String}
    (six : symbol.toList.length = 6) (digits : ∀ c ∈ symbol.toList, isDecimal c = true) :
    routeRequest (.bookDetail symbol) tickers count = routeSymbol tickers count (.ok symbol) := by
  have path := bookDetail_path symbol
  -- The six characters are taken for the symbol, and a slash is left.
  have taken : (symbol.toList ++ ['/']).take 6 = symbol.toList := by
    rw [← six, List.take_left]
  have dropped : (symbol.toList ++ ['/']).drop 6 = ['/'] := by
    rw [← six, List.drop_left]
  have book : Path.book? ("/api/v1/books/".toList ++ (symbol.toList ++ ['/'])) =
      some symbol.toList := by
    rw [Path.book?, Path.after?_append]
    simp only [taken, dropped]
    rw [if_pos ⟨six, List.all_eq_true.mpr digits, rfl⟩]
  have read : symbolFromRequest (.bookDetail symbol)
      (HttpRequest.bookDetail symbol).normalizedPath = .ok symbol := by
    rw [path]
    simp only [symbolFromRequest, HttpRequest.bookDetail, book, String.ofList_toList]
  rw [routeRequest_under positive (by simp) path, read]

end Routes

end StockMarket
