import StockMarket.Deployment.CancelTruth
import StockMarket.Deployment.ShortCodes

/-! With expiry off, any number of matchers behind the gateway answers like a single one. -/

namespace StockMarket

section Ageless

variable {book : OrderBook}

/-- The operation without its clock readings. -/
def BookOp.undated : BookOp → BookOp
  | .submit order _ _ => .submit order 0 0
  | .cancel orderId _ => .cancel orderId 0
  | .getOpenOrder orderId _ => .getOpenOrder orderId 0
  | .openOrders side _ => .openOrders side 0
  | .snapshot _ => .snapshot 0
  | .totalQuantity side _ => .totalQuantity side 0
  | .bestPrice side _ => .bestPrice side 0
  | .recentTrades limit => .recentTrades limit

/-- Clock readings bring no identifiers. -/
@[simp] theorem undated_newIds (op : BookOp) : op.undated.newIds = op.newIds := by
  cases op <;> rfl

/-- Without a maximum age an order comes to rest without a time. -/
theorem place_ageless (ok : BookOk book) (ageless : book.config.maxAgeSeconds = 0) (order : Order)
    (restAt : ℚ) : book.place order restAt = book.place order 0 := by
  have nonneg : 0 ≤ order.quantity := order.quantity_pos.le
  have enough : order.quantity < ((order.quantity.toNat + 1 : Nat) : Int) := by omega
  obtain ⟨matched, ran, _, later, _, _, _⟩ :=
    matchLoop_spec order (order.quantity.toNat + 1) book order.quantity ok.core nonneg enough
  -- Matching keeps the age limit, by which the time is left out.
  have still : matched.config.maxAgeSeconds = 0 := later.config ▸ ageless
  simp only [OrderBook.place, ran, OrderBook.rest, still, if_true, Bind.bind, Except.bind]

/-- Without a maximum age an operation does not depend on the clock. -/
theorem perform_undated (ok : BookOk book) (ageless : book.config.maxAgeSeconds = 0) (op : BookOp) :
    book.perform op = book.perform op.undated := by
  -- Expiry is off, so no operation takes anything out before its own work.
  have unexpired : ∀ now, book.expire now = .ok (book, []) := fun now => if_pos ageless
  cases op with
  | submit order now restAt =>
    simp only [OrderBook.perform, BookOp.undated, OrderBook.submit, unexpired, Bind.bind,
      Except.bind, place_ageless ok ageless order restAt]
  | cancel orderId now | getOpenOrder orderId now | openOrders side now | snapshot now
  | totalQuantity side now | bestPrice side now =>
    simp only [OrderBook.perform, BookOp.undated, OrderBook.cancel, OrderBook.getOpenOrder,
      OrderBook.openOrders, OrderBook.snapshot, OrderBook.totalQuantity, OrderBook.bestPrice,
      unexpired, Bind.bind, Except.bind]
  | recentTrades limit => rfl

/-- Without a maximum age the depths do not depend on the clock. -/
theorem readDepths_ageless (ok : BookOk book) (ageless : book.config.maxAgeSeconds = 0)
    (clock clock' : Readings) : book.readDepths clock = book.readDepths clock' := by
  obtain ⟨book', reply, calls, _, _, ran, done⟩ :=
    perform_spec ok (.totalQuantity .buy 0) (by simp [BookOp.newIds])
  -- Reading the depth of the bids keeps the limit, so the asks are read without a clock as well.
  have still : book'.config.maxAgeSeconds = 0 := done.config_eq ▸ ageless
  have first : ∀ now, book.perform (.totalQuantity .buy now) = .ok (book', reply, calls) :=
    fun now => (perform_undated ok ageless _).trans ran
  have second : ∀ now, book'.perform (.totalQuantity .sell now) =
      book'.perform (.totalQuantity .sell 0) := fun now => perform_undated done.ok still _
  simp only [OrderBook.readDepths, first, Bind.bind, Except.bind, second clock.sellDepthAt,
    second clock'.sellDepthAt]

/-- Without a maximum age placing an order does not depend on the clock. -/
theorem placeOrder_ageless (ok : BookOk book) (ageless : book.config.maxAgeSeconds = 0)
    (clock clock' : Readings) {order : Order} (fresh : order.orderId ∉ book.plain.ids) :
    book.placeOrder clock order = book.placeOrder clock' order := by
  obtain ⟨book', reply, calls, _, _, ran, done⟩ := perform_spec ok (.submit order 0 0) (by
    intro orderId new
    rw [List.mem_singleton.mp new]
    exact (unindexed_iff_ids ok).mpr fresh)
  -- Submitting keeps the limit, so both depths after it are read without a clock.
  have still : book'.config.maxAgeSeconds = 0 := done.config_eq ▸ ageless
  have submitted : ∀ now restAt, book.perform (.submit order now restAt) =
      .ok (book', reply, calls) := fun now restAt => (perform_undated ok ageless _).trans ran
  simp only [OrderBook.placeOrder, submitted, Bind.bind, Except.bind,
    readDepths_ageless done.ok still clock clock']

/-- Without a maximum age a cancel does not depend on the clock. -/
theorem takeOrder_ageless (ok : BookOk book) (ageless : book.config.maxAgeSeconds = 0)
    (clock clock' : Readings) (orderId : UUID) :
    book.takeOrder clock orderId = book.takeOrder clock' orderId := by
  obtain ⟨book', reply, calls, _, _, ran, done⟩ :=
    perform_spec ok (.cancel orderId 0) (by simp [BookOp.newIds])
  -- The limit is kept by the cancel too.
  have still : book'.config.maxAgeSeconds = 0 := done.config_eq ▸ ageless
  have taken : ∀ now, book.perform (.cancel orderId now) = .ok (book', reply, calls) :=
    fun now => (perform_undated ok ageless _).trans ran
  simp only [OrderBook.takeOrder, taken, Bind.bind, Except.bind,
    readDepths_ageless done.ok still clock clock']

/-- Without a maximum age a read does not depend on the clock. -/
theorem look_ageless (ok : BookOk book) (ageless : book.config.maxAgeSeconds = 0) {op : BookOp}
    {answer : BookReply → Response} : book.look op answer = book.look op.undated answer := by
  simp only [OrderBook.look, perform_undated ok ageless op]

end Ageless

namespace Cluster

/-- A deployment that never closes and lets no order expire. -/
def lasting (tickers : List String) (count : Nat) (positive : 1 ≤ count) : ClusterSettings :=
  ⟨tickers, count, 0, .alwaysOpen, positive, noAge_nonneg⟩

/-- The settings of the only matcher of a deployment with one shard. -/
def single (tickers : List String) : MatcherSettings :=
  ⟨tickers, 0, 1, 0, .alwaysOpen, Nat.one_pos, noAge_nonneg⟩

/-- The tickers of six ordinary digits. -/
def isTicker (ticker : String) : Bool := isShortCode ticker && isNumeric ticker

section Naming

variable {ticker : String} {request : ClientRequest}

/-- Six digits are a short code. -/
theorem shortCode_of_isTicker (six : isTicker ticker = true) : isShortCode ticker = true :=
  (Bool.and_eq_true _ _ ▸ six).1

/-- Six digits are digits. -/
theorem isNumeric_of_isTicker (six : isTicker ticker = true) : isNumeric ticker = true :=
  (Bool.and_eq_true _ _ ▸ six).2

/-- Six digits are not blank. -/
theorem isBlank_of_isTicker (six : isTicker ticker = true) : isBlank ticker = false := by
  -- A code of six characters has no blanks around it.
  obtain ⟨same, present⟩ := strip_of_isShortCode (shortCode_of_isTicker six)
  exact decide_eq_false (same.symm ▸ present)

/-- A ticker passes the checks of a symbol field as it is. -/
theorem charField_ticker (six : isTicker ticker = true) :
    charField 6 (.given ticker) = .ok ticker := by
  obtain ⟨same, present⟩ := strip_of_isShortCode (shortCode_of_isTicker six)
  have short : ¬ 6 < ticker.length := by
    have sized := (of_decide_eq_true (shortCode_of_isTicker six)).1
    rw [String.length_toList] at sized
    omega
  -- Each character is a digit, and the null character is none.
  have clean : '\x00' ∉ ticker.toList := fun member => by
    have digit := List.all_eq_true.mp (isNumeric_of_isTicker six) _ member
    cases digit
  simp only [charField, same, if_neg present, if_neg short, if_neg clean, List.append_nil, if_true]

/-- A request is routed by the ticker that it names. -/
theorem routed_of_names (six : isTicker ticker = true) (names : request.Names ticker)
    (tickers : List String) {count : Nat} (positive : 1 ≤ count) :
    routeRequest request.http tickers count = routeSymbol tickers count (.ok ticker) := by
  have code := shortCode_of_isTicker six
  obtain ⟨same, present⟩ := strip_of_isShortCode code
  -- Requests that name the ticker in their query have it read back unchanged.
  have queried : ∀ {query : List (String × String)}, queryFirst query "symbol" = some ticker →
      requiredQuerySymbol query = .ok ticker := fun first => by
    rw [requiredQuerySymbol_eq, first]
    simp only [Option.getD_some, same, if_neg present]
  cases request with
  | createOrder payload userId side price qty orderId =>
    rw [← symbolFromOrderBody_ticker code names]
    exact route_createOrder positive (.object payload)
  | cancelOrder orderId query =>
    rw [← queried names.1]
    exact route_cancelOrder positive orderId query
  -- The symbol of a book stands in the path.
  | bookDetail symbol =>
    cases names
    obtain ⟨six, digits⟩ := of_decide_eq_true ((isSixDigits_iff code).mpr (isNumeric_of_isTicker ‹_›))
    exact route_bookDetail positive six (List.all_eq_true.mp digits)
  | recentTradeList query limit =>
    rw [← queried names.1]
    exact route_recentTradeList positive query

end Naming

/-- Two tasks that differ in clock readings only, and concern one symbol's book. -/
inductive SameTask (symbol : String) : Task → Task → Prop where
  | refuse (response : Response) : SameTask symbol (.refuse response) (.refuse response)
  | place {order : Order} (own : order.symbol = symbol) : SameTask symbol (.place order) (.place order)
  | take (orderId : UUID) : SameTask symbol (.take orderId) (.take orderId)
  | look {op op' : BookOp} (answer : BookReply → Response) (same : op.undated = op'.undated)
      (brings_none : op.newIds = []) :
      SameTask symbol (.look symbol op answer) (.look symbol op' answer)

/-- Matchers that own the named ticker settle a request alike. -/
theorem task_of_names {first second : MatcherSettings} {ticker : String}
    (six : isTicker ticker = true) (simulated : first.isSimulatedSymbol ticker = true)
    (simulated' : second.isSimulatedSymbol ticker = true)
    (owns : first.owned.isOwnedSymbol ticker = true)
    (owns' : second.owned.isOwnedSymbol ticker = true) {request : ClientRequest}
    (names : request.Names ticker) (clock clock' : Readings) :
    SameTask ticker (request.view.task first clock) (request.view.task second clock') := by
  obtain ⟨same, present⟩ := strip_of_isShortCode (shortCode_of_isTicker six)
  cases request with
  | createOrder payload userId side price qty orderId =>
    -- The body holds the symbol as text.
    have field : textField (payload.get? "symbol") = .given ticker := by
      rw [show payload.get? "symbol" = some (.text ticker) from names]
      rfl
    simp only [ClientRequest.view, Request.task, field]
    -- An invalid field is refused by either matcher with the same response.
    cases created : (OrderData.given ⟨userId, .given ticker, side, price, qty⟩).createOrder
        orderId with
    | error response => exact .refuse response
    | ok order =>
      obtain ⟨_, fields, given, named⟩ := createOrder_eq created
      cases given
      rw [charField_ticker six] at named
      cases named
      simp only [simulated, simulated', owns, owns', not_true_eq_false, if_false]
      exact .place rfl
  -- The query names the ticker, which both matchers simulate and own.
  | cancelOrder orderId query =>
    simp only [ClientRequest.view, Request.task, names.2, Option.getD_some, same, simulated,
      simulated', owns, owns', not_true_eq_false, and_false, if_false]
    exact .take orderId
  | bookDetail symbol =>
    cases names
    exact .look snapshotAnswer rfl rfl
  | recentTradeList query limit =>
    have field : ClientRequest.queryField query "symbol" = .given ticker := by
      rw [ClientRequest.queryField, names.2]
    simp only [ClientRequest.view, Request.task, field, charField_ticker six]
    cases limitField limit with
    | error messages => exact .refuse _
    | ok limit => exact .look (tapeAnswer ticker) rfl rfl

/-- Requests whose tickers are in the universe; a cancel names the ticker of its order. -/
structure Proper (tickers : List String) (requests : List ClientRequest) : Prop where
  named : ∀ request ∈ requests, ∃ ticker ∈ tickers, request.Names ticker
  own : ∀ orderId query, .cancelOrder orderId query ∈ requests → ∀ request ∈ requests,
    orderId ∈ request.view.newIds → ∀ ticker, queryGet query "symbol" = some ticker →
      request.Names ticker
  distinct : (requests.flatMap fun request => request.view.newIds).Nodup

/-- The book of a ticker is the same at its own matcher and at the single one. -/
structure Alike {settings : ClusterSettings} (past : List ClientRequest)
    (cluster : Cluster settings) (registry : Registry) : Prop where
  matchers : ∀ shard, MatcherOk (settings.matcher shard) (cluster shard)
  only : MatcherOk (single settings.tickers) registry
  books : ∀ (shard : Fin settings.shardCount) ticker,
    shardForTicker settings.tickers ticker settings.shardCount = some shard.val →
      (cluster shard).bookOf ticker = registry.bookOf ticker
  ageless : ∀ ticker book, registry.bookOf ticker = some book → book.config.maxAgeSeconds = 0
  origin : ∀ ticker book, registry.bookOf ticker = some book → ∀ orderId ∈ book.plain.ids,
    ∃ request ∈ past, orderId ∈ request.view.newIds ∧ request.Names ticker
  known : ∀ shard, ∀ orderId ∈ (cluster shard).restingIds,
    orderId ∈ past.flatMap fun request => request.view.newIds
  known_only : ∀ orderId ∈ registry.restingIds,
    orderId ∈ past.flatMap fun request => request.view.newIds

section Steps

variable {settings : ClusterSettings} {past : List ClientRequest} {cluster : Cluster settings}
  {registry registry₁ registry₂ : Registry} {shard : Fin settings.shardCount} {ticker : String}

/-- A symbol that a matcher owns is assigned to it. -/
theorem assigned_of_isOwnedSymbol (distinct : settings.tickers.Nodup)
    (owns : (settings.matcher shard).owned.isOwnedSymbol ticker = true) :
    shardForTicker settings.tickers ticker settings.shardCount = some shard.val :=
  (owned_iff_shardForTicker distinct (settings.matcher shard).owned_slice).mp
    (of_decide_eq_true owns)

/-- The single matcher owns the whole universe. -/
theorem single_owns (member : ticker ∈ settings.tickers) :
    (single settings.tickers).owned.isOwnedSymbol ticker = true := by
  -- With a single shard the slice is the whole universe.
  have slice : ownedTickers settings.tickers 0 1 = .ok settings.tickers := rfl
  simpa only [MatcherSettings.owned, single, slice, Ownership.isOwnedSymbol,
    decide_eq_true_eq] using member

/-- A request that neither side's books notice keeps them alike. -/
theorem Alike.extend (alike : Alike past cluster registry) (request : ClientRequest) :
    Alike (past ++ [request]) cluster registry := by
  -- One more request in the past only adds to what may have brought an order.
  refine ⟨alike.matchers, alike.only, alike.books, alike.ageless, ?_, ?_, ?_⟩
  · intro ticker book here orderId member
    obtain ⟨earlier, inside, found⟩ := alike.origin ticker book here orderId member
    exact ⟨earlier, List.mem_append_left _ inside, found⟩
  · intro shard orderId member
    rw [List.flatMap_append]
    exact List.mem_append_left _ (alike.known shard orderId member)
  · intro orderId member
    rw [List.flatMap_append]
    exact List.mem_append_left _ (alike.known_only orderId member)

/-- A request names one ticker at most. -/
theorem names_unique {request : ClientRequest} {other : String} (names : request.Names ticker)
    (names' : request.Names other) : ticker = other := by
  -- A request names its ticker in one place.
  cases request with
  | createOrder payload userId side price qty orderId =>
    have same := Eq.trans (Eq.symm names) names'
    cases same
    rfl
  | cancelOrder orderId query => exact Option.some.inj (names.1.symm.trans names'.1)
  | bookDetail symbol => exact names.symm.trans names'
  | recentTradeList query limit => exact Option.some.inj (names.1.symm.trans names'.1)

/-- A book of a matcher belongs to a symbol that is assigned to it. -/
theorem Alike.assigned_of_bookOf (alike : Alike past cluster registry)
    (distinct : settings.tickers.Nodup) {book : OrderBook}
    (here : (cluster shard).bookOf ticker = some book) :
    shardForTicker settings.tickers ticker settings.shardCount = some shard.val := by
  obtain ⟨ref, listed, _⟩ := bookOf_eq_some_iff.mp here
  exact assigned_of_isOwnedSymbol distinct ((alike.matchers shard).owned_books ticker ref listed)

/-- An order of a ticker is in the map of its own matcher when it is in that of the single one. -/
theorem Alike.mapped_iff (alike : Alike past cluster registry) (distinct : settings.tickers.Nodup)
    (assigned : shardForTicker settings.tickers ticker settings.shardCount = some shard.val)
    {orderId : UUID} (own : ∀ request ∈ past, orderId ∈ request.view.newIds → request.Names ticker)
    (symbol : String) : (cluster shard).orderSymbols.get? orderId = some symbol ↔
      registry.orderSymbols.get? orderId = some symbol := by
  rw [(alike.matchers shard).mapped_iff, alike.only.mapped_iff]
  constructor
  · rintro ⟨book, here, member⟩
    have same := alike.books shard symbol (alike.assigned_of_bookOf distinct here)
    exact ⟨book, same ▸ here, member⟩
  · rintro ⟨book, here, member⟩
    -- The order was submitted for the ticker, so it rests in the ticker's book.
    obtain ⟨request, inside, brings, names⟩ := alike.origin symbol book here orderId member
    rw [← names_unique (own request inside brings) names] at here ⊢
    exact ⟨book, (alike.books shard ticker assigned).trans here, member⟩

/-- What a change of one ticker's book on both sides leaves alike. -/
theorem Alike.turned (alike : Alike past cluster registry)
    (assigned : shardForTicker settings.tickers ticker settings.shardCount = some shard.val)
    {book' : OrderBook} {newcomers : List UUID} {request : ClientRequest}
    (turned : Turned (settings.matcher shard) (cluster shard) registry₁ ticker book' newcomers)
    (turned' : Turned (single settings.tickers) registry registry₂ ticker book' newcomers)
    (ageless : book'.config.maxAgeSeconds = 0)
    (before : ∀ orderId ∈ book'.plain.ids, orderId ∈ newcomers ∨
      ∃ book, registry.bookOf ticker = some book ∧ orderId ∈ book.plain.ids)
    (brings : ∀ orderId ∈ newcomers, orderId ∈ request.view.newIds)
    (names : request.Names ticker) :
    Alike (past ++ [request]) (Function.update cluster shard registry₁) registry₂ := by
  have extended := alike.extend request
  have brought : ∀ orderId ∈ newcomers,
      orderId ∈ (past ++ [request]).flatMap fun request => request.view.newIds :=
    fun orderId new => List.mem_flatMap.mpr ⟨request, by simp, brings orderId new⟩
  refine ⟨fun other => ?_, turned'.ok, fun other symbol assigned' => ?_, fun symbol book here => ?_,
    fun symbol book here orderId member => ?_, fun other orderId member => ?_,
    fun orderId member => ?_⟩
  · -- Only the matcher of the shard has changed.
    by_cases same : other = shard
    · subst same
      rw [Function.update_self]
      exact turned.ok
    · rw [Function.update_of_ne same]
      exact alike.matchers other
  · by_cases same : symbol = ticker
    · -- The ticker itself is assigned to the shard that changed.
      subst same
      rw [assigned, Option.some.injEq] at assigned'
      rw [← Fin.ext assigned', Function.update_self, turned.book_eq, turned'.book_eq]
    · rw [turned'.others symbol same, ← alike.books other symbol assigned']
      by_cases here : other = shard
      · subst here
        rw [Function.update_self, turned.others symbol same]
      · rw [Function.update_of_ne here]
  · -- The ticker's new book never expires orders; the other books are unchanged.
    by_cases same : symbol = ticker
    · rw [same, turned'.book_eq] at here
      cases here
      exact ageless
    · rw [turned'.others symbol same] at here
      exact alike.ageless symbol book here
  · -- An order in the new book was brought by the request, or rested there before.
    by_cases same : symbol = ticker
    · subst same
      rw [turned'.book_eq] at here
      cases here
      rcases before orderId member with new | ⟨book, here, member⟩
      · exact ⟨request, by simp, brings orderId new, names⟩
      · exact extended.origin symbol book here orderId member
    · rw [turned'.others symbol same] at here
      exact extended.origin symbol book here orderId member
  · -- What rests at the matcher of the shard rested before or is new.
    by_cases same : other = shard
    · subst same
      rw [Function.update_self] at member
      rcases turned.resting orderId member with new | old
      · exact brought orderId new
      · exact extended.known other orderId old
    · rw [Function.update_of_ne same] at member
      exact extended.known other orderId member
  · -- The single matcher holds the same newcomers.
    rcases turned'.resting orderId member with new | old
    · exact brought orderId new
    · exact extended.known_only orderId old

end Steps

section Simulation

variable {tickers : List String} {count : Nat} {positive : 1 ≤ count} {past : List ClientRequest}
  {cluster : Cluster (lasting tickers count positive)} {registry registry₁ registry₂ : Registry}
  {shard : Fin (lasting tickers count positive).shardCount} {ticker : String}

/-- Both sides work on the same book, found or created. -/
theorem Alike.bookOrNew_eq (alike : Alike past cluster registry)
    (assigned : shardForTicker tickers ticker count = some shard.val)
    (named : isBlank ticker = false) :
    (cluster shard).bookOrNew ((lasting tickers count positive).matcher shard) ticker named =
      registry.bookOrNew (single tickers) ticker named := by
  -- The books are equal when they are there, and new ones have the same settings.
  rw [Registry.bookOrNew, Registry.bookOrNew, alike.books shard ticker assigned]
  rfl

/-- The book that a request works on is in order, never expires orders, and holds known ones. -/
theorem Alike.bookOrNew_spec (alike : Alike past cluster registry) (named : isBlank ticker = false) :
    BookOk (registry.bookOrNew (single tickers) ticker named) ∧
      (registry.bookOrNew (single tickers) ticker named).symbol = ticker ∧
      (registry.bookOrNew (single tickers) ticker named).config.maxAgeSeconds = 0 ∧
      ∀ orderId ∈ (registry.bookOrNew (single tickers) ticker named).plain.ids,
        ∃ book, registry.bookOf ticker = some book ∧ orderId ∈ book.plain.ids := by
  -- A new book holds nothing, and one that is there is as good as any.
  unfold Registry.bookOrNew
  cases here : registry.bookOf ticker with
  | some book =>
    obtain ⟨ok, own, _⟩ := alike.only.book_ok here
    exact ⟨ok, own, alike.ageless ticker book here, fun orderId member => ⟨book, rfl, member⟩⟩
  | none => exact ⟨new_ok _, rfl, rfl, fun orderId member => absurd member List.not_mem_nil⟩

/-- A request that changes no book leaves both sides alike. -/
theorem Alike.unmoved (alike : Alike past cluster registry) (request : ClientRequest) :
    Alike (past ++ [request]) (Function.update cluster shard (cluster shard)) registry := by
  rw [Function.update_eq_self]
  exact alike.extend request

/-- An order is placed alike in its own matcher and in the single one. -/
theorem Alike.placed (alike : Alike past cluster registry) {order : Order}
    (assigned : shardForTicker tickers order.symbol count = some shard.val)
    {request : ClientRequest} (names : request.Names order.symbol)
    (new : order.orderId ∈ request.view.newIds) (unused : order.orderId ∉ registry.restingIds)
    {clock clock' : Readings} {response₁ response₂ : Response}
    (carried₁ : Carried ((lasting tickers count positive).matcher shard) clock (cluster shard)
      (.place order) registry₁ response₁)
    (carried₂ : Carried (single tickers) clock' registry (.place order) registry₂ response₂) :
    response₁ = response₂ ∧
      Alike (past ++ [request]) (Function.update cluster shard registry₁) registry₂ := by
  cases carried₁ with
  | @placed _ _ book₁ _ _ ran₁ turned₁ =>
    cases carried₂ with
    | @placed _ _ book₂ _ _ ran₂ turned₂ =>
      obtain ⟨ok, symbol_eq, ageless, found⟩ := alike.bookOrNew_spec order.symbol_present
      -- The identifier is new to both sides.
      have fresh : order.orderId ∉
          (registry.bookOrNew (single tickers) order.symbol order.symbol_present).plain.ids := by
        intro member
        obtain ⟨book, here, member⟩ := found _ member
        exact unused (resting_of_bookOf here member)
      -- Both sides place the order in the same book, so the clocks are all that differs.
      rw [alike.bookOrNew_eq assigned, placeOrder_ageless ok ageless clock clock' fresh,
        ran₂] at ran₁
      cases ran₁
      obtain ⟨evolved, _⟩ := placeOrder_evolved ok symbol_eq.symm fresh ran₂
      refine ⟨rfl, alike.turned assigned turned₁ turned₂
        (evolved.config_eq ▸ ageless) (fun orderId member => ?_) ?_ names⟩
      · exact (evolved.ids orderId member).imp_right (found orderId)
      · exact fun orderId member => List.mem_singleton.mp member ▸ new

/-- An order is looked up and cancelled alike, in the matcher of its ticker and in the single one. -/
theorem Alike.taken (alike : Alike past cluster registry) (distinct : tickers.Nodup)
    (assigned : shardForTicker tickers ticker count = some shard.val) {request : ClientRequest}
    (names : request.Names ticker) {orderId : UUID}
    (own : ∀ earlier ∈ past, orderId ∈ earlier.view.newIds → earlier.Names ticker)
    {clock clock' : Readings} {response₁ response₂ : Response}
    (carried₁ : Carried ((lasting tickers count positive).matcher shard) clock (cluster shard)
      (.take orderId) registry₁ response₁)
    (carried₂ : Carried (single tickers) clock' registry (.take orderId) registry₂ response₂) :
    response₁ = response₂ ∧
      Alike (past ++ [request]) (Function.update cluster shard registry₁) registry₂ := by
  -- The maps of both sides agree on the order.
  have mapped := alike.mapped_iff distinct assigned own
  cases carried₁ with
  | closed absent₁ =>
    cases carried₂ with
    | closed absent₂ => exact ⟨rfl, alike.unmoved request⟩
    -- The single matcher knows the order, so its own matcher would know it too.
    | @taken _ symbol book _ _ _ here inside _ _ =>
      have listed := (mapped symbol).mpr (alike.only.mapped_iff.mpr ⟨book, here, inside⟩)
      rw [absent₁] at listed
      cases listed
  -- Its own matcher knows the order, so the single one does.
  | @taken _ symbol book _ book₁ _ here inside ran₁ turned₁ =>
    have listed := (mapped symbol).mp
      ((alike.matchers shard).mapped_iff.mpr ⟨book, here, inside⟩)
    cases carried₂ with
    | closed absent₂ =>
      rw [absent₂] at listed
      cases listed
    | @taken _ symbol' book' _ book₂ _ here' inside' ran₂ turned₂ =>
      have listed' := alike.only.mapped_iff.mpr ⟨book', here', inside'⟩
      -- Both maps name the same symbol, so both cancel in the same book.
      rw [listed, Option.some.injEq] at listed'
      subst listed'
      have assigned' := alike.assigned_of_bookOf distinct here
      rw [alike.books shard symbol assigned', here', Option.some.injEq] at here
      subst here
      obtain ⟨ok, _, _⟩ := alike.only.book_ok here'
      have ageless := alike.ageless symbol book' here'
      rw [takeOrder_ageless ok ageless clock clock', ran₂] at ran₁
      cases ran₁
      obtain ⟨evolved, _⟩ := takeOrder_evolved ok ran₂
      -- The order was submitted for the ticker that the cancel names.
      obtain ⟨earlier, before, brought, names'⟩ := alike.origin symbol book' here' orderId inside'
      have same := names_unique names' (own earlier before brought)
      subst same
      refine ⟨rfl, alike.turned assigned turned₁ turned₂
        (evolved.config_eq ▸ ageless) (fun orderId member => ?_)
        (fun _ none => absurd none List.not_mem_nil) names⟩
      exact (evolved.ids orderId member).imp_right fun rests => ⟨book', here', rests⟩

/-- A book is looked at alike in its own matcher and in the single one. -/
theorem Alike.looked (alike : Alike past cluster registry) (six : isTicker ticker = true)
    (member : ticker ∈ tickers) (assigned : shardForTicker tickers ticker count = some shard.val)
    {request : ClientRequest} (names : request.Names ticker) {op op' : BookOp}
    {answer : BookReply → Response} (same : op.undated = op'.undated) (brings_none : op.newIds = [])
    {clock clock' : Readings} {response₁ response₂ : Response}
    (carried₁ : Carried ((lasting tickers count positive).matcher shard) clock (cluster shard)
      (.look ticker op answer) registry₁ response₁)
    (carried₂ : Carried (single tickers) clock' registry (.look ticker op' answer) registry₂
      response₂) :
    response₁ = response₂ ∧
      Alike (past ++ [request]) (Function.update cluster shard registry₁) registry₂ := by
  obtain ⟨ok, _, ageless, found⟩ := alike.bookOrNew_spec (isBlank_of_isTicker six)
  -- The symbol is owned and not blank, so the book is read on both sides.
  cases carried₁ with
  | foreign disowned =>
    rw [isOwnedSymbol_of_assigned assigned] at disowned
    cases disowned
  | unnamed blank =>
    rw [isBlank_of_isTicker six] at blank
    cases blank
  | @looked _ _ _ _ book₁ _ named _ ran₁ turned₁ =>
    -- The single matcher owns every ticker of the universe.
    cases carried₂ with
    | foreign disowned =>
      have owns : (single tickers).owned.isOwnedSymbol ticker = true :=
        @single_owns (lasting tickers count positive) ticker member
      rw [owns] at disowned
      cases disowned
    | unnamed blank =>
      rw [named] at blank
      cases blank
    | @looked _ _ _ _ book₂ _ _ _ ran₂ turned₂ =>
      -- Without an age limit the books do not depend on the clocks.
      rw [alike.bookOrNew_eq assigned, look_ageless ok ageless, same,
        ← look_ageless ok ageless, ran₂] at ran₁
      cases ran₁
      -- A read brings no orders in.
      have silent := congrArg BookOp.newIds same
      rw [undated_newIds, undated_newIds, brings_none] at silent
      have evolved := look_evolved ok silent.symm ran₂
      refine ⟨rfl, alike.turned assigned turned₁ turned₂ (evolved.config_eq ▸ ageless)
        (fun orderId member => ?_) (fun _ none => absurd none List.not_mem_nil) names⟩
      exact (evolved.ids orderId member).imp_right (found orderId)

/-- The same task is answered alike by the ticker's own matcher and by the single one. -/
theorem Alike.carried (alike : Alike past cluster registry) (distinct : tickers.Nodup)
    (six : isTicker ticker = true) (member : ticker ∈ tickers)
    (assigned : shardForTicker tickers ticker count = some shard.val) {request : ClientRequest}
    (names : request.Names ticker) {clock clock' : Readings} {task task' : Task}
    (same : SameTask ticker task task') (brings : ∀ orderId ∈ task.newIds,
      orderId ∈ request.view.newIds ∧ orderId ∉ registry.restingIds)
    (own : ∀ orderId, task = .take orderId → ∀ earlier ∈ past,
      orderId ∈ earlier.view.newIds → earlier.Names ticker) {response₁ response₂ : Response}
    (carried₁ : Carried ((lasting tickers count positive).matcher shard) clock (cluster shard) task
      registry₁ response₁)
    (carried₂ : Carried (single tickers) clock' registry task' registry₂ response₂) :
    response₁ = response₂ ∧
      Alike (past ++ [request]) (Function.update cluster shard registry₁) registry₂ := by
  cases same with
  | refuse response =>
    -- Both sides refuse with the response that the task carries.
    cases carried₁
    cases carried₂
    exact ⟨rfl, alike.unmoved request⟩
  | @place order named =>
    subst named
    obtain ⟨new, unused⟩ := brings order.orderId (List.mem_singleton_self _)
    exact alike.placed assigned names new unused carried₁ carried₂
  | take orderId => exact alike.taken distinct assigned names (own orderId rfl) carried₁ carried₂
  | look answer same brings_none =>
    exact alike.looked six member assigned names same brings_none carried₁ carried₂

/-- A market that never closes carries every request out, without starting a session. -/
theorem handle_open {matcher : MatcherSettings} (ok : MatcherOk matcher registry)
    (never_closes : matcher.mode = .alwaysOpen) (clock : Readings) (request : Request)
    (fresh : ∀ orderId ∈ request.newIds, orderId ∉ registry.restingIds) :
    ∃ registry' response, registry.handle matcher clock request = .ok (registry', response) ∧
      Carried matcher clock registry (request.task matcher clock) registry' response := by
  -- Opening hours do not matter to a market that never closes.
  have opened : isOpen matcher.mode clock.openAt = true := by
    rw [never_closes]
    rfl
  -- There are no sessions to roll over.
  have unrolled : registry.rolloverMarketSession matcher clock.sessionAt = registry :=
    if_pos never_closes
  obtain ⟨registry', response, ran, cases⟩ := ok.handle_spec clock request fresh
  obtain ⟨_, carried⟩ := cases.resolve_left fun closed => closed.2.1 opened
  exact ⟨registry', response, ran, unrolled ▸ carried⟩

/-- Only a cancel settles to taking an order out. -/
theorem request_of_take {request : ClientRequest} {matcher : MatcherSettings} {clock : Readings}
    {orderId : UUID} (settled : request.view.task matcher clock = .take orderId) :
    ∃ query, request = .cancelOrder orderId query := by
  cases request with
  -- Creating an order ends in a refusal or in placing it.
  | createOrder payload userId side price qty created =>
    simp only [ClientRequest.view, Request.task] at settled
    split at settled
    · cases settled
    · split_ifs at settled
  | cancelOrder named query =>
    simp only [ClientRequest.view, Request.task] at settled
    split_ifs at settled
    cases settled
    exact ⟨query, rfl⟩
  | bookDetail symbol => cases settled
  -- Reading the trades ends in a refusal or in a look.
  | recentTradeList query limit =>
    simp only [ClientRequest.view, Request.task] at settled
    split at settled <;> cases settled

/-- One request is answered alike by the deployment and by the single matcher. -/
theorem Alike.step (alike : Alike past cluster registry) (distinct : tickers.Nodup)
    (six : isTicker ticker = true) (member : ticker ∈ tickers) {request : ClientRequest}
    (names : request.Names ticker)
    (fresh : ∀ orderId ∈ request.view.newIds,
      orderId ∉ past.flatMap fun earlier => earlier.view.newIds)
    (own : ∀ orderId query, request = .cancelOrder orderId query → ∀ earlier ∈ past,
      orderId ∈ earlier.view.newIds → earlier.Names ticker) (clock clock' : Readings) :
    ∃ cluster' registry' response,
      handle (lasting tickers count positive) cluster (clock, request) =
        .ok (cluster', .ok response) ∧
      registry.handle (single tickers) clock' request.view = .ok (registry', response) ∧
      Alike (past ++ [request]) cluster' registry' := by
  -- The ticker is in the universe, so it has a shard.
  have assigned : shardForTicker tickers ticker count = some (tickers.idxOf ticker % count) :=
    (shardForTicker_eq_some_iff positive).mpr ⟨member, rfl⟩
  have inside := shardForTicker_lt assigned
  -- New identifiers rest at no matcher of the deployment, nor at the single one.
  have new : ∀ shard, ∀ orderId ∈ request.view.newIds, orderId ∉ (cluster shard).restingIds :=
    fun shard orderId brought rests => fresh orderId brought (alike.known shard orderId rests)
  have new_only : ∀ orderId ∈ request.view.newIds, orderId ∉ registry.restingIds :=
    fun orderId brought rests => fresh orderId brought (alike.known_only orderId rests)
  obtain ⟨registry₁, response₁, ran₁, carried₁⟩ :=
    handle_open (alike.matchers ⟨_, inside⟩) rfl clock request.view (new _)
  obtain ⟨registry₂, response₂, ran₂, carried₂⟩ :=
    handle_open alike.only rfl clock' request.view new_only
  -- The universe decides what is simulated, on both sides.
  have simulated : ((lasting tickers count positive).matcher ⟨_, inside⟩).isSimulatedSymbol ticker =
    true := decide_eq_true member
  have same := task_of_names six simulated (decide_eq_true member)
    (isOwnedSymbol_of_assigned assigned)
    (@single_owns (lasting tickers count positive) ticker member) names clock clock'
  obtain ⟨rfl, alike'⟩ := alike.carried distinct six member assigned names same
    (fun orderId brought => ⟨task_newIds brought, new_only orderId (task_newIds brought)⟩)
    (fun orderId settled => by
      obtain ⟨query, cancels⟩ := request_of_take settled
      exact own orderId query cancels) carried₁ carried₂
  -- The gateway routes the request to the shard of the ticker.
  have routed : routeRequest request.http tickers count =
      .ok ⟨tickers.idxOf ticker % count, some ticker, none⟩ := by
    rw [routed_of_names six names tickers positive]
    simp only [routeSymbol, assigned]
  exact ⟨_, registry₂, response₁, handle_routed (lasting tickers count positive) ⟨_, inside⟩ routed
    ran₁, ran₂, alike'⟩

/-- Neither side has any book at the start. -/
theorem Alike.start : Alike [] (start (lasting tickers count positive)) .new where
  -- Without books nothing is at rest, and there is nothing to compare.
  matchers := fun _ => .new _
  only := .new _
  books := fun _ _ _ => rfl
  ageless := nofun
  origin := nofun
  known := fun _ _ member => absurd member List.not_mem_nil
  known_only := fun _ member => absurd member List.not_mem_nil

/-- A request with one time for the deployment and another one for the single matcher. -/
abbrev Timed := Readings × Readings × ClientRequest

/-- The single matcher answers a sequence of requests. -/
def runSingle (tickers : List String) (registry : Registry) (requests : List Timed) :
    Except Fault (Registry × List Response) :=
  Machine.run (fun registry request => registry.handle (single tickers) request.2.1 request.2.2.view)
    registry requests

/-- From alike states both sides answer all requests alike. -/
theorem Alike.run (distinct : tickers.Nodup) (six : ∀ ticker ∈ tickers, isTicker ticker = true)
    (requests : List Timed) : ∀ {past : List ClientRequest}
      {cluster : Cluster (lasting tickers count positive)} {registry : Registry},
      Alike past cluster registry →
      Proper tickers (past ++ requests.map fun request => request.2.2) →
      ∃ cluster' registry' responses,
        Cluster.run (lasting tickers count positive) cluster
          (requests.map fun request => (request.1, request.2.2)) =
            .ok (cluster', responses.map .ok) ∧
        runSingle tickers registry requests = .ok (registry', responses) := by
  -- The first request leaves both sides alike, and the induction goes on from there.
  induction requests with
  | nil => exact fun {_ cluster registry} _ _ => ⟨cluster, registry, [], rfl, rfl⟩
  | cons request later ih =>
    intro past cluster registry alike proper
    obtain ⟨clock, clock', request⟩ := request
    rw [List.map_cons] at proper
    have inside : request ∈ past ++ request :: later.map fun request => request.2.2 := by simp
    obtain ⟨ticker, member, names⟩ := proper.named request inside
    -- The identifiers of all requests are distinct, so those of this one are unknown.
    have fresh : ∀ orderId ∈ request.view.newIds,
        orderId ∉ past.flatMap fun earlier => earlier.view.newIds := fun orderId new known => by
      have apart := proper.distinct
      rw [List.flatMap_append, List.flatMap_cons] at apart
      exact (List.nodup_append'.mp apart).2.2 known (List.mem_append_left _ new)
    -- A cancel names the ticker of its order, whichever earlier request brought it.
    have own : ∀ orderId query, request = .cancelOrder orderId query → ∀ earlier ∈ past,
        orderId ∈ earlier.view.newIds → earlier.Names ticker := by
      rintro orderId query rfl earlier before brings
      exact proper.own orderId query inside earlier (List.mem_append_left _ before) brings ticker
        names.2
    obtain ⟨next, next', response, handled, handled', alike'⟩ :=
      alike.step distinct (six ticker member) member names fresh own clock clock'
    rw [show past ++ request :: later.map (fun request => request.2.2) =
      (past ++ [request]) ++ later.map fun request => request.2.2 by simp] at proper
    obtain ⟨cluster', registry', responses, ran, ran'⟩ := ih alike' proper
    refine ⟨cluster', registry', response :: responses, ?_, ?_⟩
    · -- Each side has answered this request, and answers the later ones in its own run.
      rw [List.map_cons, Cluster.run, Machine.run_cons handled]
      rw [Cluster.run] at ran
      rw [ran]
      rfl
    · rw [runSingle, Machine.run_cons handled']
      rw [runSingle] at ran'
      rw [ran']
      rfl

end Simulation

/--
With expiry off and a market that never closes, every number of shards answers like one matcher.

The requests name tickers of the universe, and a cancel names the one that its order was
submitted for. The clocks of the two sides need not agree.
-/
theorem cluster_like_single (tickers : List String) (distinct : tickers.Nodup)
    (six : ∀ ticker ∈ tickers, isTicker ticker = true) (count : Nat) (positive : 1 ≤ count)
    (requests : List Timed) (proper : Proper tickers (requests.map fun request => request.2.2)) :
    ∃ cluster registry responses,
      run (lasting tickers count positive) (start _)
        (requests.map fun request => (request.1, request.2.2)) =
          .ok (cluster, responses.map .ok) ∧
      runSingle tickers .new requests = .ok (registry, responses) :=
  Alike.run distinct six requests .start proper

/-- One share is offered to the deployment at noon and to the single matcher at midnight. -/
def offerAndCancel : List Timed :=
  [(⟨0, 0, 43200, 43200, 43200, 43200⟩, offerFirst),
    (midnight, midnight, .cancelOrder 1 [("symbol", "000660")])]

/-- Each order is submitted once, and cancelled under its own ticker. -/
theorem offerAndCancel_proper :
    Proper ["000660", "005930"] (offerAndCancel.map fun request => request.2.2) := by
  -- Each request is looked at in turn.
  have offered : offerFirst.2.Names "000660" := rfl
  refine ⟨fun request member => ⟨"000660", by decide, ?_⟩, ?_, by decide⟩
  · simp only [offerAndCancel, List.map_cons, List.map_nil, List.mem_cons, List.not_mem_nil,
      or_false] at member
    rcases member with rfl | rfl
    · exact offered
    · exact ⟨rfl, rfl⟩
  · -- The cancel names the symbol of the order that it cancels.
    intro orderId query canceled request member brings ticker named
    simp only [offerAndCancel, offerFirst, List.map_cons, List.map_nil, List.mem_cons,
      List.not_mem_nil, or_false, reduceCtorEq, false_or, ClientRequest.cancelOrder.injEq]
      at canceled member
    obtain ⟨rfl, rfl⟩ := canceled
    cases named
    rcases member with rfl | rfl
    · exact offered
    · exact absurd brings List.not_mem_nil

/-- An offer and its cancellation, in two shards and in one. -/
theorem cluster_like_single_canceled : ∃ cluster registry responses,
    run (lasting ["000660", "005930"] 2 Nat.two_pos) (start _)
      (offerAndCancel.map fun request => (request.1, request.2.2)) =
        .ok (cluster, responses.map .ok) ∧
    runSingle ["000660", "005930"] .new offerAndCancel = .ok (registry, responses) :=
  cluster_like_single ["000660", "005930"] (by decide) (by decide) 2 Nat.two_pos offerAndCancel
    offerAndCancel_proper

end Cluster

end StockMarket
