import StockMarket.Deployment.RoutingLaws
import StockMarket.Events.PendingQuery
import StockMarket.ReferenceData.Krx

/-! Which tickers of the importer are accepted wherever a symbol is named. -/

namespace StockMarket

/-- Ordinary digits only. -/
def isNumeric (ticker : String) : Bool := ticker.toList.all Char.isDigit

section Characters

variable {c : Char}

/-- The characters of a short code, by their codes. -/
theorem bounds_of_isShort (short : (c.isDigit || c.isUpper) = true) :
    (48 ≤ c.toNat ∧ c.toNat ≤ 57) ∨ (65 ≤ c.toNat ∧ c.toNat ≤ 90) := by
  -- Both kinds of characters are ranges of code points.
  rw [Bool.or_eq_true] at short
  cases short with
  | inl digit =>
    simp only [Char.isDigit, Bool.and_eq_true, decide_eq_true_eq] at digit
    exact .inl digit
  | inr upper =>
    exact .inr (of_decide_eq_true upper)

/-- No character of a short code is a blank. -/
theorem isSpace_of_isShort (short : (c.isDigit || c.isUpper) = true) : isSpace c = false := by
  have bounds := bounds_of_isShort short
  simp only [isSpace, Bool.or_eq_false_iff, Bool.and_eq_false_iff, decide_eq_false_iff_not,
    beq_eq_false_iff_ne]
  omega

/-- A character of a short code is a digit of some kind only when it is an ordinary digit. -/
theorem isDigit_of_isAnyDigit (short : (c.isDigit || c.isUpper) = true)
    (digit : isAnyDigit c = true) : c.isDigit = true := by
  rw [Bool.or_eq_true] at short
  refine short.resolve_right fun upper => ?_
  -- No table of digits has a capital letter.
  have letters : ∀ code < 91, 65 ≤ code →
      (decimalZeros.find? fun first => first ≤ code ∧ code < first + 10) = none ∧
        (otherDigits.any fun range => range.1 ≤ code ∧ code ≤ range.2) = false := by decide
  obtain ⟨low, high⟩ : 65 ≤ c.toNat ∧ c.toNat ≤ 90 := of_decide_eq_true upper
  obtain ⟨plain, other⟩ := letters c.toNat (by omega) low
  simp only [isAnyDigit, isDecimal, decimalValue, plain, other] at digit
  cases digit

/-- Decimal digits are digits. -/
theorem isAnyDigit_of_isDecimal (digit : isDecimal c = true) : isAnyDigit c = true := by
  rw [isAnyDigit, digit, Bool.true_or]

end Characters

section Tickers

variable {ticker : String}

/-- A short code has neither commas nor white space, and it is not blank. -/
theorem strip_of_isShortCode (code : isShortCode ticker = true) :
    strip ticker = ticker ∧ ticker ≠ "" := by
  -- A short code has six characters, none of which is white space.
  obtain ⟨six, short⟩ := of_decide_eq_true code
  constructor
  · exact strip_eq_self fun c member => isSpace_of_isShort (List.all_eq_true.mp short c member)
  · rintro rfl
    cases six

/-- A short code is six decimal digits when it is numeric. -/
theorem isSixDigits_iff (code : isShortCode ticker = true) :
    isSixDigits ticker = true ↔ isNumeric ticker = true := by
  -- A short code has six characters anyway, and the only digits in it are those of ASCII.
  obtain ⟨six, short⟩ := of_decide_eq_true code
  rw [List.all_eq_true] at short
  constructor
  · intro digits
    obtain ⟨_, digits⟩ := of_decide_eq_true digits
    rw [List.all_eq_true] at digits
    refine List.all_eq_true.mpr fun c member => ?_
    exact isDigit_of_isAnyDigit (short c member) (isAnyDigit_of_isDecimal (digits c member))
  · intro numeric
    refine decide_eq_true ⟨six, List.all_eq_true.mpr fun c member => ?_⟩
    exact isDecimal_of_isDigit (List.all_eq_true.mp numeric c member)

/-- A short code counts as digits when it is numeric. -/
theorem isDigits_iff (code : isShortCode ticker = true) :
    isDigits ticker = true ↔ isNumeric ticker = true := by
  -- What counts as a digit elsewhere is no character of a short code.
  obtain ⟨six, short⟩ := of_decide_eq_true code
  rw [List.all_eq_true] at short
  constructor
  · intro digits
    obtain ⟨_, digits⟩ := of_decide_eq_true digits
    rw [List.all_eq_true] at digits
    exact List.all_eq_true.mpr fun c member => isDigit_of_isAnyDigit (short c member) (digits c member)
  · intro numeric
    exact (isDigits_of_isSixDigits ((isSixDigits_iff code).mpr numeric)).2

/-- The ingest takes a short code when it is numeric. -/
theorem stockCodeField_iff (code : isShortCode ticker = true) :
    stockCodeField (.given ticker) = .ok ticker ↔ isNumeric ticker = true := by
  -- The field trims nothing, and refuses nothing but what is no digit.
  obtain ⟨same, present⟩ := strip_of_isShortCode code
  constructor
  · intro accepted
    exact (isSixDigits_iff code).mp (stockCodeField_ok accepted)
  · intro numeric
    have digits := (isSixDigits_iff code).mpr numeric
    have clean : '\x00' ∉ ticker.toList := by
      intro member
      have digit := List.all_eq_true.mp numeric _ member
      cases digit
    simp only [stockCodeField, same, if_neg present, digits, textMessages, if_neg clean, if_true,
      List.append_nil]

end Tickers

section Routes

variable {tickers : List String} {count : Nat} {ticker : String}

/-- A ticker in the query is read as it is. -/
theorem requiredQuerySymbol_ticker (code : isShortCode ticker = true) :
    requiredQuerySymbol [("symbol", ticker)] = .ok ticker := by
  obtain ⟨same, present⟩ := strip_of_isShortCode code
  simp only [requiredQuerySymbol, List.find?_cons, decide_true, Option.map_some, Option.getD_some,
    same, if_neg present]

/-- A ticker in an order body is read as it is. -/
theorem symbolFromOrderBody_ticker (code : isShortCode ticker = true)
    {payload : Dict String JsonValue} (named : payload.get? "symbol" = some (.text ticker)) :
    symbolFromOrderBody (.object payload) = .ok ticker := by
  obtain ⟨same, present⟩ := strip_of_isShortCode code
  have truthy : (JsonValue.text ticker).truthy = true := decide_eq_true present
  simp only [symbolFromOrderBody, named, Option.getD_some, truthy, if_true, JsonValue.printed, same,
    if_neg present]

/-- A ticker with a letter is not found in a book path. -/
theorem numeric_of_route_bookDetail (positive : 1 ≤ count) (code : isShortCode ticker = true)
    {route : Route} (routed : routeRequest (.bookDetail ticker) tickers count = .ok route) :
    isNumeric ticker = true := by
  -- Without six digits the path is that of no book, and of nothing else.
  by_contra letter
  have path := bookDetail_path ticker
  obtain ⟨six, _⟩ := of_decide_eq_true code
  have taken : (ticker.toList ++ ['/']).take 6 = ticker.toList := by
    rw [← six, List.take_left]
  -- The path of a book asks for six digits.
  have book : Path.book? ("/api/v1/books/".toList ++ (ticker.toList ++ ['/'])) = none := by
    rw [Path.book?, Path.after?_append]
    simp only [taken]
    refine if_neg fun shape => letter ((isSixDigits_iff code).mp ?_)
    exact decide_eq_true ⟨shape.1, shape.2.1⟩
  have trades : Path.isTrades ("/api/v1/books/".toList ++ (ticker.toList ++ ['/'])) = false := by
    generalize ticker.toList ++ ['/'] = rest
    rfl
  rw [routeRequest_under positive (by simp) path, path] at routed
  simp only [symbolFromRequest, HttpRequest.bookDetail, book, trades] at routed
  cases routed

end Routes

/-- The symbols of a query, with commas between them. -/
def joinSymbols (symbols : List String) : String :=
  String.ofList ([','].intercalate (symbols.map String.toList))

section Symbols

variable {symbols : List String}

/-- Texts that are all different are collected as they are. -/
theorem foldl_distinct (rest : List String) : ∀ seen : List String, (seen ++ rest).Nodup →
    rest.foldl (fun symbols value =>
      if value ∈ symbols then symbols else symbols ++ [value]) seen = seen ++ rest := by
  -- No value comes up twice, so that each is put behind the others.
  induction rest with
  | nil => intro seen _; simp
  | cons value rest ih =>
    intro seen distinct
    have absent : value ∉ seen := fun member =>
      (List.nodup_append.mp distinct).2.2 value member value List.mem_cons_self rfl
    rw [List.foldl_cons, if_neg absent, ih (seen ++ [value]) (by simpa using distinct)]
    simp

/-- The pending query reads short codes as they were joined. -/
theorem parseEventSymbols_join (present : symbols ≠ []) (distinct : symbols.Nodup)
    (few : symbols.length ≤ 100) (codes : ∀ symbol ∈ symbols, isShortCode symbol = true) :
    parseEventSymbols (joinSymbols symbols) =
      if symbols.any fun symbol => symbol.toList.length ≠ 6 ∨ ¬ isDigits symbol then
        .error [("symbols", ["symbols must be six-digit stock codes"])]
      else .ok symbols := by
  -- No short code has a comma, so splitting undoes the joining.
  have split : ([','].intercalate (symbols.map String.toList)).splitOn ',' =
      symbols.map String.toList := by
    refine List.splitOn_intercalate ',' ?_ (by simpa using present)
    intro text member comma
    obtain ⟨symbol, inside, rfl⟩ := List.mem_map.mp member
    obtain ⟨_, short⟩ := of_decide_eq_true (codes symbol inside)
    cases List.all_eq_true.mp short _ comma
  -- A short code has no blanks, and none of them is empty.
  have stripped : (symbols.map strip).filter (· ≠ "") = symbols := by
    have same : symbols.map strip = symbols := by
      refine (List.map_congr_left fun symbol inside => ?_).trans (List.map_id symbols)
      exact (strip_of_isShortCode (codes symbol inside)).1
    rw [same, List.filter_eq_self]
    exact fun symbol inside => decide_eq_true (strip_of_isShortCode (codes symbol inside)).2
  have parts : (((joinSymbols symbols).toList.splitOn ',').map String.ofList).map strip =
      symbols.map strip := by
    rw [joinSymbols, String.toList_ofList, split, List.map_map]
    simp
  simp only [parseEventSymbols, parts, stripped, foldl_distinct symbols [] (by simpa using distinct),
    List.nil_append, if_neg (Nat.not_lt.mpr few)]

end Symbols

/-- The client asks for the pending events of some symbols, unless there are none. -/
def fetchPendingMarketEvents (symbols : List String) (ask : String → InboxResponse) :
    Except BackendApiError (List EventItem) :=
  if symbols = [] then .ok [] else (ask (joinSymbols symbols)).pendingEvents

/-- The importer can put a ticker into the universe. -/
def Imported (ticker : String) : Prop :=
  ∃ payload record, parseRecord payload = .ok record ∧ record.ticker = ticker

/-- The gateway routes everything about a ticker to the shard that owns it. -/
structure GatewayAccepts (tickers : List String) (count : Nat) (ticker : String) (shard : Nat) :
    Prop where
  owned : shardForTicker tickers ticker count = some shard
  book : routeRequest (.bookDetail ticker) tickers count = .ok ⟨shard, some ticker, none⟩
  trades : routeRequest (.recentTradeList [("symbol", ticker)]) tickers count =
    .ok ⟨shard, some ticker, none⟩
  order : ∀ payload, payload.get? "symbol" = some (.text ticker) →
    routeRequest (.createOrder (.object payload)) tickers count = .ok ⟨shard, some ticker, none⟩
  cancel : ∀ orderId, routeRequest (.cancelOrder orderId [("symbol", ticker)]) tickers count =
    .ok ⟨shard, some ticker, none⟩

/-- An event that is accepted about some symbol is accepted about a ticker. -/
def IngestAccepts (ticker : String) : Prop :=
  ∀ (fields : MarketEventFields) (event : MarketEvent), fields.serialize = .ok event →
    { fields with symbol := .given ticker }.serialize = .ok { event with symbol := ticker }

/-- Whatever the inbox does, the fetch about some symbols is answered and succeeds. -/
structure FetchAccepts (symbols : List String) : Prop where
  accepted : ∀ settings turns system answers ask openAt now,
    Machine.run (Shared.total (inboxService settings)) InboxSystem.new turns =
      .ok (system, answers) →
    some (.pending (joinSymbols symbols) openAt now, ask (joinSymbols symbols)) ∈ answers →
    ∃ events, fetchPendingMarketEvents symbols ask = .ok events
  answered : ∀ settings (system : InboxSystem) thread openAt now,
    system.threads.get? thread = none → ∃ count last answers response,
      Machine.run (Shared.total (inboxService settings)) system
        (.begin thread (.pending (joinSymbols symbols) openAt now) ::
          List.replicate count (.resume thread ())) = .ok (last, answers) ∧
      some (.pending (joinSymbols symbols) openAt now, response) ∈ answers

section Acceptance

variable {tickers symbols : List String} {count : Nat} {ticker : String}

/-- What is imported is a short code. -/
theorem isShortCode_of_imported (imported : Imported ticker) : isShortCode ticker = true := by
  obtain ⟨payload, record, parsed, rfl⟩ := imported
  exact isShortCode_of_parseRecord parsed

/-- Everything about a ticker of the universe is routed if and only if it is numeric. -/
theorem gatewayAccepts_iff (positive : 1 ≤ count) (member : ticker ∈ tickers)
    (code : isShortCode ticker = true) :
    (∃ shard, GatewayAccepts tickers count ticker shard) ↔ isNumeric ticker = true := by
  constructor
  · rintro ⟨shard, accepts⟩
    exact numeric_of_route_bookDetail positive code accepts.book
  · intro numeric
    -- The ticker has a shard, and each of the four paths leads to it.
    have owned : shardForTicker tickers ticker count = some (tickers.idxOf ticker % count) :=
      (shardForTicker_eq_some_iff positive).mpr ⟨member, rfl⟩
    have routed : routeSymbol tickers count (.ok ticker) =
        .ok ⟨tickers.idxOf ticker % count, some ticker, none⟩ := by
      simp only [routeSymbol, owned]
    obtain ⟨six, digits⟩ := of_decide_eq_true ((isSixDigits_iff code).mpr numeric)
    refine ⟨_, owned, ?_, ?_, fun payload named => ?_, fun orderId => ?_⟩
    · rw [route_bookDetail positive six (List.all_eq_true.mp digits), routed]
    · rw [route_recentTradeList positive, requiredQuerySymbol_ticker code, routed]
    · rw [route_createOrder positive, symbolFromOrderBody_ticker code named, routed]
    · rw [route_cancelOrder positive, requiredQuerySymbol_ticker code, routed]

/-- An event about some symbol, detected at the epoch, is accepted. -/
theorem epochFields_accepted : ∃ event, epochFields.serialize = .ok event := ⟨_, rfl⟩

/-- Events about a ticker are accepted if and only if it is numeric. -/
theorem ingestAccepts_iff (code : isShortCode ticker = true) :
    IngestAccepts ticker ↔ isNumeric ticker = true := by
  -- All other fields are accepted as they were.
  constructor
  · intro accepts
    obtain ⟨event, accepted⟩ := epochFields_accepted
    exact (stockCodeField_iff code).mp (serialize_ok (accepts _ _ accepted)).2.1
  · intro numeric fields event accepted
    obtain ⟨eventId, _, eventType, direction, confidence, impact, occurredAt, detectedAt, source,
      sourceItemId, headline, late⟩ := serialize_ok accepted
    exact serialize_of_ok eventId ((stockCodeField_iff code).mpr numeric) eventType direction
      confidence impact occurredAt detectedAt source sourceItemId headline late

/-- A pending query that has arrived on a free thread is answered. -/
theorem pending_answered (settings : InboxSettings) (system : InboxSystem) (thread : Nat)
    (request : InboxRequest) (free : system.threads.get? thread = none) :
    ∃ count last answers response, Machine.run (Shared.total (inboxService settings)) system
        (.begin thread request :: List.replicate count (.resume thread ())) = .ok (last, answers) ∧
      some (request, response) ∈ answers := by
  -- The request arrives, and its thread runs alone until it has an answer.
  have arrived : Shared.total (inboxService settings) system (.begin thread request) =
      .ok (⟨system.store, system.threads.set thread (request, request.program settings)⟩, none) := by
    simp only [Shared.total, Shared.step, free]
    rfl
  have ready : ∀ store nature op, ((inboxService settings).exec store nature op).isSome = true :=
    fun _ _ _ => rfl
  obtain ⟨count, last, answers, response, ran, member⟩ := Shared.answered_alone ready () thread
    request (request.program settings)
    ⟨system.store, system.threads.set thread (request, request.program settings)⟩
    (by rw [Dict.get?_set, if_pos rfl])
  refine ⟨count, last, none :: answers, response, ?_, List.mem_cons_of_mem _ member⟩
  rw [Machine.run_cons arrived, ran]
  rfl

/-- The pending events of some tickers are fetched if and only if all of them are numeric. -/
theorem fetchAccepts_iff (distinct : symbols.Nodup) (few : symbols.length ≤ 100)
    (codes : ∀ symbol ∈ symbols, isShortCode symbol = true) :
    FetchAccepts symbols ↔ ∀ symbol ∈ symbols, isNumeric symbol = true := by
  by_cases present : symbols = []
  · -- Without symbols the client does not even ask.
    subst present
    refine ⟨fun _ symbol member => absurd member List.not_mem_nil, fun _ => ⟨?_, ?_⟩⟩
    · intro settings turns system answers ask openAt now _ _
      exact ⟨[], if_pos rfl⟩
    · intro settings system thread openAt now free
      exact pending_answered settings system thread _ free
  · have parsed := parseEventSymbols_join present distinct few codes
    -- The query is refused exactly when some code is not numeric.
    have odd : (symbols.any fun symbol => symbol.toList.length ≠ 6 ∨ ¬ isDigits symbol) = false ↔
        ∀ symbol ∈ symbols, isNumeric symbol = true := by
      rw [List.any_eq_false]
      refine forall₂_congr fun symbol member => ?_
      rw [← isDigits_iff (codes symbol member)]
      simp [(of_decide_eq_true (codes symbol member)).1]
    constructor
    · intro accepts
      by_contra letter
      -- One ticker with a letter makes the query fail for all of them.
      rw [if_pos (Bool.of_not_eq_false (mt odd.mp letter))] at parsed
      obtain ⟨count, last, answers, response, ran, member⟩ :=
        accepts.answered hourlySettings InboxSystem.new 0 0 0 rfl
      obtain ⟨events, fetched⟩ :=
        accepts.accepted hourlySettings _ last answers (fun _ => response) 0 0 ran member
      rw [fetchPendingMarketEvents, if_neg present, pendingEvents_refused ran parsed member]
        at fetched
      cases fetched
    · intro numeric
      rw [odd.mpr numeric, if_neg Bool.false_ne_true] at parsed
      refine ⟨?_, ?_⟩
      · intro settings turns system answers ask openAt now ran member
        rw [fetchPendingMarketEvents, if_neg present]
        -- A query for some symbols is answered by the inbox.
        cases symbols with
        | nil => exact absurd rfl present
        | cons symbol symbols => exact pendingEvents_ok ran parsed member
      · intro settings system thread openAt now free
        exact pending_answered settings system thread _ free

end Acceptance

/--
Tickers of the importer are accepted everywhere if and only if they are numeric.

This holds of every entry point for each ticker, and of the pending query for each set of tickers.
-/
theorem tickers_usable_iff (tickers : List String) (count : Nat) (positive : 1 ≤ count) :
    (∀ ticker ∈ tickers, Imported ticker →
      ((∃ shard, GatewayAccepts tickers count ticker shard) ∧ IngestAccepts ticker ↔
        isNumeric ticker = true)) ∧
    ∀ symbols : List String, symbols.Nodup → symbols.length ≤ 100 →
      (∀ symbol ∈ symbols, symbol ∈ tickers ∧ Imported symbol) →
      (FetchAccepts symbols ↔ ∀ symbol ∈ symbols, isNumeric symbol = true) := by
  -- Imported tickers are short codes, for which each part has its own condition.
  constructor
  · intro ticker member imported
    have code := isShortCode_of_imported imported
    rw [gatewayAccepts_iff positive member code, ingestAccepts_iff code, and_self]
  · intro symbols distinct few inside
    exact fetchAccepts_iff distinct few fun symbol member =>
      isShortCode_of_imported (inside symbol member).2

/-- A row of the exchange without any trading. -/
def quietRow (ticker : String) : Dict String JsonValue :=
  ((((((Dict.empty.set "BAS_DD" (.text "20260715")).set "ISU_CD" (.text ticker)).set
    "ISU_NM" (.text "A")).set "MKT_NM" (.text "KOSPI")).set "TDD_CLSPRC" (.text "-")).set
    "ACC_TRDVOL" (.text "-")).set "ACC_TRDVAL" (.text "-")

/-- A code of digits is imported. -/
theorem numeric_imported : Imported "005930" := ⟨quietRow "005930", _, rfl, rfl⟩

/-- A code with a letter is imported. -/
theorem letter_imported : Imported "00104K" := ⟨quietRow "00104K", _, rfl, rfl⟩

/-- A code of digits is taken by every part of the deployment. -/
theorem numeric_usable :
    ((∃ shard, GatewayAccepts ["005930", "00104K"] 2 "005930" shard) ∧ IngestAccepts "005930") ∧
      FetchAccepts ["005930"] :=
  -- The one ticker is usable for the market, and in a set of its own for the events.
  ⟨((tickers_usable_iff ["005930", "00104K"] 2 (by decide)).1 "005930" (by decide)
      numeric_imported).mpr (by decide),
    ((tickers_usable_iff ["005930", "00104K"] 2 (by decide)).2 ["005930"] (by decide) (by decide)
      (fun symbol member => by
        cases List.mem_singleton.mp member
        exact ⟨by decide, numeric_imported⟩)).mpr (by decide)⟩

/-- A ticker with a letter is imported, but neither its book nor its events can be asked for. -/
theorem letter_unusable : Imported "00104K" ∧
    routeRequest (.bookDetail "00104K") ["005930", "00104K"] 2 =
      .error (.routingError 404 "gateway route is not allowed") ∧
    ¬IngestAccepts "00104K" ∧ ¬FetchAccepts ["005930", "00104K"] := by
  -- The importer takes letters, which neither the inbox nor the query of a runner does.
  refine ⟨letter_imported, by decide, ?_, ?_⟩
  · rw [ingestAccepts_iff (by decide)]
    decide
  · rw [fetchAccepts_iff (by decide) (by decide) (by decide)]
    decide

end StockMarket
