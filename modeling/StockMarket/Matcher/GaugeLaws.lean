import StockMarket.Matcher.GaugeMoves

/-! The gauges show the books exactly as long as no order falls due behind their back. -/

namespace StockMarket

/-- A request leaves no gauge behind the books. -/
def Metered.refreshes (settings : MatcherSettings) (metered : Metered) :
    Readings × Request → Bool
  | (clock, request) => (request.isOrder && !isOpen settings.mode clock.openAt) ||
    (metered.registry.rolloverMarketSession settings clock.sessionAt).refreshes settings clock
      (request.task settings clock)

/-- The symbol of an accepted order. -/
def Answered.acceptedSymbols (answered : Answered) : List String :=
  match answered.request, answered.response.body with
  | .createOrder data orderId, .matchResult _ =>
    match data.createOrder orderId with
    | .ok order => [order.symbol]
    | .error _ => []
  | _, _ => []

/-- The gauges of the given symbols show what their books store. -/
def Metered.Accurate (metered : Metered) (symbols : List String) : Prop :=
  ∀ symbol ∈ symbols, metered.gauges.Shows symbol (metered.registry.stored symbol)

section Shows

variable {gauges : Gauges} {symbol other : String} {clock : Readings} {left : PlainBook}
  {resting : OrderSide → List Rested}

/-- Reading the totals of one symbol leaves the gauges of the others alone. -/
theorem refreshed_other (differs : other ≠ symbol) :
    (gauges.refreshed symbol clock left).Shows other resting ↔ gauges.Shows other resting := by
  -- The gauges of a side are kept under the symbol and the side.
  have apart : ∀ side side' : OrderSide, (other, side) ≠ (symbol, side') :=
    fun _ _ same => differs (Prod.mk.inj same).1
  constructor <;>
  · rintro ⟨depth, openOrders⟩
    refine ⟨fun side => ?_, ?_⟩
    · simpa [Gauges.refreshed, Gauges.setDepth, Gauges.setOpenOrders, apart] using depth side
    · simpa [Gauges.refreshed, Gauges.setDepth, Gauges.setOpenOrders, differs] using openOrders

/-- The totals that were read are those of the book that is left, unless a bid lapses. -/
theorem refreshed_shows_iff (ok : PlainOk left) (forth : clock.buyDepthAt ≤ clock.sellDepthAt) :
    (gauges.refreshed symbol clock left).Shows symbol (left.expireAt clock.sellDepthAt).resting ↔
      left.lapses clock = false := by
  rw [← lapses_eq_false_iff ok forth]
  constructor
  · -- The bids were read first, and offers last; only the bids can differ.
    rintro ⟨depth, _⟩
    have bids := depth .buy
    simpa [Gauges.refreshed, Gauges.setDepth, Gauges.setOpenOrders, eq_comm] using bids
  · intro same
    refine ⟨fun side => ?_, ?_⟩
    · cases side <;>
        simp [Gauges.refreshed, Gauges.setDepth, Gauges.setOpenOrders, same]
    · simp [Gauges.refreshed, Gauges.setDepth, Gauges.setOpenOrders, PlainBook.allResting]

/-- Gauges that show the orders of a book show a part of them only if that is all of them. -/
theorem shows_filter_iff {test : Rested → Bool} (shows : gauges.Shows symbol resting) :
    gauges.Shows symbol (fun side => (resting side).filter test) ↔
      ∀ side, ∀ rested ∈ resting side, test rested = true := by
  constructor
  · -- The count of open orders shrinks as soon as one order is left out.
    intro again
    have count := Option.some_inj.mp (again.openOrders.symm.trans shows.openOrders)
    have bids := List.length_filter_le test (resting .buy)
    have offers := List.length_filter_le test (resting .sell)
    intro side
    rw [← List.length_filter_eq_length_iff]
    cases side <;> omega
  · intro every
    have whole : (fun side => (resting side).filter test) = resting :=
      funext fun side => List.filter_eq_self.mpr (every side)
    rwa [whole]

/-- Clearing symbols sets their gauges to zero and leaves the others alone. -/
theorem clear_shows (symbols : List String) (gauges : Gauges)
    (empty : symbol ∈ symbols ∨ gauges.Shows symbol fun _ => []) :
    (symbols.foldl Gauges.clear gauges).Shows symbol fun _ => [] := by
  induction symbols generalizing gauges with
  | nil => exact empty.resolve_left List.not_mem_nil
  | cons first rest ih =>
    refine ih _ ?_
    -- The first symbol's gauges are cleared, and the rest is by induction.
    by_cases same : symbol = first
    · subst same
      refine .inr ⟨fun side => ?_, ?_⟩
      · cases side <;> simp [Gauges.clear, Gauges.setDepth, Gauges.setOpenOrders, supply]
      · simp [Gauges.clear, Gauges.setDepth, Gauges.setOpenOrders]
    · rcases empty with member | ⟨depth, openOrders⟩
      · exact .inl ((List.mem_cons.mp member).resolve_left same)
      · -- Gauges of another symbol are not touched.
        have apart : ∀ side side' : OrderSide, (symbol, side) ≠ (first, side') :=
          fun _ _ equal => same (Prod.mk.inj equal).1
        refine .inr ⟨fun side => ?_, ?_⟩
        · simpa [Gauges.clear, Gauges.setDepth, Gauges.setOpenOrders, apart] using depth side
        · simpa [Gauges.clear, Gauges.setDepth, Gauges.setOpenOrders, same] using openOrders

end Shows

/-- Every symbol with an order in its book is among the given ones. -/
def Registry.Within (registry : Registry) (symbols : List String) : Prop :=
  ∀ symbol side rested, rested ∈ registry.stored symbol side → symbol ∈ symbols

section Accuracy

variable {settings : MatcherSettings} {metered metered' : Metered} {registry registry' : Registry}
  {clock : Readings} {symbol : String} {symbols symbols' : List String} {book' : OrderBook}
  {newcomers : List UUID} {task : Task} {response : Response} {request : Request}

/-- A change of one symbol's book changes what is stored under that symbol alone. -/
theorem Turned.stored (turned : Turned settings registry registry' symbol book' newcomers)
    (other : String) : registry'.stored other =
      if other = symbol then book'.plain.resting else registry.stored other := by
  -- The symbol is either the one of the book or another one.
  split
  · rename_i same
    exact stored_of_bookOf (same ▸ turned.book_eq)
  · rename_i differs
    funext side
    rw [Registry.stored, Registry.stored, turned.others other differs]

/-- Where no gauge is set, the gauges stay right exactly as long as no order is lost. -/
theorem accurate_unread_iff (accurate : metered.Accurate symbols)
    (within : metered.registry.Within symbols)
    (turned : Turned settings metered.registry metered'.registry symbol book' newcomers)
    (same : metered'.gauges = metered.gauges) {test : Rested → Bool}
    (left : book'.plain.resting = fun side => (metered.registry.stored symbol side).filter test) :
    metered'.Accurate symbols ↔
      ∀ side, ∀ rested ∈ metered.registry.stored symbol side, test rested = true := by
  constructor
  · -- A gauge that is right again counts the same orders as before.
    intro again side rested member
    have listed := within symbol side rested member
    have shows := again symbol listed
    rw [turned.stored, if_pos rfl, same, left, shows_filter_iff (accurate symbol listed)] at shows
    exact shows side rested member
  · -- Nothing was lost, so the gauges still show every symbol.
    intro every other listed
    rw [turned.stored, same]
    split
    · rename_i equal
      subst equal
      rw [left, shows_filter_iff (accurate _ listed)]
      exact every
    · exact accurate other listed

/-- Where the totals are read, the gauges become right exactly when no bid lapses meanwhile. -/
theorem accurate_read_iff (accurate : metered.Accurate symbols)
    (turned : Turned settings metered.registry metered'.registry symbol book' newcomers)
    {left : PlainBook} (left_ok : PlainOk left) (forth : clock.buyDepthAt ≤ clock.sellDepthAt)
    (plain : book'.plain = left.expireAt clock.sellDepthAt)
    (shown : metered'.gauges = metered.gauges.refreshed symbol clock left)
    (listed : symbol ∈ symbols')
    (others : ∀ other ∈ symbols', other ≠ symbol → other ∈ symbols) :
    metered'.Accurate symbols' ↔ left.lapses clock = false := by
  -- The gauges of the symbol are those that have just been read.
  have reads : metered'.gauges.Shows symbol book'.plain.resting ↔ left.lapses clock = false := by
    rw [shown, plain]
    exact refreshed_shows_iff left_ok forth
  rw [← reads]
  constructor
  · intro again
    have shows := again symbol listed
    rwa [turned.stored, if_pos rfl] at shows
  · intro shows other member
    rw [turned.stored]
    split
    · rename_i equal
      rwa [equal]
    · -- Other symbols have neither their books nor their gauges changed.
      rename_i differs
      rw [shown, refreshed_other differs]
      exact accurate other (others other member differs)

/-- An order that is matched is accepted for its symbol. -/
theorem acceptedSymbols_placed {order : Order} {result : MatchResult}
    (settled : request.task settings clock = .place order) :
    Answered.acceptedSymbols ⟨clock, request, ⟨201, .matchResult result⟩⟩ = [order.symbol] := by
  cases request with
  | createOrder data orderId =>
    -- The order is created and passes both checks on its symbol.
    simp only [Request.task] at settled
    simp only [Answered.acceptedSymbols]
    cases created : data.createOrder orderId with
    | error refusal => rw [created] at settled; cases settled
    | ok order' =>
      rw [created] at settled
      simp only at settled
      split at settled
      · cases settled
      · split at settled
        · cases settled
        · cases settled
          rfl
  | cancelOrder orderId symbol =>
    simp only [Request.task] at settled
    split at settled
    · cases settled
    · split at settled <;> cases settled
  | bookDetail symbol => cases settled
  -- Reads place nothing.
  | recentTradeList symbol limit =>
    simp only [Request.task] at settled
    split at settled <;> cases settled

/-- Nothing is accepted unless an order is matched. -/
theorem acceptedSymbols_none (unmatched : ∀ result, response.body ≠ .matchResult result) :
    Answered.acceptedSymbols ⟨clock, request, response⟩ = [] := by
  -- Only the result of a match names an accepted symbol.
  unfold Answered.acceptedSymbols
  split
  · rename_i result _ matched
    exact absurd matched (unmatched result)
  · rfl

/-- An order that expiry does not find was at rest and due, or it was not at rest. -/
theorem due_of_absent {plain : PlainBook} {now : ℚ} {orderId : UUID} {rested : Rested}
    (absent : (plain.expireAt now).find? orderId = none) (member : rested ∈ plain.allResting)
    (named : rested.order.orderId = orderId) : plain.due now rested = true := by
  -- If the order were not due, expiry would have left it to be found.
  obtain ⟨side, inside⟩ := PlainBook.mem_allResting.mp member
  by_contra young
  have kept : rested ∈ (plain.expireAt now).allResting := by
    refine PlainBook.mem_allResting.mpr ⟨side, ?_⟩
    rw [expireAt_resting]
    exact List.mem_filter.mpr ⟨inside, by simpa using young⟩
  have differs := List.find?_eq_none.mp absent rested kept
  exact differs (decide_eq_true named)

/-- An order that expiry leaves is not due, and no other order has its identifier. -/
theorem not_due_of_present {plain : PlainBook} (ok : PlainOk plain) {now : ℚ} {orderId : UUID}
    {rested other : Rested} (present : (plain.expireAt now).find? orderId = some rested)
    (member : other ∈ plain.allResting) (named : other.order.orderId = orderId) :
    plain.due now other = false := by
  -- Identifiers are distinct, so the order that is found is the one that was named.
  have same : rested.order.orderId = orderId := of_decide_eq_true (List.find?_some present :)
  have kept := List.mem_of_find?_eq_some present
  obtain rfl := List.inj_on_of_nodup_map ok.named (expireAt_sub kept) member
    (same.trans named.symm)
  obtain ⟨side, inside⟩ := PlainBook.mem_allResting.mp kept
  rw [expireAt_resting, List.mem_filter] at inside
  simpa using inside.2

/-- No order with the identifier is due when expiry leaves one. -/
theorem any_due_of_present {plain : PlainBook} (ok : PlainOk plain) {now : ℚ} {orderId : UUID}
    {rested : Rested} (present : (plain.expireAt now).find? orderId = some rested) :
    (plain.allResting.any fun rested =>
      rested.order.orderId = orderId && plain.due now rested) = false := by
  -- An order with the identifier is the one that is still there, which is not due.
  rw [List.any_eq_false]
  intro other member both
  obtain ⟨known, due⟩ := Bool.and_eq_true_iff.mp both
  rw [not_due_of_present ok present member (of_decide_eq_true known)] at due
  cases due

/-- A read leaves the gauges behind when it comes upon an order that is due. -/
theorem look_refreshes_iff {op : BookOp} {answer : BookReply → Response}
    (named : isBlank symbol = false) :
    registry.refreshes settings clock (.look symbol op answer) = true ↔
      ∀ side, ∀ rested ∈ registry.stored symbol side,
        (!(registry.bookOrNew settings symbol named).plain.dueFor op rested) = true := by
  simp only [Registry.refreshes]
  -- Without a book there is no order that might be due.
  cases here : registry.bookOf symbol with
  | none => simp [Registry.stored, here]
  | some book =>
    have known : registry.bookOrNew settings symbol named = book := by
      rw [Registry.bookOrNew, here, Option.getD_some]
    rw [known, stored_of_bookOf here]
    simp only [Bool.not_eq_true', List.any_eq_false, Bool.not_eq_true, PlainBook.mem_allResting,
      forall_exists_index]
    exact forall_comm

/-- A cancel leaves the gauges behind when it comes too late, or when a bid lapses after it. -/
theorem take_refreshes {orderId : UUID} {book : OrderBook}
    (mapped : registry.orderSymbols.get? orderId = some symbol)
    (here : registry.bookOf symbol = some book) :
    registry.refreshes settings clock (.take orderId) =
      (!(book.plain.allResting.any fun rested =>
        rested.order.orderId = orderId && book.plain.due clock.bookAt rested) &&
      !(book.plain.perform (.cancel orderId clock.bookAt)).1.lapses clock) := by
  simp only [Registry.refreshes, mapped, Option.bind_some, here]

/-- A request keeps the gauges right exactly when it leaves none of them behind the books. -/
theorem Metered.Moved.accurate_iff
    (moved : Metered.Moved settings clock metered (request.task settings clock) metered' response)
    (ok : MatcherOk settings metered.registry) (forth : clock.buyDepthAt ≤ clock.sellDepthAt)
    (accurate : metered.Accurate symbols) (within : metered.registry.Within symbols) :
    metered'.Accurate (symbols ++ Answered.acceptedSymbols ⟨clock, request, response⟩) ↔
      metered.registry.refreshes settings clock (request.task settings clock) = true := by
  -- What the request did decides which gauges were set.
  generalize settled : request.task settings clock = task at moved
  cases moved with
  -- Nothing was changed at all.
  | still _ unmatched idle =>
    rw [acceptedSymbols_none unmatched, List.append_nil]
    exact iff_of_true accurate idle
  -- A read sets no gauge, so none may have expired.
  | @looked symbol op _ _ book' _ named unmatched turned _ left same =>
    rw [acceptedSymbols_none unmatched, List.append_nil]
    rw [look_refreshes_iff named]
    exact accurate_unread_iff accurate within turned same (funext left)
  | @missed orderId symbol book _ book' mapped here turned _ absent plain same =>
    rw [acceptedSymbols_none fun _ => ResponseBody.noConfusion, List.append_nil,
      take_refreshes mapped here]
    -- The order is still in the book, and so it is due.
    obtain ⟨other, there, member⟩ := ok.mapped_iff.mp mapped
    obtain rfl := Option.some_inj.mp (there.symm.trans here)
    obtain ⟨rested, rests, known⟩ := List.mem_map.mp member
    have due := due_of_absent absent rests known
    have left : book'.plain.resting = fun side => (metered.registry.stored symbol side).filter
        fun rested => !other.plain.due clock.bookAt rested := by
      funext side
      rw [plain, expireAt_resting, stored_of_bookOf here]
    rw [accurate_unread_iff accurate within turned same left]
    -- The expired order is counted by a gauge, so the gauge is wrong now.
    refine iff_of_false (fun every => ?_) fun refreshed => ?_
    · obtain ⟨side, inside⟩ := PlainBook.mem_allResting.mp rests
      have young := every side rested (by rwa [stored_of_bookOf here])
      rw [due] at young
      cases young
    · have found : (other.plain.allResting.any fun rested =>
          rested.order.orderId = orderId && other.plain.due clock.bookAt rested) = true :=
        List.any_eq_true.mpr ⟨rested, rests, by simp [known, due]⟩
      rw [found] at refreshed
      cases refreshed
  | @taken orderId symbol book rested _ book' left mapped here turned _ present left_eq left_ok plain
      shown =>
    rw [acceptedSymbols_none fun _ => ResponseBody.noConfusion, List.append_nil,
      take_refreshes mapped here]
    have book_ok := (ok.book_ok here).1
    have rests := expireAt_sub (List.mem_of_find?_eq_some present)
    obtain ⟨side, inside⟩ := PlainBook.mem_allResting.mp rests
    -- The order was at rest, so its symbol has a gauge.
    have listed : symbol ∈ symbols :=
      within symbol side rested (by rwa [stored_of_bookOf here])
    -- The cancel is in time, so the gauges depend on what happens between the two totals.
    rw [accurate_read_iff accurate turned left_ok forth plain shown listed fun _ member _ => member,
      left_eq, any_due_of_present book_ok.plain_ok present, Bool.not_false, Bool.true_and,
      Bool.not_eq_true']
  -- The order was placed, and its symbol joins those that are watched.
  | @placed order result _ book' left turned _ left_eq left_ok plain shown =>
    rw [acceptedSymbols_placed settled]
    rw [accurate_read_iff accurate turned left_ok forth plain shown
      (List.mem_append_right _ (List.mem_singleton_self _)) fun other member differs =>
        (List.mem_append.mp member).resolve_right fun only => differs (List.mem_singleton.mp only),
      left_eq, Registry.refreshes, Bool.not_eq_true']

/-- Every move keeps the matcher in order. -/
theorem Metered.Moved.ok (moved : Metered.Moved settings clock metered task metered' response)
    (before : MatcherOk settings metered.registry) : MatcherOk settings metered'.registry := by
  cases moved with
  | still => exact before
  | looked _ _ turned | missed _ _ turned | taken _ _ turned | placed turned => exact turned.ok

/-- Every move brings in no order but the one it places. -/
theorem Metered.Moved.resting
    (moved : Metered.Moved settings clock metered task metered' response) {orderId : UUID}
    (member : orderId ∈ metered'.registry.restingIds) :
    orderId ∈ task.newIds ∨ orderId ∈ metered.registry.restingIds := by
  -- Only the placed order is new.
  cases moved with
  | still => exact .inr member
  | looked _ _ turned | missed _ _ turned | taken _ _ turned =>
    exact .inr ((turned.resting orderId member).resolve_left List.not_mem_nil)
  | placed turned => exact turned.resting orderId member

/-- A change of one punctual book leaves every book punctual. -/
theorem Turned.punctual {time time' : ℚ}
    (turned : Turned settings registry registry' symbol book' newcomers)
    (punctual : registry.Punctual time) (forth : time ≤ time')
    (here : StockMarket.Punctual time' book') : registry'.Punctual time' := by
  intro other book found
  -- The changed book is punctual, and for the other ones the time has only gone on.
  by_cases same : other = symbol
  · subst same
    obtain rfl := Option.some_inj.mp (turned.book_eq.symm.trans found)
    exact here
  · rw [turned.others other same] at found
    exact (punctual other book found).later forth

/-- Every move leaves the books punctual. -/
theorem Metered.Moved.punctual
    (moved : Metered.Moved settings clock metered task metered' response)
    (before : metered.registry.Punctual clock.bookAt) (forth : clock.bookAt ≤ clock.sellDepthAt) :
    metered'.registry.Punctual clock.sellDepthAt := by
  cases moved with
  | still => exact fun symbol book here => (before symbol book here).later forth
  | looked _ _ turned punctual | missed _ _ turned punctual | taken _ _ turned punctual
  | placed turned punctual => exact turned.punctual before forth punctual

/-- A book whose orders were there before stays within the given symbols. -/
theorem Turned.within (turned : Turned settings registry registry' symbol book' newcomers)
    (within : registry.Within symbols) (more : symbols ⊆ symbols')
    (known : ∀ rested ∈ book'.plain.allResting, symbol ∈ symbols') : registry'.Within symbols' := by
  intro other side rested member
  -- Only the named symbol's book has changed.
  rw [turned.stored] at member
  split at member
  · rename_i same
    exact same ▸ known rested (PlainBook.mem_allResting.mpr ⟨side, member⟩)
  · exact more (within other side rested member)

/-- Every move leaves orders only in the books of symbols with accepted orders. -/
theorem Metered.Moved.within
    (moved : Metered.Moved settings clock metered (request.task settings clock) metered' response)
    (before : metered.registry.Within symbols) : metered'.registry.Within
      (symbols ++ Answered.acceptedSymbols ⟨clock, request, response⟩) := by
  generalize settled : request.task settings clock = task at moved
  have more : symbols ⊆ symbols ++ Answered.acceptedSymbols ⟨clock, request, response⟩ :=
    List.subset_append_left _ _
  cases moved with
  -- Every move leaves orders that were there, or the one that it placed.
  | still => exact fun symbol side rested member => more (before symbol side rested member)
  | @looked symbol op _ _ book' _ named unmatched turned _ left =>
    refine turned.within before more fun rested member => more ?_
    obtain ⟨side, inside⟩ := PlainBook.mem_allResting.mp member
    rw [left, List.mem_filter] at inside
    exact before symbol side rested inside.1
  | @missed orderId symbol book _ book' mapped here turned _ absent plain same =>
    refine turned.within before more fun rested member => more ?_
    rw [plain] at member
    obtain ⟨side, inside⟩ := PlainBook.mem_allResting.mp (expireAt_sub member)
    exact before symbol side rested (by rwa [stored_of_bookOf here])
  -- The canceled order was at rest under the same symbol.
  | @taken orderId symbol book found _ book' left mapped here turned _ present =>
    obtain ⟨side, inside⟩ :=
      PlainBook.mem_allResting.mp (expireAt_sub (List.mem_of_find?_eq_some present))
    exact turned.within before more fun _ _ =>
      more (before symbol side found (by rwa [stored_of_bookOf here]))
  | @placed order result _ book' left turned =>
    rw [acceptedSymbols_placed settled] at more ⊢
    exact turned.within before more fun _ _ =>
      List.mem_append_right _ (List.mem_singleton_self _)

end Accuracy

/-- The readings that the books of a list of requests may take, in order. -/
def MatcherRun.bookReadings (requests : List (Readings × Request)) : List ℚ :=
  requests.flatMap fun (clock, _) => clock.book

/-- Between requests the books are in order and punctual, and the requests to come are new. -/
structure Metered.Sound (settings : MatcherSettings) (past : List Answered) (metered : Metered)
    (later : List (Readings × Request)) : Prop where
  ok : MatcherOk settings metered.registry
  fresh : ∀ orderId ∈ MatcherRun.newIds later, orderId ∉ metered.registry.restingIds
  distinct : (MatcherRun.newIds later).Nodup
  ordered : (MatcherRun.bookReadings later).Pairwise (· ≤ ·)
  punctual : ∃ time, metered.registry.Punctual time ∧
    ∀ reading ∈ MatcherRun.bookReadings later, time ≤ reading
  within : metered.registry.Within (past.flatMap Answered.acceptedSymbols)

section Runs

open MatcherRun

variable {settings : MatcherSettings} {past : List Answered} {metered : Metered}
  {clock : Readings} {request : Request} {later : List (Readings × Request)}
  {symbols : List String}

/-- Starting a session keeps what is stored under a symbol or drops it. -/
theorem stored_rolled (registry : Registry) (settings : MatcherSettings) (now : Instant)
    (symbol : String) :
    (registry.rolloverMarketSession settings now).stored symbol = registry.stored symbol ∨
      (registry.rolloverMarketSession settings now).stored symbol = fun _ => [] := by
  -- The book is kept or forgotten with the session.
  rcases bookOf_rolled registry settings now symbol with same | gone
  · exact .inl (funext fun side => by rw [Registry.stored, Registry.stored, same])
  · exact .inr (funext fun side => by rw [Registry.stored, gone])

/-- Starting a session keeps the gauges right. -/
theorem accurate_rolled (accurate : metered.Accurate symbols) (now : Instant) :
    (metered.rolloverMarketSession settings now).Accurate symbols := by
  unfold Metered.rolloverMarketSession
  -- Either no session starts, or the day of the session decides.
  split
  · exact accurate
  · rcases rollover_cases metered.registry (sessionDate settings.mode now) with
      ⟨date, same⟩ | ⟨date, same⟩
    · rw [same]
      exact accurate
    · -- A symbol without a book already shows zero, and the others are cleared.
      rw [same]
      intro symbol listed
      refine clear_shows _ _ ?_
      cases registered : metered.registry.books.get? symbol with
      | some ref => exact .inl (Dict.mem_keys_iff.mpr ⟨ref, registered⟩)
      | none =>
        have nothing : metered.registry.stored symbol = fun _ => [] := by
          funext side
          rw [Registry.stored, Registry.bookOf, registered]
          rfl
        exact .inr (nothing ▸ accurate symbol listed)

/-- Starting a session keeps everything ready for the same requests. -/
theorem Metered.Sound.rolled (sound : Metered.Sound settings past metered later) (now : Instant) :
    Metered.Sound settings past (metered.rolloverMarketSession settings now) later := by
  have registry := rolloverMarketSession_registry metered settings now
  obtain ⟨time, punctual, low⟩ := sound.punctual
  -- A session keeps a symbol's book or forgets it, so whatever is left was there before.
  refine ⟨registry ▸ sound.ok.rolled now, fun orderId new => ?_, sound.distinct, sound.ordered,
    ⟨time, fun symbol book here => ?_, low⟩, fun symbol side rested member => ?_⟩
  · rw [registry, rolled_restingIds]
    exact sound.fresh orderId new
  · rw [registry] at here
    rcases bookOf_rolled metered.registry settings now symbol with same | gone
    · exact punctual symbol book (same ▸ here)
    · rw [gone] at here
      cases here
  · rw [registry] at member
    rcases stored_rolled metered.registry settings now symbol with same | gone
    · exact sound.within symbol side rested (same ▸ member)
    · rw [gone] at member
      cases member

/-- The request that comes first reads the clock in order, and before the later requests do. -/
theorem Metered.Sound.first (sound : Metered.Sound settings past metered
    ((clock, request) :: later)) : clock.book.Pairwise (· ≤ ·) ∧
      metered.registry.Punctual clock.bookAt ∧
      ∀ reading ∈ bookReadings later, clock.sellDepthAt ≤ reading := by
  -- The readings are in order over all requests, this one coming first.
  have ordered := sound.ordered
  rw [bookReadings, List.flatMap_cons, List.pairwise_append] at ordered
  obtain ⟨time, punctual, low⟩ := sound.punctual
  -- Books that were punctual earlier are punctual at the first reading.
  refine ⟨ordered.1, fun symbol book here => ?_, fun reading member => ?_⟩
  · exact (punctual symbol book here).later (low _ (by simp [bookReadings, Readings.book]))
  · exact ordered.2.2 clock.sellDepthAt (by simp [Readings.book]) reading member

/-- A request that brings in no order but its own leaves everything ready for the next one. -/
theorem Metered.Sound.next (sound : Metered.Sound settings past metered
    ((clock, request) :: later)) {metered' : Metered} {answered : Answered}
    (ok : MatcherOk settings metered'.registry)
    (resting : ∀ orderId ∈ metered'.registry.restingIds,
      orderId ∈ request.newIds ∨ orderId ∈ metered.registry.restingIds)
    (punctual : metered'.registry.Punctual clock.sellDepthAt)
    (within : metered'.registry.Within
      (past.flatMap Answered.acceptedSymbols ++ answered.acceptedSymbols)) :
    Metered.Sound settings (past ++ [answered]) metered' later := by
  -- The later requests keep what was asked of all of them.
  have ordered := sound.ordered
  rw [bookReadings, List.flatMap_cons, List.pairwise_append] at ordered
  have distinct := sound.distinct
  rw [newIds, List.flatMap_cons, List.nodup_append'] at distinct
  refine ⟨ok, fun orderId new rests => ?_, distinct.2.1, ordered.2.1,
    ⟨clock.sellDepthAt, punctual, sound.first.2.2⟩, ?_⟩
  · -- Identifiers at rest are those of the request or older ones, none of which comes again.
    rcases resting orderId rests with own | before
    · exact distinct.2.2 own new
    · refine sound.fresh orderId ?_ before
      rw [newIds, List.flatMap_cons]
      exact List.mem_append_right _ new
  · rwa [List.flatMap_append, List.flatMap_singleton]

/-- Every request is answered, and it keeps the gauges right exactly when it refreshes them. -/
theorem Metered.Sound.step (sound : Metered.Sound settings past metered
    ((clock, request) :: later)) : ∃ metered' answered,
      metered.answer settings (clock, request) = .ok (metered', answered) ∧
      Metered.Sound settings (past ++ [answered]) metered' later ∧
      (metered.Accurate (past.flatMap Answered.acceptedSymbols) →
        (metered'.Accurate ((past ++ [answered]).flatMap Answered.acceptedSymbols) ↔
          metered.refreshes settings (clock, request) = true)) := by
  -- Of the readings within the request only two comparisons are needed.
  obtain ⟨forth, punctual, _⟩ := sound.first
  have steps : clock.bookAt ≤ clock.sellDepthAt ∧ clock.buyDepthAt ≤ clock.sellDepthAt := by
    simp only [Readings.book, List.pairwise_cons, List.mem_cons, forall_eq_or_imp] at forth
    exact ⟨forth.1.2.2.1, forth.2.2.1.1⟩
  by_cases closed : request.isOrder = true ∧ ¬ isOpen settings.mode clock.openAt
  · -- A closed market refuses an order before anything else is looked at.
    have nothing : Answered.acceptedSymbols ⟨clock, request, marketClosed⟩ = [] :=
      acceptedSymbols_none fun _ => ResponseBody.noConfusion
    refine ⟨metered, ⟨clock, request, marketClosed⟩, ?_, sound.next sound.ok (fun _ => .inr)
      (fun symbol book here => (punctual symbol book here).later steps.1) ?_, fun accurate => ?_⟩
    · simp only [Metered.answer, Metered.handle, if_pos closed, Except.map]
    · rw [nothing, List.append_nil]
      exact sound.within
    · rw [List.flatMap_append, List.flatMap_singleton, nothing, List.append_nil]
      refine iff_of_true accurate ?_
      simp [Metered.refreshes, closed.1, closed.2]
  · -- The session is started first, and the request then meets the books that are left.
    have rolled := sound.rolled clock.sessionAt
    have new : ∀ orderId ∈ request.newIds,
        orderId ∉ (metered.rolloverMarketSession settings clock.sessionAt).registry.restingIds :=
      fun orderId new => rolled.fresh orderId (by
        rw [newIds, List.flatMap_cons]
        exact List.mem_append_left _ new)
    obtain ⟨metered', response, ran, moved⟩ := rolled.ok.moved clock request rolled.first.2.1 forth
      new
    refine ⟨metered', ⟨clock, request, response⟩, ?_, rolled.next (moved.ok rolled.ok)
      (fun orderId member => (moved.resting member).imp_left task_newIds)
      (moved.punctual rolled.first.2.1 steps.1) (moved.within rolled.within), fun accurate => ?_⟩
    · simp only [Metered.answer, Metered.handle, if_neg closed, ran, Except.map]
    · -- The request is no order, or the market is open.
      have entered : (request.isOrder && !isOpen settings.mode clock.openAt) = false := by
        rw [Bool.and_eq_false_iff]
        by_cases order : request.isOrder = true
        · exact .inr (by simpa [order] using closed)
        · exact .inl (by simpa using order)
      rw [List.flatMap_append, List.flatMap_singleton, moved.accurate_iff rolled.ok steps.2
        (accurate_rolled accurate _) rolled.within, rolloverMarketSession_registry,
        Metered.refreshes, entered, Bool.false_or]

/-- A matcher starts without orders and without gauges. -/
theorem Metered.Sound.new (settings : MatcherSettings) {requests : List (Readings × Request)}
    (distinct : (newIds requests).Nodup) (ordered : (bookReadings requests).Pairwise (· ≤ ·)) :
    Metered.Sound settings [] .new requests := by
  -- No order is at rest, so the books are punctual from the first reading on.
  obtain ⟨first, low⟩ := exists_first ordered
  refine ⟨.new settings, fun _ _ rests => ?_, distinct, ordered, ⟨first, fun _ _ here => ?_, low⟩,
    fun _ _ _ member => ?_⟩
  · exact absurd rests List.not_mem_nil
  · cases here
  · cases member

/-- A maximum age of a minute is an allowed one. -/
theorem minute_nonneg : (0 : ℚ) ≤ 60 := by decide +kernel

/-- A matcher of one symbol that never closes, where orders rest for a minute. -/
def minuteMatcher : MatcherSettings :=
  ⟨["005930"], 0, 1, 60, .alwaysOpen, Nat.one_pos, minute_nonneg⟩

/-- All book clocks of a request read one time. -/
def secondsAt (now : ℚ) : Readings := ⟨0, 0, now, now, now, now⟩

/-- An offer, a look at the book, its cancel, and a look at the tape, all within a minute. -/
def timelyRequests : List (Readings × Request) :=
  [(secondsAt 0, offerOf 1), (secondsAt 30, .bookDetail "005930"),
    (secondsAt 59, .cancelOrder 1 none),
    (secondsAt 90, .recentTradeList (.given "005930") .missing)]

example : Machine.throughout (fun metered => metered.answer minuteMatcher)
    (Metered.refreshes minuteMatcher) .new timelyRequests = true := by decide +kernel

/-- An offer, and a look at the book when the offer is too old. -/
def lateLook : List (Readings × Request) :=
  [(secondsAt 0, offerOf 1), (secondsAt 61, .bookDetail "005930")]

/-- Whether the offer is gone from the book and still counted by the gauge. -/
def goneButCounted : Bool :=
  match Metered.serve minuteMatcher .new lateLook with
  | .ok (metered, answers) =>
    answers.flatMap Answered.acceptedSymbols = ["005930"] ∧
      (metered.registry.stored "005930" .buy).length +
        (metered.registry.stored "005930" .sell).length = 0 ∧
      metered.gauges.orderbookOpenOrders.get? "005930" = some 1
  | .error _ => false

end Runs

end StockMarket
