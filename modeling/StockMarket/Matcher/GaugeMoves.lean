import StockMarket.Matcher.Gauges
import StockMarket.Orderbook.ReadPaths

/-! What each request does to the books and to the gauges, under a clock that never goes back. -/

namespace StockMarket

/-- An order at rest has reached the age limit of its book. -/
def PlainBook.due (book : PlainBook) (now : ℚ) (rested : Rested) : Bool :=
  book.config.maxAgeSeconds ≠ 0 ∧ rested.restedAt ≤ book.config.cutoff now

/-- An order at rest has reached the age limit when a call reads the clock, if it does. -/
def PlainBook.dueFor (book : PlainBook) (op : BookOp) (rested : Rested) : Bool :=
  match op.reading with
  | some now => book.due now rested
  | none => false

/-- A bid falls due after the bids are totalled and by the time the offers are. -/
def PlainBook.lapses (book : PlainBook) (clock : Readings) : Bool :=
  (book.resting .buy).any fun rested =>
    !book.due clock.buyDepthAt rested && book.due clock.sellDepthAt rested

/--
A settled request reads the totals of every book that it changes, after it has changed it.

A read of the depth and a cancel that comes too late may still find orders that are due, and the
offers are totalled a moment after the bids.
-/
def Registry.refreshes (registry : Registry) (settings : MatcherSettings) (clock : Readings) :
    Task → Bool
  | .refuse _ => true
  | .place order =>
    !((registry.bookOrNew settings order.symbol order.symbol_present).plain.perform
      (.submit order clock.bookAt clock.restAt)).1.lapses clock
  | .take orderId =>
    match (registry.orderSymbols.get? orderId).bind registry.bookOf with
    | none => true
    | some book =>
      !(book.plain.allResting.any fun rested =>
        rested.order.orderId = orderId && book.plain.due clock.bookAt rested) &&
      !(book.plain.perform (.cancel orderId clock.bookAt)).1.lapses clock
  | .look symbol op _ =>
    match registry.bookOf symbol with
    | none => true
    | some book => !book.plain.allResting.any (book.plain.dueFor op)

/-- The orders in the current book of a symbol, which has none when there is no book. -/
def Registry.stored (registry : Registry) (symbol : String) (side : OrderSide) : List Rested :=
  match registry.bookOf symbol with
  | some book => book.plain.resting side
  | none => []

section Expiry

variable {book : PlainBook} {now : ℚ}

/-- Expiry keeps the orders that are not due. -/
theorem expireAt_eq_keep (book : PlainBook) (now : ℚ) :
    book.expireAt now = book.keep fun rested => !book.due now rested := by
  -- Without a maximum age nothing is due, and otherwise the cut-off decides.
  unfold PlainBook.expireAt
  split
  · rename_i disabled
    simp [PlainBook.keep, PlainBook.due, disabled]
  · rename_i aged
    simp only [PlainBook.expireBefore, PlainBook.due, ne_eq, aged, not_false_eq_true, true_and,
      ← not_lt, decide_not, Bool.not_not]

/-- Expiry keeps the orders of a side that are not due. -/
theorem expireAt_resting (book : PlainBook) (now : ℚ) (side : OrderSide) :
    (book.expireAt now).resting side =
      (book.resting side).filter fun rested => !book.due now rested := by
  rw [expireAt_eq_keep]
  rfl

/-- A call that only reads leaves the orders that are not due when it looks at the clock. -/
theorem perform_read_resting {op : BookOp} (reads : ∀ plain : PlainBook, (plain.act op).1 = plain)
    (book : PlainBook) (side : OrderSide) : (book.perform op).1.resting side =
      (book.resting side).filter fun rested => !book.dueFor op rested := by
  simp only [PlainBook.perform, PlainBook.dueFor]
  cases op.reading with
  | none => simp only [reads, Bool.not_false, List.filter_true]
  | some now => simp only [reads, expireAt_resting]

/-- The bids that are totalled are those that are left, unless one of them lapses. -/
theorem lapses_eq_false_iff {clock : Readings} (ok : PlainOk book)
    (forth : clock.buyDepthAt ≤ clock.sellDepthAt) :
    supply Rested.remainingQuantity ((book.expireAt clock.sellDepthAt).resting .buy) =
        supply Rested.remainingQuantity ((book.expireAt clock.buyDepthAt).resting .buy) ↔
      book.lapses clock = false := by
  -- What is left of the bids weighs as much exactly when none of them is due.
  have positive : ∀ rested ∈ (book.expireAt clock.buyDepthAt).resting .buy,
      1 ≤ rested.remainingQuantity := fun rested member =>
    (ok.expireAt _).positive rested (PlainBook.mem_allResting.mpr ⟨.buy, member⟩)
  have due_eq : (book.expireAt clock.buyDepthAt).due clock.sellDepthAt =
      book.due clock.sellDepthAt := by
    rw [expireAt_eq_keep]
    rfl
  rw [← expireAt_expireAt forth, expireAt_resting, supply_filter_eq_iff positive, due_eq,
    expireAt_resting, PlainBook.lapses, List.any_eq_false]
  simp only [List.mem_filter, Bool.not_eq_true', Bool.and_eq_true, not_and, Bool.not_eq_true,
    and_imp]

end Expiry

/-- The readings that the book of a request may take, in order. -/
def Readings.book (clock : Readings) : List ℚ :=
  [clock.bookAt, clock.restAt, clock.buyDepthAt, clock.sellDepthAt]

/-- A well-formed book whose orders came to rest by a given time, in the order of their arrival. -/
structure Punctual (time : ℚ) (book : OrderBook) : Prop where
  ok : BookOk book
  timed : book.config.maxAgeSeconds ≠ 0 → Timed time book.plain

section Punctual

variable {time time' : ℚ} {book book' : OrderBook} {op : BookOp} {reply : BookReply}
  {calls : List Callback} {gone : List Rested} {expired : PlainBook}

/-- Time passes over a book. -/
theorem Punctual.later (punctual : Punctual time book) (forth : time ≤ time') :
    Punctual time' book :=
  ⟨punctual.ok, fun aged => ⟨fun rested member =>
    ((punctual.timed aged).stamped rested member).trans forth, (punctual.timed aged).ascend⟩⟩

/-- Under a clock that never goes back a call expires what is due, and then acts. -/
theorem Punctual.perform (punctual : Punctual time book)
    (done : Performed book op book' reply calls gone expired)
    (visible : op.expiresAt book.symbol = op.reading) (forth : time ≤ time')
    (low : ∀ reading ∈ op.readings, time ≤ reading)
    (high : ∀ reading ∈ op.readings, reading ≤ time') :
    Punctual time' book' ∧ book'.plain = (book.plain.perform op).1 ∧
      reply = (book.plain.perform op).2 := by
  refine ⟨⟨done.ok, fun aged => ?_⟩, ?_⟩
  · have aged_before : book.config.maxAgeSeconds ≠ 0 := done.config_eq ▸ aged
    exact done.timed punctual.ok aged_before (punctual.timed aged_before) low forth high
  · -- A call that looks at the clock expires what is due, and any other one nothing.
    have expiry := done.expiry
    have visible' : op.expiresAt book.plain.config.symbol = op.reading := visible
    rw [ExpiryOf, visible'] at expiry
    rw [done.plain_eq, done.reply_eq, PlainBook.perform]
    cases read : op.reading with
    | none =>
      rw [read] at expiry
      rw [expiry.2]
      exact ⟨rfl, rfl⟩
    | some now =>
      rw [read] at expiry
      rw [expiry.eq_expireAt punctual.ok.plain_ok fun aged => (punctual.timed aged).ascend]
      exact ⟨rfl, rfl⟩

/-- An order for the symbol of a book is matched there. -/
theorem perform_submit_own {plain : PlainBook} {order : Order} (now restAt : ℚ)
    (own : order.symbol = plain.config.symbol) :
    ∃ result, (plain.perform (.submit order now restAt)).2 = .matched result := by
  have own_now : order.symbol = (plain.expireAt now).config.symbol := by rwa [expireAt_config]
  have performed : plain.perform (.submit order now restAt) =
    (plain.expireAt now).act (.submit order now restAt) := rfl
  exact ⟨_, by rw [performed, act_submit_own own_now]⟩

/-- A new book is punctual at any time. -/
theorem Punctual.new (config : BookConfig) (time : ℚ) : Punctual time (.new config) :=
  ⟨new_ok config, fun _ => new_timed config time⟩

end Punctual

/-- The gauges once the totals of a symbol's book have been read. -/
def Gauges.refreshed (gauges : Gauges) (symbol : String) (clock : Readings)
    (left : PlainBook) : Gauges :=
  ((gauges.setDepth symbol .buy
    (supply Rested.remainingQuantity ((left.expireAt clock.buyDepthAt).resting .buy))).setDepth
      symbol .sell
      (supply Rested.remainingQuantity ((left.expireAt clock.sellDepthAt).resting .sell))
    ).setOpenOrders symbol (left.expireAt clock.sellDepthAt).allResting.length

/-- Every book is punctual. -/
def Registry.Punctual (registry : Registry) (time : ℚ) : Prop :=
  ∀ symbol book, registry.bookOf symbol = some book → StockMarket.Punctual time book

/-- The ways in which a settled request changes the books and the gauges. -/
inductive Metered.Moved (settings : MatcherSettings) (clock : Readings) (metered : Metered) :
    Task → Metered → Response → Prop where
  | still {task : Task} {response : Response} (placeless : task.newIds = [])
      (unmatched : ∀ result, response.body ≠ .matchResult result)
      (idle : metered.registry.refreshes settings clock task = true) :
      Moved settings clock metered task metered response
  | looked {symbol : String} {op : BookOp} {answer : BookReply → Response} {metered' : Metered}
      {book' : OrderBook} {response : Response} (named : isBlank symbol = false)
      (unmatched : ∀ result, response.body ≠ .matchResult result)
      (turned : Turned settings metered.registry metered'.registry symbol book' [])
      (punctual : StockMarket.Punctual clock.sellDepthAt book')
      (left : ∀ side, book'.plain.resting side = (metered.registry.stored symbol side).filter
        fun rested => !(metered.registry.bookOrNew settings symbol named).plain.dueFor op rested)
      (same : metered'.gauges = metered.gauges) :
      Moved settings clock metered (.look symbol op answer) metered' response
  | missed {orderId : UUID} {symbol : String} {book : OrderBook} {metered' : Metered}
      {book' : OrderBook} (mapped : metered.registry.orderSymbols.get? orderId = some symbol)
      (here : metered.registry.bookOf symbol = some book)
      (turned : Turned settings metered.registry metered'.registry symbol book' [])
      (punctual : StockMarket.Punctual clock.sellDepthAt book')
      (absent : (book.plain.expireAt clock.bookAt).find? orderId = none)
      (plain : book'.plain = book.plain.expireAt clock.bookAt)
      (same : metered'.gauges = metered.gauges) :
      Moved settings clock metered (.take orderId) metered' (alreadyClosed orderId)
  | taken {orderId : UUID} {symbol : String} {book : OrderBook} {rested : Rested}
      {metered' : Metered} {book' : OrderBook} {left : PlainBook}
      (mapped : metered.registry.orderSymbols.get? orderId = some symbol)
      (here : metered.registry.bookOf symbol = some book)
      (turned : Turned settings metered.registry metered'.registry symbol book' [])
      (punctual : StockMarket.Punctual clock.sellDepthAt book')
      (present : (book.plain.expireAt clock.bookAt).find? orderId = some rested)
      (left_eq : left = (book.plain.perform (.cancel orderId clock.bookAt)).1) (left_ok : PlainOk left)
      (plain : book'.plain = left.expireAt clock.sellDepthAt)
      (shown : metered'.gauges = metered.gauges.refreshed symbol clock left) :
      Moved settings clock metered (.take orderId) metered' (canceledAnswer rested.asOpenOrder)
  | placed {order : Order} {result : MatchResult} {metered' : Metered} {book' : OrderBook}
      {left : PlainBook}
      (turned : Turned settings metered.registry metered'.registry order.symbol book'
        [order.orderId])
      (punctual : StockMarket.Punctual clock.sellDepthAt book')
      (left_eq : left = ((metered.registry.bookOrNew settings order.symbol
        order.symbol_present).plain.perform (.submit order clock.bookAt clock.restAt)).1)
      (left_ok : PlainOk left)
      (plain : book'.plain = left.expireAt clock.sellDepthAt)
      (shown : metered'.gauges = metered.gauges.refreshed order.symbol clock left) :
      Moved settings clock metered (.place order) metered' ⟨201, .matchResult result⟩

section Moves

variable {settings : MatcherSettings} {metered : Metered} {registry : Registry} {clock : Readings}
  {symbol : String} {book : OrderBook} {request : Request} {response : Response}

/-- Reading the totals of a book expires what is due at each of the two readings. -/
theorem Metered.totals_spec (metered : Metered) (clock : Readings)
    (ok : MatcherOk settings metered.registry)
    (here : metered.registry.bookOf symbol = some book)
    (punctual : Punctual clock.buyDepthAt book) (forth : clock.buyDepthAt ≤ clock.sellDepthAt) :
    ∃ metered' book', metered.updateOrderbookDepth settings.owned symbol clock.buyDepthAt
        clock.sellDepthAt = .ok (metered', .ok ()) ∧
      Turned settings metered.registry metered'.registry symbol book' [] ∧
      Punctual clock.sellDepthAt book' ∧
      book'.plain = book.plain.expireAt clock.sellDepthAt ∧
      metered'.gauges = metered.gauges.refreshed symbol clock book.plain := by
  -- Each total is one call of the book, and expires what is due at its reading.
  obtain ⟨ref, listed, found⟩ := bookOf_eq_some_iff.mp here
  obtain ⟨registry₁, reply₁, calls₁, book₁, _, _, ran₁, _, done₁, turned₁, listed₁, found₁⟩ :=
    ok.call_spec listed found (.totalQuantity .buy clock.buyDepthAt) (by simp [BookOp.newIds])
      (by simp)
  obtain ⟨registry₂, reply₂, calls₂, book₂, _, _, ran₂, _, done₂, turned₂, _, found₂⟩ :=
    turned₁.ok.call_spec listed₁ found₁ (.totalQuantity .sell clock.sellDepthAt)
      (by simp [BookOp.newIds]) (by simp)
  -- The readings go forth, so the book is punctual at each of them.
  obtain ⟨punctual₁, plain₁, bought⟩ := punctual.perform done₁ rfl (le_refl _)
    (by simp [BookOp.readings, BookOp.reading]) (by simp [BookOp.readings, BookOp.reading])
  obtain ⟨punctual₂, plain₂, sold⟩ := punctual₁.perform done₂ rfl forth
    (by simp [BookOp.readings, BookOp.reading, forth])
    (by simp [BookOp.readings, BookOp.reading])
  -- A total leaves the book as expiry left it.
  have first : book₁.plain = book.plain.expireAt clock.buyDepthAt := plain₁
  have again : book₁.plain.expireAt clock.sellDepthAt = book.plain.expireAt clock.sellDepthAt := by
    rw [first, expireAt_expireAt forth]
  have last : book₂.plain = book.plain.expireAt clock.sellDepthAt := plain₂.trans again
  -- Each gauge is set to the sum of its side, as it is at that reading.
  have bought : reply₁ = .quantity (supply Rested.remainingQuantity
    ((book.plain.expireAt clock.buyDepthAt).resting .buy)) := bought
  have sold : reply₂ = .quantity (supply Rested.remainingQuantity
      ((book.plain.expireAt clock.sellDepthAt).resting .sell)) := by
    rw [← again]
    exact sold
  have counted : book₂.openOrderCount = (book.plain.expireAt clock.sellDepthAt).allResting.length :=
    last ▸ openOrderCount_eq punctual₂.ok
  have owns := ok.owned_books symbol ref listed
  have object : registry₂.object ref = .ok book₂ := by
    rw [Registry.object, found₂]
  refine ⟨⟨registry₂, metered.gauges.refreshed symbol clock book.plain⟩, book₂, ?_,
    turned₁.trans turned₂, punctual₂, last, rfl⟩
  simp only [Metered.updateOrderbookDepth, get_present owns listed, ran₁, ran₂, object, bought,
    sold, counted, Gauges.showDepth, Gauges.refreshed, Bind.bind, Except.bind, Pure.pure,
    Except.pure]

/-- The orders of a book are what is stored under its symbol. -/
theorem stored_of_bookOf {book : OrderBook} (here : registry.bookOf symbol = some book) :
    registry.stored symbol = book.plain.resting := by
  funext side
  rw [Registry.stored, here]

/-- A new book stores as little as no book. -/
theorem bookOrNew_resting (named : isBlank symbol = false) :
    (registry.bookOrNew settings symbol named).plain.resting = registry.stored symbol := by
  unfold Registry.bookOrNew
  cases here : registry.bookOf symbol with
  -- A book that is there is the one whose orders are stored.
  | some book => exact (stored_of_bookOf here).symm
  | none =>
    funext side
    rw [Registry.stored, here, Option.getD_none, new_plain]
    rfl

/-- The book of a symbol is punctual, also when it is new. -/
theorem Registry.Punctual.bookOrNew {time : ℚ} (punctual : registry.Punctual time)
    (named : isBlank symbol = false) :
    StockMarket.Punctual time (registry.bookOrNew settings symbol named) := by
  unfold Registry.bookOrNew
  cases here : registry.bookOf symbol with
  | some book => exact punctual symbol book here
  | none => exact .new _ _

/-- Placing an order reads the totals of its book. -/
theorem MatcherOk.placed (ok : MatcherOk settings metered.registry)
    (punctual : metered.registry.Punctual clock.bookAt) (forth : clock.book.Pairwise (· ≤ ·))
    {order : Order} (owns : settings.owned.isOwnedSymbol order.symbol = true)
    (fresh : order.orderId ∉ metered.registry.restingIds) :
    ∃ metered' response, metered.placeOrder settings clock order = .ok (metered', response) ∧
      Metered.Moved settings clock metered (.place order) metered' response := by
  -- The readings that matter here are taken out of their order.
  simp only [Readings.book, List.pairwise_cons, List.mem_cons, forall_eq_or_imp,
    List.not_mem_nil, false_imp_iff, implies_true, and_true] at forth
  obtain ⟨⟨before, _, _⟩, ⟨between, _⟩, after, _⟩ := forth
  obtain ⟨registry₁, reply, calls, book₁, gone, expired, ran, _, done, turned⟩ :=
    ok.submit_spec clock order owns fresh
  have own : order.symbol = (metered.registry.bookOrNew settings order.symbol
    order.symbol_present).plain.config.symbol := (ok.bookOrNew_ok order.symbol_present).2.1.symm
  obtain ⟨punctual₁, plain₁, replied⟩ := (punctual.bookOrNew order.symbol_present).perform done
    (if_pos own) before (by simp [BookOp.readings, before])
    (by simp [BookOp.readings, before])
  -- The book has the order's symbol, so the order is matched there.
  obtain ⟨result, matched⟩ := perform_submit_own clock.bookAt clock.restAt own
  obtain rfl := replied.trans matched
  obtain ⟨metered₂, book₂, read, turned₂, punctual₂, plain₂, shown⟩ :=
    Metered.totals_spec ⟨registry₁, metered.gauges⟩ clock turned.ok turned.book_eq
      -- The totals are read later than the order was placed.
      (punctual₁.later between) after
  refine ⟨metered₂, ⟨201, .matchResult result⟩, ?_, .placed (turned.trans turned₂) punctual₂
    plain₁ punctual₁.ok.plain_ok plain₂ shown⟩
  simp only [Metered.placeOrder, ran, read, Bind.bind, Except.bind, Pure.pure, Except.pure,
    Metered.answerWith]

/-- Canceling an order reads the totals of its book, unless there is nothing left to cancel. -/
theorem MatcherOk.taken (ok : MatcherOk settings metered.registry)
    (punctual : metered.registry.Punctual clock.bookAt) (forth : clock.book.Pairwise (· ≤ ·))
    (orderId : UUID) : ∃ metered' response,
      metered.takeOrder settings clock orderId = .ok (metered', response) ∧
      Metered.Moved settings clock metered (.take orderId) metered' response := by
  simp only [Readings.book, List.pairwise_cons, List.mem_cons, forall_eq_or_imp,
    List.not_mem_nil, false_imp_iff, implies_true, and_true] at forth
  obtain ⟨⟨before, until_bids, until_offers⟩, _, after, _⟩ := forth
  -- An order that the matcher does not know is answered as closed, and nothing is read.
  cases mapped : metered.registry.orderSymbols.get? orderId with
  | none =>
    refine ⟨metered, alreadyClosed orderId, ?_, .still rfl (fun _ => ResponseBody.noConfusion) ?_⟩
    · simp only [Metered.takeOrder, Registry.cancel, mapped, Bind.bind, Except.bind, Pure.pure,
        Except.pure]
    · simp only [Registry.refreshes, mapped, Option.bind_none]
  | some symbol =>
    obtain ⟨book, registry₁, reply, calls, book₁, gone, expired, here, member, ran, _, done,
      turned⟩ := ok.cancel_spec mapped clock.bookAt
    obtain ⟨punctual₁, plain₁, replied⟩ := (punctual symbol book here).perform done rfl (le_refl _)
      (by simp [BookOp.readings, BookOp.reading]) (by simp [BookOp.readings, BookOp.reading])
    -- The plain book takes out the same order.
    have performed : book.plain.perform (.cancel orderId clock.bookAt) =
        (((book.plain.expireAt clock.bookAt).takeOut orderId).1, .ofResult .canceled
          ((book.plain.expireAt clock.bookAt).takeOut orderId).2) := rfl
    cases found : (book.plain.expireAt clock.bookAt).find? orderId with
    | none =>
      -- The order has expired at the cancel, so there is nothing to cancel.
      rw [performed, PlainBook.takeOut, found] at plain₁ replied
      cases replied
      refine ⟨⟨registry₁, metered.gauges⟩, alreadyClosed orderId, ?_,
        .missed mapped here turned (punctual₁.later until_offers) found plain₁ rfl⟩
      simp only [Metered.takeOrder, ran, BookReply.ofResult, Bind.bind, Except.bind, Pure.pure,
        Except.pure]
    | some rested =>
      rw [performed, PlainBook.takeOut, found] at replied
      cases replied
      -- The totals read afterwards are those of the order's own symbol.
      have rests := expireAt_sub (List.mem_of_find?_eq_some found)
      have own : rested.asOpenOrder.order.symbol = symbol := (ok.book_ok here).2.2 rested rests
      obtain ⟨metered₂, book₂, read, turned₂, punctual₂, plain₂, shown⟩ :=
        Metered.totals_spec ⟨registry₁, metered.gauges⟩ clock turned.ok turned.book_eq
          (punctual₁.later until_bids) after
      refine ⟨metered₂, canceledAnswer rested.asOpenOrder, ?_,
        .taken mapped here (turned.trans turned₂) punctual₂ found plain₁ punctual₁.ok.plain_ok
          plain₂ shown⟩
      simp only [Metered.takeOrder, ran, BookReply.ofResult, own, read, Bind.bind, Except.bind,
        Pure.pure, Except.pure, Metered.answerWith]

/-- Reading a book sets no gauge. -/
theorem MatcherOk.looked (ok : MatcherOk settings metered.registry)
    (punctual : metered.registry.Punctual clock.bookAt) (forth : clock.book.Pairwise (· ≤ ·))
    {op : BookOp} {answer : BookReply → Response}
    (settled : request.task settings clock = .look symbol op answer) :
    ∃ metered' response,
      metered.readBook settings symbol op answer = .ok (metered', response) ∧
      Metered.Moved settings clock metered (.look symbol op answer) metered' response := by
  simp only [Readings.book, List.pairwise_cons, List.mem_cons, forall_eq_or_imp,
    List.not_mem_nil, false_imp_iff, implies_true, and_true] at forth
  have until_offers : clock.bookAt ≤ clock.sellDepthAt := forth.1.2.2
  have idle : metered.registry.bookOf symbol = none →
      metered.registry.refreshes settings clock (.look symbol op answer) = true := fun none => by
    simp only [Registry.refreshes, none]
  -- What a read does to a book is the same for both kinds of read.
  obtain ⟨brings_none, uncanceled⟩ := task_look settled
  have reads : (∀ plain : PlainBook, (plain.act op).1 = plain) ∧
      op.expiresAt symbol = op.reading ∧ (∀ reading ∈ op.readings, reading = clock.bookAt) ∧
      ∀ reply result, (answer reply).body ≠ .matchResult result := by
    rcases task_reads settled with ⟨rfl, rfl⟩ | ⟨limit, rfl, rfl⟩
    · exact ⟨fun _ => rfl, rfl, fun _ member => List.mem_singleton.mp member,
        fun reply _ => by cases reply <;> exact ResponseBody.noConfusion⟩
    · exact ⟨fun _ => rfl, rfl, fun _ member => (by cases member),
        fun reply _ => by cases reply <;> exact ResponseBody.noConfusion⟩
  obtain ⟨leaves, visible, taken, unmatched⟩ := reads
  rcases ok.look_spec symbol answer brings_none uncanceled with
    ⟨disowned, ran⟩ | ⟨blank, ran⟩ | ⟨named, registry', book', response, owns, ran, saw, turned⟩
  · -- The symbol belongs to another matcher, which is answered before any book is read.
    refine ⟨metered, symbolNotFound, ?_, .still rfl (fun _ => ResponseBody.noConfusion) (idle ?_)⟩
    · simp only [Metered.readBook, ran, Bind.bind, Except.bind, Pure.pure, Except.pure]
    · cases here : metered.registry.bookOf symbol with
      | none => rfl
      | some book =>
        obtain ⟨ref, listed, _⟩ := bookOf_eq_some_iff.mp here
        rw [ok.owned_books symbol ref listed] at disowned
        cases disowned
  · -- A blank symbol fails, and no book has one.
    refine ⟨metered, serverError, ?_, .still rfl (fun _ => ResponseBody.noConfusion) (idle ?_)⟩
    · simp only [Metered.readBook, ran, Bind.bind, Except.bind, Pure.pure, Except.pure]
    · cases here : metered.registry.bookOf symbol with
      | none => rfl
      | some book =>
        have present : isBlank book.symbol = false := book.config.symbol_present
        rw [(ok.book_ok here).2.1, blank] at present
        cases present
  · -- The book is read, and only expiry can change it.
    have punctual_here : Punctual clock.bookAt (metered.registry.bookOrNew settings symbol named) :=
      punctual.bookOrNew named
    obtain ⟨book₁, reply, calls, gone, expired, performed, done⟩ :=
      perform_spec punctual_here.ok op fun orderId member => by simp [brings_none] at member
    obtain ⟨⟨book₂, reply₂, calls₂⟩, performed', saw⟩ := Outcome.bind_eq_ok saw
    cases saw
    obtain ⟨rfl, _⟩ := Prod.mk.inj (Except.ok.inj (performed.symm.trans performed'))
    have own := (ok.bookOrNew_ok named).2.1
    obtain ⟨punctual₁, plain₁, _⟩ := punctual_here.perform done
      (by rw [own]; exact visible) until_offers
      (fun reading member => (taken reading member).ge)
      (fun reading member => (taken reading member).le.trans until_offers)
    -- What is left in the book is what is not due.
    have left : ∀ side, book₁.plain.resting side = (metered.registry.stored symbol side).filter
        fun rested =>
          !(metered.registry.bookOrNew settings symbol named).plain.dueFor op rested := by
      intro side
      rw [plain₁, perform_read_resting leaves, bookOrNew_resting]
    refine ⟨⟨registry', metered.gauges⟩, answer reply₂, ?_,
      .looked named (unmatched reply₂) turned punctual₁ left rfl⟩
    simp only [Metered.readBook, ran, Bind.bind, Except.bind, Pure.pure, Except.pure]

variable (clock request) in
/-- Every settled request with a new identifier is carried out in one of these ways. -/
theorem MatcherOk.moved (ok : MatcherOk settings metered.registry)
    (punctual : metered.registry.Punctual clock.bookAt) (forth : clock.book.Pairwise (· ≤ ·))
    (fresh : ∀ orderId ∈ request.newIds, orderId ∉ metered.registry.restingIds) :
    ∃ metered' response,
      metered.carryOut settings clock (request.task settings clock) = .ok (metered', response) ∧
      Metered.Moved settings clock metered (request.task settings clock) metered' response := by
  cases settled : request.task settings clock with
  | refuse response =>
    -- A refusal is no match.
    refine ⟨metered, response, rfl, .still rfl (fun result matched => ?_) rfl⟩
    rcases task_refuse settled with ⟨_, reason⟩ | ⟨_, reason⟩ <;>
      cases matched.symm.trans reason
  | place order =>
    obtain ⟨owns, new⟩ := task_place settled
    exact ok.placed punctual forth owns (fresh order.orderId (new ▸ List.mem_singleton_self _))
  | take orderId => exact ok.taken punctual forth orderId
  | look symbol op answer => exact ok.looked punctual forth settled

end Moves

end StockMarket
