import StockMarket.Matcher.ViewLaws

/-! A request is settled by its own fields first, and then carried out on one symbol's book. -/

namespace StockMarket

/-- What a request asks of the books once its fields are settled. -/
inductive Task where
  | refuse (response : Response)
  | place (order : Order)
  | take (orderId : UUID)
  | look (symbol : String) (op : BookOp) (answer : BookReply → Response)

/-- The answer to a read of a symbol's depth. -/
def snapshotAnswer : BookReply → Response
  | .snapshot snapshot => ⟨200, .snapshot snapshot⟩
  | _ => serverError

/-- The answer to a read of a symbol's tape. -/
def tapeAnswer (symbol : String) : BookReply → Response
  | .trades trades => ⟨200, .tape symbol trades⟩
  | _ => serverError

/-- Settle the fields of a request, in the order in which its view checks them. -/
def Request.task (settings : MatcherSettings) (clock : Readings) : Request → Task
  | .createOrder data orderId =>
    match data.createOrder orderId with
    | .error response => .refuse response
    | .ok order =>
      if ¬ settings.isSimulatedSymbol order.symbol then
        .refuse ⟨400, .errors [("symbol", ["symbol is not in the current simulation set"])]⟩
      else if ¬ settings.owned.isOwnedSymbol order.symbol then
        .refuse ⟨400, .errors [("symbol", ["symbol is owned by another matcher shard"])]⟩
      else .place order
  | .cancelOrder orderId symbol =>
    let symbol := strip (symbol.getD "")
    if symbol ≠ "" ∧ ¬ settings.isSimulatedSymbol symbol then
      .refuse ⟨400, .errors [("symbol", ["symbol is not in the current simulation set"])]⟩
    else if symbol ≠ "" ∧ ¬ settings.owned.isOwnedSymbol symbol then
      .refuse ⟨400, .errors [("symbol", ["symbol is owned by another matcher shard"])]⟩
    else .take orderId
  | .bookDetail symbol => .look symbol (.snapshot clock.bookAt) snapshotAnswer
  | .recentTradeList symbol limit =>
    match charField 6 symbol, limitField limit with
    | .ok symbol, .ok limit => .look symbol (.recentTrades limit) (tapeAnswer symbol)
    | symbol, limit =>
      .refuse ⟨400, .errors (fieldErrors "symbol" symbol ++ fieldErrors "limit" limit)⟩

/-- An order is the one request that a closed market refuses. -/
def Request.isOrder : Request → Bool
  | .createOrder _ _ => true
  | _ => false

/-- The answer to an order while the market is closed. -/
def marketClosed : Response := ⟨409, .detail "market is closed"⟩

/-- The answer to a cancel of an order that is not found. -/
def alreadyClosed (orderId : UUID) : Response := ⟨200, .canceled orderId "ALREADY_CLOSED" 0⟩

/-- The answer to a read of a symbol that has no book here. -/
def symbolNotFound : Response := ⟨404, .detail "symbol was not found"⟩

/-- The answer to a cancel that took an order out of its book. -/
def canceledAnswer (taken : OpenOrder) : Response :=
  ⟨200, .canceled taken.order.orderId "CANCELED" taken.remainingQuantity⟩

/-- Carry out a settled request. -/
def Registry.carryOut (registry : Registry) (settings : MatcherSettings) (clock : Readings) :
    Task → Except Fault (Registry × Response)
  | .refuse response => .ok (registry, response)
  | .place order => registry.placeOrder settings clock order
  | .take orderId => registry.takeOrder settings clock orderId
  | .look symbol op answer => registry.readBook settings symbol op answer

/-- Outside a closed market a request starts the session, settles its fields, and is carried out. -/
theorem handle_eq (registry : Registry) (settings : MatcherSettings) (clock : Readings)
    (request : Request) : registry.handle settings clock request =
      if request.isOrder = true ∧ ¬ isOpen settings.mode clock.openAt then
        .ok (registry, marketClosed)
      else (registry.rolloverMarketSession settings clock.sessionAt).carryOut settings clock
        (request.task settings clock) := by
  -- Each view checks its own fields, so the kinds of request are compared one by one.
  cases request with
  | createOrder data orderId =>
    simp only [Registry.handle, Registry.createOrder, Request.isOrder, Request.task, true_and]
    split
    · rfl
    · -- Invalid fields are refused before the symbol is looked at.
      cases data.createOrder orderId with
      | error response => rfl
      | ok order =>
        simp only
        split
        · rfl
        · split <;> rfl
  | cancelOrder orderId symbol =>
    simp only [Registry.handle, Registry.cancelOrder, Request.isOrder, Request.task,
      Bool.false_eq_true, false_and, if_false]
    -- A missing symbol is no reason to refuse a cancel.
    split
    · rfl
    · split <;> rfl
  | bookDetail symbol => rfl
  | recentTradeList symbol limit =>
    simp only [Registry.handle, Registry.recentTradeList, Request.isOrder, Request.task,
      Bool.false_eq_true, false_and, if_false]
    cases charField 6 symbol <;> cases limitField limit <;> rfl

namespace OrderBook

/-- Read both depths of a book. -/
def readDepths (book : OrderBook) (clock : Readings) : Except Fault OrderBook := do
  let (book, _, _) ← book.perform (.totalQuantity .buy clock.buyDepthAt)
  let (book, _, _) ← book.perform (.totalQuantity .sell clock.sellDepthAt)
  return book

/-- Match an order in its book and read the depths. -/
def placeOrder (book : OrderBook) (clock : Readings) (order : Order) :
    Except Fault (OrderBook × Response) := do
  let (book, reply, _) ← book.perform (.submit order clock.bookAt clock.restAt)
  match reply with
  | .matched result => return (← book.readDepths clock, ⟨201, .matchResult result⟩)
  | _ => return (book, serverError)

/-- Cancel an order in its book, and read the depths unless it had expired. -/
def takeOrder (book : OrderBook) (clock : Readings) (orderId : UUID) :
    Except Fault (OrderBook × Response) := do
  let (book, reply, _) ← book.perform (.cancel orderId clock.bookAt)
  match reply with
  | .canceled taken => return (← book.readDepths clock, canceledAnswer taken)
  | .raised (.orderNotFound _) => return (book, alreadyClosed orderId)
  | _ => return (book, serverError)

/-- Read from a book. -/
def look (book : OrderBook) (op : BookOp) (answer : BookReply → Response) :
    Except Fault (OrderBook × Response) := do
  let (book, reply, _) ← book.perform op
  return (book, answer reply)

end OrderBook

section Desk

variable {settings : MatcherSettings} {registry : Registry} {symbol : String} {book : OrderBook}
  {clock : Readings}

variable (clock) in
/-- Reading the depths of an owned symbol is done on its book. -/
theorem MatcherOk.readDepths_spec (ok : MatcherOk settings registry) {ref : Nat}
    (listed : registry.books.get? symbol = some ref)
    (found : registry.objects[ref]? = some book) :
    ∃ registry' book', registry.updateOrderbookDepth settings.owned symbol clock.buyDepthAt
        clock.sellDepthAt = .ok (registry', .ok ()) ∧
      book.readDepths clock = .ok book' ∧ Turned settings registry registry' symbol book' [] := by
  -- Both reads are made in turn, on the same book.
  obtain ⟨registry₁, reply₁, calls₁, book₁, _, _, ran₁, performed₁, _, turned₁, listed₁, found₁⟩ :=
    ok.call_spec listed found (.totalQuantity .buy clock.buyDepthAt) (by simp [BookOp.newIds])
      (by simp)
  obtain ⟨registry₂, reply₂, calls₂, book₂, _, _, ran₂, performed₂, _, turned₂, _, _⟩ :=
    turned₁.ok.call_spec listed₁ found₁ (.totalQuantity .sell clock.sellDepthAt)
      (by simp [BookOp.newIds]) (by simp)
  have owns := ok.owned_books symbol ref listed
  refine ⟨registry₂, book₂, ?_, ?_, turned₁.trans turned₂⟩
  · -- The registry makes both calls on the book that is registered.
    simp only [Registry.updateOrderbookDepth, get_present owns listed, ran₁, ran₂, Bind.bind,
      Except.bind, Pure.pure, Except.pure]
  · simp only [OrderBook.readDepths, performed₁, performed₂, Bind.bind, Except.bind, Pure.pure,
      Except.pure]

/-- A symbol that is not owned has no book, and none is created for it. -/
theorem get_foreign (registry : Registry) (foreign : settings.owned.isOwnedSymbol symbol = false) :
    registry.get settings.owned symbol = (registry, .ok none) := by
  simp only [Registry.get, foreign, Bool.false_eq_true, not_false_eq_true, if_true]

/-- An owned symbol that is blank cannot get a book. -/
theorem MatcherOk.get_blank (ok : MatcherOk settings registry)
    (owns : settings.owned.isOwnedSymbol symbol = true) (blank : isBlank symbol = true) :
    ∃ error, registry.get settings.owned symbol = (registry, .error error) := by
  -- A registered book has the symbol it is registered for, which is never blank.
  have absent : registry.books.get? symbol = none := by
    cases listed : registry.books.get? symbol with
    | none => rfl
    | some ref =>
      obtain ⟨book, _, named⟩ := ok.registry_ok.registered symbol ref listed
      have present : isBlank book.symbol = false := book.config.symbol_present
      rw [named, blank] at present
      cases present
  -- No settings can be created for a blank symbol.
  have unnamed : ¬ isBlank symbol = false := by simp [blank]
  refine ⟨.valueError "symbol must not be blank", ?_⟩
  simp only [Registry.get, owns, not_true_eq_false, if_false, absent, BookConfig.create,
    dif_neg unnamed]

variable (clock) in
/-- Submitting an owned order is done in its symbol's book. -/
theorem MatcherOk.submit_spec (ok : MatcherOk settings registry) (order : Order)
    (owns : settings.owned.isOwnedSymbol order.symbol = true)
    (fresh : order.orderId ∉ registry.restingIds) :
    ∃ registry' reply calls book' gone expired,
      registry.submit settings.owned order clock.bookAt clock.restAt =
        .ok (registry', .ok reply) ∧
      (registry.bookOrNew settings order.symbol order.symbol_present).perform
        (.submit order clock.bookAt clock.restAt) = .ok (book', reply, calls) ∧
      Performed (registry.bookOrNew settings order.symbol order.symbol_present)
        (.submit order clock.bookAt clock.restAt) book' reply calls gone expired ∧
      Turned settings registry registry' order.symbol book' [order.orderId] := by
  obtain ⟨registry₁, ref, looked, turned₁, listed₁, found₁⟩ := ok.get_spec owns order.symbol_present
  -- The book was there or has been created, and the new order rests in neither.
  have fresh₁ : ∀ orderId ∈ (BookOp.submit order clock.bookAt clock.restAt).newIds,
      orderId ∉ registry₁.restingIds := by
    intro orderId new rests
    rw [List.mem_singleton.mp new] at rests
    exact fresh ((turned₁.resting _ rests).resolve_left List.not_mem_nil)
  obtain ⟨registry₂, reply, calls, book₂, gone, expired, ran, performed, done, turned₂, _, _⟩ :=
    turned₁.ok.call_spec listed₁ found₁ (.submit order clock.bookAt clock.restAt) fresh₁ (by simp)
  refine ⟨registry₂, reply, calls, book₂, gone, expired, ?_, performed, done, turned₁.trans turned₂⟩
  simp only [Registry.submit, looked, ran, Bind.bind, Except.bind, Pure.pure, Except.pure]

variable (clock) in
/-- Matching an owned order is done in its symbol's book. -/
theorem MatcherOk.placeOrder_spec (ok : MatcherOk settings registry) (order : Order)
    (owns : settings.owned.isOwnedSymbol order.symbol = true)
    (fresh : order.orderId ∉ registry.restingIds) :
    ∃ registry' book' response,
      registry.placeOrder settings clock order = .ok (registry', response) ∧
      (registry.bookOrNew settings order.symbol order.symbol_present).placeOrder clock order =
        .ok (book', response) ∧
      Turned settings registry registry' order.symbol book' [order.orderId] := by
  obtain ⟨registry₁, reply, calls, book₁, _, _, ran, performed, _, turned⟩ :=
    ok.submit_spec clock order owns fresh
  cases reply with
  | matched result =>
    -- The order was matched, and both depths are read from the book after it.
    obtain ⟨ref, listed, found⟩ := bookOf_eq_some_iff.mp turned.book_eq
    obtain ⟨registry₂, book₂, read, read', turned₂⟩ :=
      turned.ok.readDepths_spec clock listed found
    refine ⟨registry₂, book₂, ⟨201, .matchResult result⟩, ?_, ?_, turned.trans turned₂⟩
    · simp only [Registry.placeOrder, ran, read, Bind.bind, Except.bind, Pure.pure, Except.pure,
        Registry.answerWith]
    · simp only [OrderBook.placeOrder, performed, read', Bind.bind, Except.bind, Pure.pure,
        Except.pure]
  | _ =>
    -- No other reply belongs to a submit, and each would be answered alike.
    refine ⟨registry₁, book₁, serverError, ?_, ?_, turned⟩
    · simp only [Registry.placeOrder, ran, Bind.bind, Except.bind, Pure.pure, Except.pure]
    · simp only [OrderBook.placeOrder, performed, Bind.bind, Except.bind, Pure.pure, Except.pure]

/-- A cancel returns the resting order it names, or finds that there is none any more. -/
theorem Performed.cancel_cases {book' : OrderBook} {orderId : UUID} {now : ℚ} {reply : BookReply}
    {calls : List Callback} {gone : List Rested} {expired : PlainBook}
    (done : Performed book (.cancel orderId now) book' reply calls gone expired) :
    reply = .raised (.orderNotFound orderId) ∨
      ∃ rested ∈ book.plain.allResting, rested.order.orderId = orderId ∧
        reply = .canceled rested.asOpenOrder := by
  have answered := done.reply_eq
  simp only [PlainBook.act, PlainBook.takeOut] at answered
  cases found : expired.find? orderId with
  | none =>
    -- The order is not in the book, or has just expired.
    rw [found] at answered
    exact .inl answered
  | some rested =>
    rw [found] at answered
    -- What is left after expiry was at rest before.
    obtain ⟨side, inside⟩ := PlainBook.mem_allResting.mp (List.mem_of_find?_eq_some found)
    have member := PlainBook.mem_allResting.mpr ⟨side, done.expired_sub inside⟩
    exact .inr ⟨rested, member, of_decide_eq_true (List.find?_some found :), answered⟩

variable (clock) in
/-- A cancel is done in the book that holds the order, and changes nothing when no book does. -/
theorem MatcherOk.takeOrder_spec (ok : MatcherOk settings registry) (orderId : UUID) :
    (registry.orderSymbols.get? orderId = none ∧
      registry.takeOrder settings clock orderId = .ok (registry, alreadyClosed orderId)) ∨
    ∃ symbol book registry' book' response, registry.bookOf symbol = some book ∧
      orderId ∈ book.plain.ids ∧
      registry.takeOrder settings clock orderId = .ok (registry', response) ∧
      book.takeOrder clock orderId = .ok (book', response) ∧
      Turned settings registry registry' symbol book' [] := by
  cases mapped : registry.orderSymbols.get? orderId with
  | none =>
    -- The map does not know the order, and no book is asked.
    refine .inl ⟨rfl, ?_⟩
    simp only [Registry.takeOrder, Registry.cancel, mapped, Bind.bind, Except.bind, Pure.pure,
      Except.pure, alreadyClosed]
  | some symbol =>
    obtain ⟨book, registry₁, reply, calls, book₁, _, _, here, member, ran, performed, done, turned⟩ :=
      ok.cancel_spec mapped clock.bookAt
    refine .inr ⟨symbol, book, ?_⟩
    rcases done.cancel_cases with rfl | ⟨rested, rests, _, rfl⟩
    · -- The order had expired, and no depth is read.
      refine ⟨registry₁, book₁, alreadyClosed orderId, here, member, ?_, ?_, turned⟩
      · simp only [Registry.takeOrder, ran, Bind.bind, Except.bind, Pure.pure, Except.pure,
          alreadyClosed]
      · simp only [OrderBook.takeOrder, performed, Bind.bind, Except.bind, Pure.pure, Except.pure]
    · -- The depths read afterwards are those of the order's own symbol.
      have own : rested.asOpenOrder.order.symbol = symbol := (ok.book_ok here).2.2 rested rests
      obtain ⟨ref, listed, found⟩ := bookOf_eq_some_iff.mp turned.book_eq
      obtain ⟨registry₂, book₂, read, read', turned₂⟩ :=
        turned.ok.readDepths_spec clock listed found
      refine ⟨registry₂, book₂, canceledAnswer rested.asOpenOrder, here, member, ?_, ?_,
        turned.trans turned₂⟩
      · simp only [Registry.takeOrder, ran, own, read, Bind.bind, Except.bind, Pure.pure,
          Except.pure, Registry.answerWith, canceledAnswer]
      · simp only [OrderBook.takeOrder, performed, read', Bind.bind, Except.bind, Pure.pure,
          Except.pure]

/-- Reading an owned symbol is done in its book, and any other symbol is not found. -/
theorem MatcherOk.look_spec (ok : MatcherOk settings registry) (symbol : String) {op : BookOp}
    (answer : BookReply → Response) (brings_none : op.newIds = [])
    (uncanceled : ∀ orderId now, op ≠ .cancel orderId now) :
    (settings.owned.isOwnedSymbol symbol = false ∧
      registry.readBook settings symbol op answer = .ok (registry, symbolNotFound)) ∨
    (isBlank symbol = true ∧
      registry.readBook settings symbol op answer = .ok (registry, serverError)) ∨
    ∃ (named : isBlank symbol = false) (registry' : Registry) (book' : OrderBook)
      (response : Response), settings.owned.isOwnedSymbol symbol = true ∧
      registry.readBook settings symbol op answer = .ok (registry', response) ∧
      (registry.bookOrNew settings symbol named).look op answer = .ok (book', response) ∧
      Turned settings registry registry' symbol book' [] := by
  cases owns : settings.owned.isOwnedSymbol symbol with
  | false =>
    refine .inl ⟨rfl, ?_⟩
    -- The registry finds no book for a symbol that it does not own.
    simp only [Registry.readBook, get_foreign registry owns, Pure.pure, Except.pure, symbolNotFound]
  | true =>
    refine .inr ?_
    by_cases named : isBlank symbol = false
    case neg =>
      rw [Bool.not_eq_false] at named
      obtain ⟨error, looked⟩ := ok.get_blank owns named
      refine .inl ⟨named, ?_⟩
      simp only [Registry.readBook, looked, Pure.pure, Except.pure]
    case pos =>
      obtain ⟨registry₁, ref, looked, turned₁, listed₁, found₁⟩ := ok.get_spec owns named
      -- The read brings no order in, and takes none out by name.
      obtain ⟨registry₂, reply, calls, book₂, _, _, ran, performed, _, turned₂, _, _⟩ :=
        turned₁.ok.call_spec listed₁ found₁ op (by simp [brings_none]) uncanceled
      have turned := turned₁.trans turned₂
      rw [List.nil_append, brings_none] at turned
      refine .inr ⟨named, registry₂, book₂, answer reply, rfl, ?_, ?_, turned⟩
      · simp only [Registry.readBook, looked, ran, Bind.bind, Except.bind, Pure.pure, Except.pure]
      · simp only [OrderBook.look, performed, Bind.bind, Except.bind, Pure.pure, Except.pure]

end Desk

/-- The ways in which a settled request is carried out, on one symbol's book or on none. -/
inductive Carried (settings : MatcherSettings) (clock : Readings) (registry : Registry) :
    Task → Registry → Response → Prop where
  | refused (response : Response) : Carried settings clock registry (.refuse response) registry response
  | placed {order : Order} {registry' : Registry} {book' : OrderBook} {response : Response}
      (owns : settings.owned.isOwnedSymbol order.symbol = true)
      (ran : (registry.bookOrNew settings order.symbol order.symbol_present).placeOrder clock order =
        .ok (book', response))
      (turned : Turned settings registry registry' order.symbol book' [order.orderId]) :
      Carried settings clock registry (.place order) registry' response
  | closed {orderId : UUID} (absent : registry.orderSymbols.get? orderId = none) :
      Carried settings clock registry (.take orderId) registry (alreadyClosed orderId)
  | taken {orderId : UUID} {symbol : String} {book : OrderBook} {registry' : Registry}
      {book' : OrderBook} {response : Response} (here : registry.bookOf symbol = some book)
      (member : orderId ∈ book.plain.ids) (ran : book.takeOrder clock orderId = .ok (book', response))
      (turned : Turned settings registry registry' symbol book' []) :
      Carried settings clock registry (.take orderId) registry' response
  | foreign {symbol : String} {op : BookOp} {answer : BookReply → Response}
      (disowned : settings.owned.isOwnedSymbol symbol = false) :
      Carried settings clock registry (.look symbol op answer) registry symbolNotFound
  | unnamed {symbol : String} {op : BookOp} {answer : BookReply → Response}
      (blank : isBlank symbol = true) :
      Carried settings clock registry (.look symbol op answer) registry serverError
  | looked {symbol : String} {op : BookOp} {answer : BookReply → Response} {registry' : Registry}
      {book' : OrderBook} {response : Response} (named : isBlank symbol = false)
      (owns : settings.owned.isOwnedSymbol symbol = true)
      (ran : (registry.bookOrNew settings symbol named).look op answer = .ok (book', response))
      (turned : Turned settings registry registry' symbol book' []) :
      Carried settings clock registry (.look symbol op answer) registry' response

section Requests

variable {settings : MatcherSettings} {registry registry' : Registry} {clock : Readings}
  {request : Request} {task : Task} {response : Response}

/-- An order is placed only where its symbol is owned, and under its new identifier. -/
theorem task_place {order : Order} (settled : request.task settings clock = .place order) :
    settings.owned.isOwnedSymbol order.symbol = true ∧ request.newIds = [order.orderId] := by
  cases request with
  -- Creating an order passes three checks before the order is placed.
  | createOrder data orderId =>
    simp only [Request.task] at settled
    cases created : data.createOrder orderId with
    | error response => rw [created] at settled; cases settled
    | ok order' =>
      rw [created] at settled
      simp only at settled
      split at settled
      · cases settled
      · split at settled
        · cases settled
        · -- Both checks on the symbol have been passed.
          rename_i owns
          cases settled
          refine ⟨not_not.mp owns, ?_⟩
          rw [Request.newIds, (createOrder_eq created).1]
  | cancelOrder orderId symbol =>
    -- A cancel is refused or settles to taking the order out.
    simp only [Request.task] at settled
    split at settled
    · cases settled
    · split at settled <;> cases settled
  | bookDetail symbol => cases settled
  | recentTradeList symbol limit =>
    simp only [Request.task] at settled
    split at settled <;> cases settled

/-- A read introduces no identifier and cancels nothing. -/
theorem task_look {symbol : String} {op : BookOp} {answer : BookReply → Response}
    (settled : request.task settings clock = .look symbol op answer) :
    op.newIds = [] ∧ ∀ orderId now, op ≠ .cancel orderId now := by
  cases request with
  -- Creating an order never settles to a read.
  | createOrder data orderId =>
    simp only [Request.task] at settled
    split at settled
    · cases settled
    · split at settled
      · cases settled
      · split at settled <;> cases settled
  | cancelOrder orderId symbol =>
    simp only [Request.task] at settled
    split at settled
    · cases settled
    · split at settled <;> cases settled
  | bookDetail symbol =>
    cases settled
    exact ⟨rfl, fun _ _ same => by cases same⟩
  -- A tape is read only with a valid symbol and limit.
  | recentTradeList symbol limit =>
    simp only [Request.task] at settled
    split at settled
    · cases settled
      exact ⟨rfl, fun _ _ same => by cases same⟩
    · cases settled

variable (clock) in
/-- Every settled request with a new identifier is carried out without a fault. -/
theorem MatcherOk.carryOut_spec (ok : MatcherOk settings registry) (request : Request)
    (fresh : ∀ orderId ∈ request.newIds, orderId ∉ registry.restingIds) :
    ∃ registry' response, registry.carryOut settings clock (request.task settings clock) =
        .ok (registry', response) ∧
      Carried settings clock registry (request.task settings clock) registry' response := by
  cases settled : request.task settings clock with
  | refuse response => exact ⟨registry, response, rfl, .refused response⟩
  | place order =>
    -- The order's symbol is owned, and its identifier is new.
    obtain ⟨owns, new⟩ := task_place settled
    obtain ⟨registry', book', response, ran, placed, turned⟩ := ok.placeOrder_spec clock order
      owns (fresh order.orderId (new ▸ List.mem_singleton_self _))
    exact ⟨registry', response, ran, .placed owns placed turned⟩
  | take orderId =>
    -- A book is asked only if the map knows the order.
    rcases ok.takeOrder_spec clock orderId with
      ⟨absent, ran⟩ | ⟨symbol, book, registry', book', response, here, member, ran, took, turned⟩
    · exact ⟨registry, _, ran, .closed absent⟩
    · exact ⟨registry', response, ran, .taken here member took turned⟩
  | look symbol op answer =>
    obtain ⟨brings_none, uncanceled⟩ := task_look settled
    rcases ok.look_spec symbol answer brings_none uncanceled with
      ⟨disowned, ran⟩ | ⟨blank, ran⟩ | ⟨named, registry', book', response, owns, ran, saw, turned⟩
    · exact ⟨registry, _, ran, .foreign disowned⟩
    · exact ⟨registry, _, ran, .unnamed blank⟩
    · exact ⟨registry', response, ran, .looked named owns saw turned⟩

/-- The identifier that a settled request introduces, if any. -/
def Task.newIds : Task → List UUID
  | .place order => [order.orderId]
  | _ => []

/-- Carrying a request out keeps the matcher in order. -/
theorem Carried.ok (carried : Carried settings clock registry task registry' response)
    (ok : MatcherOk settings registry) : MatcherOk settings registry' := by
  -- Only these tasks work on a book, and they keep the matcher in order.
  cases carried with
  | placed _ _ turned | taken _ _ _ turned | looked _ _ _ turned => exact turned.ok
  | refused | closed | foreign | unnamed => exact ok

/-- Carrying a request out brings in no order but the one it places. -/
theorem Carried.resting (carried : Carried settings clock registry task registry' response)
    {orderId : UUID} (member : orderId ∈ registry'.restingIds) :
    orderId ∈ task.newIds ∨ orderId ∈ registry.restingIds := by
  cases carried with
  | placed _ _ turned => exact turned.resting orderId member
  -- A cancel or a read brings nothing in.
  | taken _ _ _ turned | looked _ _ _ turned =>
    exact .inr ((turned.resting orderId member).resolve_left List.not_mem_nil)
  | refused | closed | foreign | unnamed => exact .inr member

/-- A settled request introduces no identifier but those of the request. -/
theorem task_newIds {orderId : UUID} (new : orderId ∈ (request.task settings clock).newIds) :
    orderId ∈ request.newIds := by
  cases settled : request.task settings clock with
  -- Only placing an order introduces an identifier.
  | place order =>
    rw [settled] at new
    rw [(task_place settled).2]
    exact new
  | refuse | take | look =>
    rw [settled] at new
    exact absurd new List.not_mem_nil

/-- Starting a session keeps every book object, and either every registration or none. -/
theorem rolloverMarketSession_cases (registry : Registry) (settings : MatcherSettings)
    (now : Instant) :
    (registry.rolloverMarketSession settings now).objects = registry.objects ∧
      (((registry.rolloverMarketSession settings now).books = registry.books ∧
          (registry.rolloverMarketSession settings now).orderSymbols = registry.orderSymbols) ∨
        ((registry.rolloverMarketSession settings now).books = .empty ∧
          (registry.rolloverMarketSession settings now).orderSymbols = .empty)) := by
  unfold Registry.rolloverMarketSession
  -- A market that never closes starts no session.
  split
  · exact ⟨rfl, .inl ⟨rfl, rfl⟩⟩
  · rcases rollover_cases registry (sessionDate settings.mode now) with ⟨date, same⟩ | ⟨date, same⟩
    · rw [same]
      exact ⟨rfl, .inl ⟨rfl, rfl⟩⟩
    · rw [same]
      exact ⟨rfl, .inr ⟨rfl, rfl⟩⟩

/-- Starting a session keeps the matcher in order. -/
theorem MatcherOk.rolled (ok : MatcherOk settings registry) (now : Instant) :
    MatcherOk settings (registry.rolloverMarketSession settings now) := by
  obtain ⟨objects, ⟨books, symbols⟩ | ⟨books, symbols⟩⟩ :=
    rolloverMarketSession_cases registry settings now
  · -- The books and the map are what they were.
    have holds := holds_congr objects books
    refine ⟨ok.registry_ok.withBooks objects fun _ _ => books ▸ id, ⟨?_, ?_⟩, books ▸ ok.owned_books⟩
    · intro symbol orderId held
      rw [symbols]
      exact ok.tracks.tracked symbol orderId ((holds symbol orderId).mp held)
    · intro orderId symbol mapped
      rw [symbols] at mapped
      exact (ok.tracks.held orderId symbol mapped).imp_left (holds symbol orderId).mpr
  · -- Nothing is registered, and nothing is in the map.
    refine ⟨ok.registry_ok.withBooks objects ?_, ⟨?_, ?_⟩, ?_⟩
    · intro symbol ref listed
      rw [books] at listed
      cases listed
    · rintro symbol orderId ⟨ref, book, listed, _⟩
      rw [books] at listed
      cases listed
    · intro orderId symbol mapped
      rw [symbols] at mapped
      cases mapped
    · intro symbol ref listed
      rw [books] at listed
      cases listed

/-- Starting a session forgets no book object. -/
theorem rolled_restingIds (registry : Registry) (settings : MatcherSettings) (now : Instant) :
    (registry.rolloverMarketSession settings now).restingIds = registry.restingIds := by
  rw [Registry.restingIds, (rolloverMarketSession_cases registry settings now).1]
  rfl

/-- Starting a session keeps a symbol's book or unregisters it. -/
theorem bookOf_rolled (registry : Registry) (settings : MatcherSettings) (now : Instant)
    (symbol : String) :
    (registry.rolloverMarketSession settings now).bookOf symbol = registry.bookOf symbol ∨
      (registry.rolloverMarketSession settings now).bookOf symbol = none := by
  -- The objects are kept, so only the registrations decide.
  obtain ⟨objects, ⟨books, _⟩ | ⟨books, _⟩⟩ := rolloverMarketSession_cases registry settings now
  · rw [Registry.bookOf, Registry.bookOf, objects, books]
    exact .inl rfl
  · rw [Registry.bookOf, books]
    exact .inr rfl

/-- A request with a new identifier is refused by a closed market or carried out in the session. -/
theorem MatcherOk.handle_spec (ok : MatcherOk settings registry) (clock : Readings)
    (request : Request) (fresh : ∀ orderId ∈ request.newIds, orderId ∉ registry.restingIds) :
    ∃ registry' response, registry.handle settings clock request = .ok (registry', response) ∧
      ((request.isOrder = true ∧ ¬ isOpen settings.mode clock.openAt ∧ registry' = registry ∧
          response = marketClosed) ∨
        (¬ (request.isOrder = true ∧ ¬ isOpen settings.mode clock.openAt) ∧
          Carried settings clock (registry.rolloverMarketSession settings clock.sessionAt)
            (request.task settings clock) registry' response)) := by
  rw [handle_eq]
  -- The market is closed for an order, and nothing happens.
  by_cases closed : request.isOrder = true ∧ ¬ isOpen settings.mode clock.openAt
  · rw [if_pos closed]
    exact ⟨registry, marketClosed, rfl, .inl ⟨closed.1, closed.2, rfl, rfl⟩⟩
  · -- The session starts first, and the request is carried out after it.
    rw [if_neg closed]
    obtain ⟨registry', response, ran, carried⟩ := (ok.rolled clock.sessionAt).carryOut_spec
      clock request (by rw [rolled_restingIds]; exact fresh)
    exact ⟨registry', response, ran, .inr ⟨closed, carried⟩⟩

/-- A request with a new identifier keeps the matcher in order and brings in no other order. -/
theorem MatcherOk.handled (ok : MatcherOk settings registry) (clock : Readings)
    (request : Request) (fresh : ∀ orderId ∈ request.newIds, orderId ∉ registry.restingIds) :
    ∃ registry' response, registry.handle settings clock request = .ok (registry', response) ∧
      MatcherOk settings registry' ∧ ∀ orderId ∈ registry'.restingIds,
        orderId ∈ request.newIds ∨ orderId ∈ registry.restingIds := by
  obtain ⟨registry', response, ran, ⟨_, _, rfl, _⟩ | ⟨_, carried⟩⟩ := ok.handle_spec clock request fresh
  · -- A request that is refused leaves the matcher alone.
    exact ⟨_, response, ran, ok, fun _ => .inr⟩
  · refine ⟨registry', response, ran, carried.ok (ok.rolled clock.sessionAt), fun orderId member => ?_⟩
    have origin := carried.resting member
    rw [rolled_restingIds] at origin
    exact origin.imp_left task_newIds

/-- A matcher starts in order. -/
theorem MatcherOk.new (settings : MatcherSettings) : MatcherOk settings .new := by
  refine ⟨⟨?_, ?_, ?_, List.nodup_nil⟩, ⟨?_, ?_⟩, ?_⟩
  · -- There are no books, no entries, and no registrations.
    exact fun book member => absurd member List.not_mem_nil
  · exact fun book member => absurd member List.not_mem_nil
  · exact fun symbol ref listed => by cases listed
  · rintro symbol orderId ⟨ref, book, listed, _⟩
    cases listed
  · exact fun orderId symbol mapped => by cases mapped
  · exact fun symbol ref listed => by cases listed

end Requests

/-- An identifier comes with a request or is at rest in a book. -/
def OrderBook.Knows (book : OrderBook) (newcomers : List UUID) (orderId : UUID) : Prop :=
  orderId ∈ newcomers ∨ orderId ∈ book.plain.ids

/-- A book gains no order but newcomers, and records only trades between orders it knows. -/
structure Evolved (book book' : OrderBook) (newcomers : List UUID) : Prop where
  ok : BookOk book'
  config_eq : book'.config = book.config
  ids : ∀ orderId ∈ book'.plain.ids, book.Knows newcomers orderId
  tape : ∀ trade ∈ book'.recentTrades, trade ∈ book.recentTrades ∨
    ∀ orderId, trade.names orderId = true → book.Knows newcomers orderId

section Evolution

variable {book book' book'' : OrderBook} {op : BookOp} {reply : BookReply} {calls : List Callback}
  {gone : List Rested} {expired : PlainBook} {clock : Readings} {response : Response}

/-- One change after another is a change. -/
theorem Evolved.trans {first second : List UUID} (evolved : Evolved book book' first)
    (again : Evolved book' book'' second) : Evolved book book'' (first ++ second) := by
  -- What the second change knows came with it or was known to the first.
  have knows : ∀ orderId, book'.Knows second orderId → book.Knows (first ++ second) orderId := by
    rintro orderId (new | rests)
    · exact .inl (List.mem_append_right _ new)
    · exact (evolved.ids orderId rests).imp_left (List.mem_append_left _)
  refine ⟨again.ok, again.config_eq.trans evolved.config_eq, ?_, ?_⟩
  · exact fun orderId member => knows orderId (again.ids orderId member)
  · intro trade kept
    rcases again.tape trade kept with before | paired
    · rcases evolved.tape trade before with old | paired
      · exact .inl old
      · exact .inr fun orderId named => (paired orderId named).imp_left (List.mem_append_left _)
    · exact .inr fun orderId named => knows orderId (paired orderId named)

/-- An operation adds to the tape only the executions it reports. -/
theorem act_tape {plain : PlainBook} {trade : Trade} (kept : trade ∈ (plain.act op).1.tape) :
    trade ∈ plain.tape ∨ trade ∈ (plain.act op).2.executions := by
  cases op with
  | submit order now restAt =>
    -- A trade on the tape was there before, or is one of this submit.
    by_cases own : order.symbol = plain.config.symbol
    · rw [act_submit_own own] at kept ⊢
      exact List.mem_append.mp (List.mem_of_mem_drop kept)
    · rw [act_submit_foreign own] at kept
      exact .inl kept
  | cancel orderId now =>
    simp only [PlainBook.act, PlainBook.takeOut] at kept
    split at kept <;> exact .inl kept
  | getOpenOrder | openOrders | snapshot | totalQuantity | bestPrice | recentTrades =>
    exact .inl kept

/-- Every execution is between a submitted order and one at rest. -/
theorem act_executions {plain : PlainBook} {trade : Trade}
    (traded : trade ∈ (plain.act op).2.executions) : ∀ orderId, trade.names orderId = true →
      orderId ∈ op.newIds ∨ orderId ∈ plain.ids := by
  cases op with
  | submit order now restAt =>
    by_cases own : order.symbol = plain.config.symbol
    · rw [act_submit_own own] at traded
      -- The maker of an execution stood within reach, and so it was at rest.
      obtain ⟨fill, filled, rfl⟩ := List.mem_map.mp traded
      have reached := (List.takeWhile_sublist _).subset (consume_fill_mem filled)
      have rests := PlainBook.mem_allResting.mpr ⟨_, reached⟩
      intro orderId named
      rw [tradeAgainst_names, decide_eq_true_eq] at named
      rcases named with rfl | rfl
      · exact .inl (List.mem_singleton_self _)
      · exact .inr (List.mem_map_of_mem rests)
    · rw [act_submit_foreign own] at traded
      exact absurd traded List.not_mem_nil
  -- Nothing is traded by any other operation.
  | cancel orderId now =>
    simp only [PlainBook.act, PlainBook.takeOut] at traded
    split at traded <;> exact absurd traded List.not_mem_nil
  | recentTrades limit =>
    simp only [PlainBook.act] at traded
    split at traded <;> exact absurd traded List.not_mem_nil
  | getOpenOrder | openOrders | snapshot | totalQuantity | bestPrice =>
    exact absurd traded List.not_mem_nil

/-- The executions of an operation are between its order and orders at rest before it. -/
theorem Performed.executions (done : Performed book op book' reply calls gone expired)
    {trade : Trade} (traded : trade ∈ reply.executions) (orderId : UUID)
    (named : trade.names orderId = true) : book.Knows op.newIds orderId := by
  rw [done.reply_eq] at traded
  refine (act_executions traded orderId named).imp_right fun member => ?_
  -- What is at rest after expiry was at rest before it.
  obtain ⟨rested, inside, rfl⟩ := List.mem_map.mp member
  obtain ⟨side, inside⟩ := PlainBook.mem_allResting.mp inside
  exact List.mem_map_of_mem (PlainBook.mem_allResting.mpr ⟨side, done.expired_sub inside⟩)

/-- Every operation is a change of its book. -/
theorem Performed.evolved (done : Performed book op book' reply calls gone expired) :
    Evolved book book' op.newIds := by
  refine ⟨done.ok, done.config_eq, fun orderId member => ?_, fun trade kept => ?_⟩
  · obtain ⟨rested, inside, rfl⟩ := List.mem_map.mp member
    obtain ⟨side, inside⟩ := PlainBook.mem_allResting.mp inside
    -- An order at rest stems from one that was there, or is the newcomer.
    rcases done.origin inside with ⟨before, was, stems⟩ | newcomer
    · rw [stems.order_eq]
      exact .inr (List.mem_map_of_mem (PlainBook.mem_allResting.mpr ⟨side, was⟩))
    · obtain ⟨now, restAt, submitted, _, _⟩ := newcomer.submitted
      exact .inl (submitted ▸ List.mem_singleton_self _)
  · -- A trade on the tape is an old one, or was made by the operation.
    have kept' : trade ∈ book'.plain.tape := kept
    rw [done.plain_eq] at kept'
    rcases act_tape kept' with old | traded
    · rw [done.expired_eq.2.2] at old
      exact .inl old
    · rw [← done.reply_eq] at traded
      exact .inr (done.executions traded)

/-- Reading the depths brings nothing into a book. -/
theorem readDepths_evolved (ok : BookOk book) (ran : book.readDepths clock = .ok book') :
    Evolved book book' [] := by
  -- Both reads succeed, and each is one operation.
  obtain ⟨book₁, reply₁, calls₁, _, _, ran₁, done₁⟩ :=
    perform_spec ok (.totalQuantity .buy clock.buyDepthAt) (by simp [BookOp.newIds])
  obtain ⟨book₂, reply₂, calls₂, _, _, ran₂, done₂⟩ :=
    perform_spec done₁.ok (.totalQuantity .sell clock.sellDepthAt) (by simp [BookOp.newIds])
  simp only [OrderBook.readDepths, ran₁, ran₂, Bind.bind, Except.bind, Pure.pure, Except.pure] at ran
  cases ran
  exact done₁.evolved.trans done₂.evolved

/-- Placing an order of the book's own symbol is answered with executions between known orders. -/
theorem placeOrder_evolved (ok : BookOk book) {order : Order} (own : order.symbol = book.symbol)
    (fresh : order.orderId ∉ book.plain.ids)
    (ran : book.placeOrder clock order = .ok (book', response)) :
    Evolved book book' [order.orderId] ∧ ∃ result, response = ⟨201, .matchResult result⟩ ∧
      ∀ trade ∈ result.trades, ∀ orderId, trade.names orderId = true →
        book.Knows [order.orderId] orderId := by
  have unindexed : ∀ orderId ∈ (BookOp.submit order clock.bookAt clock.restAt).newIds,
      book.index.get? orderId = none := by
    intro orderId new
    rw [List.mem_singleton.mp new]
    exact (unindexed_iff_ids ok).mpr fresh
  -- The order is for the book's own symbol, so the reply is a match.
  obtain ⟨book₁, reply, calls, gone, expired, ran₁, done⟩ := perform_spec ok _ unindexed
  have matched := done.reply_eq
  rw [act_submit_own (own.trans (congrArg BookConfig.symbol done.expired_eq.1).symm)] at matched
  rw [matched] at ran₁
  simp only [OrderBook.placeOrder, ran₁, Bind.bind, Except.bind, Pure.pure, Except.pure] at ran
  cases read : book₁.readDepths clock with
  | error fault => rw [read] at ran; cases ran
  | ok book₂ =>
    rw [read] at ran
    cases ran
    refine ⟨done.evolved.trans (readDepths_evolved done.ok read), _, rfl, ?_⟩
    intro trade traded
    refine done.executions ?_
    rw [matched]
    exact traded

/-- A cancel leaves its order nowhere in the book, and says what was left unless it had expired. -/
theorem takeOrder_evolved (ok : BookOk book) {orderId : UUID}
    (ran : book.takeOrder clock orderId = .ok (book', response)) :
    Evolved book book' [] ∧ orderId ∉ book'.plain.ids ∧ (response = alreadyClosed orderId ∨
      ∃ rested ∈ book.plain.allResting, rested.order.orderId = orderId ∧
        response = canceledAnswer rested.asOpenOrder) := by
  obtain ⟨book₁, reply, calls, gone, expired, ran₁, done⟩ :=
    perform_spec ok (.cancel orderId clock.bookAt) (by simp [BookOp.newIds])
  -- The cancel has taken the order out, and nothing brings it back.
  have absent : orderId ∉ book₁.plain.ids := canceled_absent done
  rcases done.cancel_cases with rfl | ⟨rested, rests, named, rfl⟩
  · simp only [OrderBook.takeOrder, ran₁, Bind.bind, Except.bind, Pure.pure, Except.pure] at ran
    cases ran
    exact ⟨done.evolved, absent, .inl rfl⟩
  · simp only [OrderBook.takeOrder, ran₁, Bind.bind, Except.bind, Pure.pure, Except.pure] at ran
    cases read : book₁.readDepths clock with
    | error fault => rw [read] at ran; cases ran
    | ok book₂ =>
      rw [read] at ran
      cases ran
      have evolved := readDepths_evolved done.ok read
      refine ⟨done.evolved.trans evolved, fun still => ?_, .inr ⟨rested, rests, named, rfl⟩⟩
      exact absent ((evolved.ids orderId still).resolve_left List.not_mem_nil)

/-- A read brings nothing into a book. -/
theorem look_evolved (ok : BookOk book) {answer : BookReply → Response} (brings_none : op.newIds = [])
    (ran : book.look op answer = .ok (book', response)) : Evolved book book' [] := by
  -- A read performs an operation, and drops what comes of it.
  obtain ⟨book₁, reply, calls, gone, expired, ran₁, done⟩ :=
    perform_spec ok op (by simp [brings_none])
  simp only [OrderBook.look, ran₁, Bind.bind, Except.bind, Pure.pure, Except.pure] at ran
  cases ran
  exact brings_none ▸ done.evolved

end Evolution

section Taking

variable {matcher : MatcherSettings} {clock : Readings} {registry registry' : Registry}
  {orderId : UUID} {response : Response}

/-- After a cancel no book of the matcher holds the order. -/
theorem take_absent (ok : MatcherOk matcher registry)
    (carried : Carried matcher clock registry (.take orderId) registry' response)
    {symbol : String} {book : OrderBook} (here : registry'.bookOf symbol = some book) :
    orderId ∉ book.plain.ids := by
  intro member
  cases carried with
  -- The map did not know the order, so no book held it.
  | closed absent =>
    have mapped := ok.mapped_iff.mpr ⟨book, here, member⟩
    rw [absent] at mapped
    cases mapped
  | @taken _ own held _ held' _ at_own rests ran turned =>
    -- The book that held the order has just given it away.
    by_cases same : symbol = own
    · rw [same, turned.book_eq] at here
      cases here
      exact (takeOrder_evolved (ok.book_ok at_own).1 ran).2.1 member
    · -- Two books of the matcher would have held the order.
      rw [turned.others symbol same] at here
      have mapped := ok.mapped_iff.mpr ⟨book, here, member⟩
      have mapped' := ok.mapped_iff.mpr ⟨held, at_own, rests⟩
      rw [mapped] at mapped'
      exact same (Option.some.inj mapped')

/-- A cancel finds nothing, or it finds the order at rest and says what is left of it. -/
theorem take_answer (ok : MatcherOk matcher registry)
    (carried : Carried matcher clock registry (.take orderId) registry' response) :
    response = alreadyClosed orderId ∨ ∃ symbol book, registry.bookOf symbol = some book ∧
      ∃ rested ∈ book.plain.allResting, rested.order.orderId = orderId ∧
        response = canceledAnswer rested.asOpenOrder := by
  cases carried with
  -- The map does not know the order.
  | closed absent => exact .inl rfl
  | @taken _ own held _ held' _ at_own rests ran turned =>
    exact (takeOrder_evolved (ok.book_ok at_own).1 ran).2.2.imp_right
      fun found => ⟨own, held, at_own, found⟩

/-- An order that no book of the matcher holds is reported as closed. -/
theorem take_unheld (carried : Carried matcher clock registry (.take orderId) registry' response)
    (unheld : ∀ symbol book, registry.bookOf symbol = some book → orderId ∉ book.plain.ids) :
    response = alreadyClosed orderId := by
  cases carried with
  | closed absent => rfl
  | taken at_own rests _ _ => exact absurd rests (unheld _ _ at_own)

end Taking

end StockMarket
