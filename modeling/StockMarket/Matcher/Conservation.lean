import StockMarket.Matcher.InterleavingLaws

/-! Quantity is conserved, order by order, in every interleaving of calls on one registry. -/

namespace StockMarket

/-- Everything at rest in the books of a registry. -/
def Registry.resting (registry : Registry) : List Rested :=
  registry.objects.flatMap fun book => book.plain.allResting

/-- The book registered for a symbol. -/
def Registry.bookOf (registry : Registry) (symbol : String) : Option OrderBook :=
  (registry.books.get? symbol).bind fun ref => registry.objects[ref]?

/-- The remaining quantity of an order in the book registered for its symbol. -/
def Registry.remainingOf (registry : Registry) (order : Order) : Int :=
  ((registry.bookOf order.symbol).map (·.remainingOf order.orderId)).getD 0

/-- The quantity that returned submits have brought in under an identifier. -/
def submittedQuantity (orderId : UUID) (events : List Event) : Int :=
  ((matchesOf events).map fun found =>
    if found.1.orderId = orderId then found.1.quantity else 0).sum

/-- The quantity that cancels have returned for an order. -/
def canceledQuantity (orderId : UUID) (events : List Event) : Int :=
  ((cancelsOf events).map fun taken =>
    if taken.order.orderId = orderId then taken.remainingQuantity else 0).sum

/-- The quantity that an order had left when it expired. -/
def expiredQuantity (orderId : UUID) (events : List Event) : Int :=
  ((expiriesOf events).map fun gone => if gone.1 = orderId then gone.2 else 0).sum

/-- Only orders whose submits have returned with something left have come to rest. -/
def leftToRest (events : List Event) : List UUID :=
  ((matchesOf events).filter fun found => found.2.remainingQuantity ≠ 0).map
    fun found => found.1.orderId

/--
A trade is for at least one unit, between a buyer and a seller of its symbol whose submits returned.
-/
structure WellPaired (events : List Event) (trade : Trade) : Prop where
  quantity_pos : 1 ≤ trade.quantity
  buyer : ∃ found ∈ matchesOf events, found.1.orderId = trade.buyOrderId ∧ found.1.side = .buy ∧
    found.1.symbol = trade.symbol
  seller : ∃ found ∈ matchesOf events, found.1.orderId = trade.sellOrderId ∧ found.1.side = .sell ∧
    found.1.symbol = trade.symbol

/-- The record and the books account for every unit and every order. -/
structure Ledger (past : List Event) (system : System) : Prop where
  balance : ∀ orderId, submittedQuantity orderId past = tradedOf orderId (tradesOf past) +
    heldOf orderId system.registry.resting + canceledQuantity orderId past +
    expiredQuantity orderId past
  whereabouts : (restsOf past).Perm (fillsOf past ++ (cancelsOf past).map (·.order.orderId) ++
    (expiriesOf past).map Prod.fst ++ system.registry.restingIds)
  rests_eq : restsOf past = leftToRest past
  submitted_once : (submittedIds past).Nodup
  resting_submitted : ∀ rested ∈ system.registry.resting,
    ∃ found ∈ matchesOf past, found.1 = rested.order
  paired : ∀ trade ∈ tradesOf past, WellPaired past trade
  registered : ∀ (ref : Nat) (book : OrderBook), system.registry.objects[ref]? = some book →
    system.registry.books.get? book.symbol = some ref

section Books

variable {book book' : OrderBook} {op : BookOp} {reply : BookReply} {calls : List Callback}
  {gone : List Rested} {expired : PlainBook}

/-- The open order behind an identifier is that of the plain book. -/
theorem openOrder?_eq (ok : BookOk book) (orderId : UUID) :
    book.openOrder? orderId = (book.plain.find? orderId).map (·.asOpenOrder) := by
  rw [find?_plain ok.core, Option.map_map]
  rfl

/-- An order holds in its book what the book reports as remaining. -/
theorem heldOf_allResting (ok : BookOk book) (orderId : UUID) :
    heldOf orderId book.plain.allResting = book.remainingOf orderId := by
  rw [OrderBook.remainingOf, openOrder?_eq ok]
  cases found : book.plain.find? orderId with
  | none =>
    refine heldOf_eq_zero fun rested member => ?_
    simpa using List.find?_eq_none.mp found rested member
  | some rested =>
    -- Everything else at rest has another identifier.
    have named : rested.order.orderId = orderId := of_decide_eq_true (List.find?_some found :)
    have others : heldOf orderId (book.plain.takeOut orderId).1.allResting = 0 := by
      refine heldOf_eq_zero fun other member => ?_
      simp only [PlainBook.takeOut, found, keep_allResting] at member
      exact of_decide_eq_true (List.mem_filter.mp member).2
    rw [heldOf_perm orderId (takeOut_split ok.plain_ok found)]
    simp only [heldOf, List.map_cons, List.sum_cons, named, if_true] at others ⊢
    rw [others, add_zero]
    rfl

/-- What a resting order has left is what its book reports for it. -/
theorem remainingOf_resting (ok : BookOk book) {rested : Rested}
    (member : rested ∈ book.plain.allResting) :
    book.remainingOf rested.order.orderId = rested.remainingQuantity := by
  rw [OrderBook.remainingOf, openOrder?_eq ok]
  cases found : book.plain.find? rested.order.orderId with
  | none => exact absurd (List.find?_eq_none.mp found rested member) (by simp)
  | some other =>
    -- Identifiers are distinct, so the order found is the resting one.
    have same : other.order.orderId = rested.order.orderId :=
      of_decide_eq_true (List.find?_some found :)
    rw [List.inj_on_of_nodup_map ok.plain_ok.named (List.mem_of_find?_eq_some found) member same]
    rfl

/-- The quantities reported as expired are those of the orders gone by expiry. -/
theorem Performed.expired_quantity (done : Performed book op book' reply calls gone expired)
    (ok : BookOk book) (orderId : UUID) :
    expiredQuantity orderId (callEvents book op reply calls) = heldOf orderId gone := by
  -- Expiry alone reports orders as expired.
  have reported : closedIds .expired calls = gone.map fun rested => rested.order.orderId := by
    rw [done.calls_eq, closedIds_append, closedIds_expired, callsOf_expired, List.append_nil]
  rw [expiredQuantity, expiriesOf_call, reported, heldOf, List.map_map, List.map_map]
  congr 1
  refine List.map_congr_left fun rested member => ?_
  have resting := (done.split ok).symm.subset (List.mem_append_left _ member)
  simp only [Function.comp_apply, remainingOf_resting ok resting]

/-- The quantities reported as cancelled are those of the reply. -/
theorem canceledQuantity_call (book : OrderBook) (op : BookOp) (reply : BookReply)
    (calls : List Callback) (orderId : UUID) :
    canceledQuantity orderId (callEvents book op reply calls) = reply.canceledOf orderId := by
  rw [canceledQuantity, cancelsOf_call]
  cases reply with
  | canceled taken => cases op <;> simp [Event.ofReply, cancelsOf, BookReply.canceledOf]
  | _ => cases op <;> rfl

/-- The orders reported as cancelled are those of the reply. -/
theorem canceledIds_call (book : OrderBook) (op : BookOp) (reply : BookReply)
    (calls : List Callback) :
    (cancelsOf (callEvents book op reply calls)).map (·.order.orderId) = reply.canceledIds := by
  rw [cancelsOf_call]
  cases reply <;> cases op <;> rfl

/-- A submit for the book's own symbol returns what placing the order gives. -/
theorem Performed.matches_eq {order : Order} {now restAt : ℚ}
    (done : Performed book (.submit order now restAt) book' reply calls gone expired)
    (own : order.symbol = book.symbol) :
    matchesOf (callEvents book (.submit order now restAt) reply calls) =
        [(order, (expired.place order (expired.stamp restAt)).2)] ∧
      reply = .matched (expired.place order (expired.stamp restAt)).2 := by
  -- Expiry keeps the symbol, so that the order is placed.
  have same : order.symbol = expired.config.symbol := by
    rw [done.expired_eq.1]
    exact own
  have answered := done.reply_eq
  rw [act_submit_own same] at answered
  exact ⟨by rw [matchesOf_call, answered]; rfl, answered⟩

/-- No call but a submit returns executions or a match. -/
theorem Performed.unmatched (done : Performed book op book' reply calls gone expired)
    (other : ∀ order now restAt, op ≠ .submit order now restAt) :
    matchesOf (callEvents book op reply calls) = [] ∧ reply.executions = [] := by
  -- Only a submit matches orders.
  rw [matchesOf_call, done.reply_eq]
  cases op with
  | submit order now restAt => exact absurd rfl (other order now restAt)
  | cancel orderId now =>
    simp only [PlainBook.act]
    cases (expired.takeOut orderId).2 <;> exact ⟨rfl, rfl⟩
  | recentTrades limit =>
    simp only [PlainBook.act]
    split <;> exact ⟨rfl, rfl⟩
  | getOpenOrder | openOrders | snapshot | totalQuantity | bestPrice => exact ⟨rfl, rfl⟩

/-- A call tells of a submit exactly what it brings in and trades. -/
theorem Performed.matched_parts (done : Performed book op book' reply calls gone expired)
    (own : ∀ order now restAt, op = .submit order now restAt → order.symbol = book.symbol) :
    (∀ orderId, submittedQuantity orderId (callEvents book op reply calls) =
      book.plain.broughtOf orderId op) ∧
    tradesOf (callEvents book op reply calls) = reply.executions ∧
    restedIds calls = leftToRest (callEvents book op reply calls) := by
  by_cases submit : ∃ order now restAt, op = .submit order now restAt
  · obtain ⟨order, now, restAt, rfl⟩ := submit
    have own := own order now restAt rfl
    obtain ⟨found, answered⟩ := done.matches_eq own
    have same : order.symbol = expired.config.symbol := by
      rw [done.expired_eq.1]
      exact own
    refine ⟨fun orderId => ?_, ?_, ?_⟩
    · have here : order.symbol = book.plain.config.symbol := own
      simp only [submittedQuantity, found, PlainBook.broughtOf, here, true_and, List.map_cons,
        List.map_nil, List.sum_cons, List.sum_nil, add_zero]
    · rw [tradesOf, found, answered]
      simp [BookReply.executions]
    · -- The order rests when the match has left something of it.
      rw [leftToRest, found, done.calls_eq, restedIds_append, restedIds_expired, List.nil_append]
      simp only [PlainBook.callsOf, if_neg (not_not_intro same), restedIds_append, restedIds_filled,
        List.nil_append, PlainBook.place]
      by_cases left : (expired.taken order).left = 0 <;> simp [left, restedIds]
  · -- Any other call submits nothing, and so nothing is traded or left to rest.
    have other : ∀ order now restAt, op ≠ .submit order now restAt :=
      fun order now restAt same => submit ⟨order, now, restAt, same⟩
    obtain ⟨none_found, none_traded⟩ := done.unmatched other
    refine ⟨fun orderId => ?_, ?_, ?_⟩
    · rw [submittedQuantity, none_found]
      cases op <;> first | rfl | exact absurd rfl (other _ _ _)
    · rw [tradesOf, none_found, none_traded]
      rfl
    · rw [leftToRest, none_found]
      refine List.sublist_nil.mp (done.rested_sub.trans ?_)
      cases op <;> first | exact List.nil_sublist _ | exact absurd rfl (other _ _ _)

end Books

section Sums

variable (orderId : UUID) (first second : List Event)

/-- What is submitted adds up. -/
@[simp] theorem submittedQuantity_append : submittedQuantity orderId (first ++ second) =
    submittedQuantity orderId first + submittedQuantity orderId second := by
  simp [submittedQuantity]

/-- What is cancelled adds up. -/
@[simp] theorem canceledQuantity_append : canceledQuantity orderId (first ++ second) =
    canceledQuantity orderId first + canceledQuantity orderId second := by
  simp [canceledQuantity]

/-- What expires adds up. -/
@[simp] theorem expiredQuantity_append : expiredQuantity orderId (first ++ second) =
    expiredQuantity orderId first + expiredQuantity orderId second := by
  simp [expiredQuantity]

/-- What is traded adds up. -/
@[simp] theorem tradedOf_append (some more : List Trade) :
    tradedOf orderId (some ++ more) = tradedOf orderId some + tradedOf orderId more := by
  simp [tradedOf]

/-- What comes to rest follows what came before. -/
@[simp] theorem leftToRest_append :
    leftToRest (first ++ second) = leftToRest first ++ leftToRest second := by
  simp [leftToRest]

/-- Identifiers at rest are those of the resting orders. -/
theorem restingIds_eq (registry : Registry) :
    registry.restingIds = registry.resting.map fun rested => rested.order.orderId := by
  rw [Registry.resting, List.map_flatMap]
  rfl

end Sums

section Step

variable {past : List Event} {system system' : System} {action : Action} {later : List Action}

/-- A longer record pairs what a shorter one paired. -/
theorem WellPaired.extend {events : List Event} {trade : Trade} (paired : WellPaired past trade) :
    WellPaired (past ++ events) trade := by
  obtain ⟨positive, ⟨buy, bought, buyer⟩, ⟨sell, sold, seller⟩⟩ := paired
  refine ⟨positive, ⟨buy, ?_, buyer⟩, ⟨sell, ?_, seller⟩⟩
  · rw [matchesOf_append]; exact List.mem_append_left _ bought
  · rw [matchesOf_append]; exact List.mem_append_left _ sold

/-- A section without events that moves no order keeps the accounts. -/
theorem Ledger.same (ledger : Ledger past system)
    (resting : system'.registry.resting = system.registry.resting)
    (registered : ∀ (ref : Nat) (book : OrderBook), system'.registry.objects[ref]? = some book →
      system'.registry.books.get? book.symbol = some ref) : Ledger (past ++ []) system' := by
  -- The identifiers at rest are those of the same orders.
  have ids : system'.registry.restingIds = system.registry.restingIds := by
    rw [restingIds_eq, restingIds_eq, resting]
  rw [List.append_nil]
  exact ⟨resting ▸ ledger.balance, ids ▸ ledger.whereabouts, ledger.rests_eq, ledger.submitted_once,
    resting ▸ ledger.resting_submitted, ledger.paired, registered⟩

variable {ref : Nat} {op : BookOp} {reply : BookReply} {calls : List Callback}
  {book book' : OrderBook} {gone : List Rested} {expired : PlainBook}

/-- A maker is a resting order of the book, on the other side of the incoming order. -/
theorem Called.maker (called : Called system.registry system'.registry ref op reply calls book book'
      gone expired) (ok : RegistryOk system.registry) {order : Order} {fill : Rested × Int}
    (filled : fill ∈ (expired.taken order).fills) : fill.1 ∈ system.registry.resting ∧
      fill.1.order.side = order.side.opposite ∧ fill.1.order.symbol = book.symbol := by
  have inside : book ∈ system.registry.objects := List.mem_of_getElem? called.found
  -- A maker is one of the orders in reach, which have outlived expiry.
  have reached := (List.takeWhile_sublist _).subset (consume_fill_mem filled)
  have rests := called.done.expired_sub reached
  have member := PlainBook.mem_allResting.mpr ⟨_, rests⟩
  refine ⟨List.mem_flatMap.mpr ⟨book, inside, member⟩, ?_, ok.symbols book inside fill.1 member⟩
  exact (ok.book_ok called.found).plain_ok.sided _ fill.1 rests

/-- Every trade of a submit pairs the incoming order with one whose submit returned earlier. -/
theorem Called.paired {order : Order} {now restAt : ℚ}
    (called : Called system.registry system'.registry ref (.submit order now restAt) reply calls book
      book' gone expired) (ok : RegistryOk system.registry) (own : order.symbol = book.symbol)
    (resting_submitted : ∀ rested ∈ system.registry.resting,
      ∃ found ∈ matchesOf past, found.1 = rested.order) {trade : Trade}
    (traded : trade ∈ tradesOf (callEvents book (.submit order now restAt) reply calls)) :
    WellPaired (past ++ callEvents book (.submit order now restAt) reply calls) trade := by
  obtain ⟨found, answered⟩ := called.done.matches_eq own
  rw [tradesOf, found, List.flatMap_cons, List.flatMap_nil, List.append_nil] at traded
  obtain ⟨fill, filled, rfl⟩ := List.mem_map.mp traded
  obtain ⟨rests, opposite, symbol⟩ := called.maker ok filled
  have expired_ok := called.done.expired_ok (ok.book_ok called.found)
  have positive : ∀ rested ∈ expired.reached order, 1 ≤ rested.remainingQuantity :=
    fun rested member => expired_ok.positive rested (PlainBook.mem_allResting.mpr
      ⟨_, (List.takeWhile_sublist _).subset member⟩)
  have taken := consume_fill_bounds order.quantity_pos.le positive fill filled
  have tagged : expired.config.symbol = book.symbol := by rw [called.done.expired_eq.1]; rfl
  -- The incoming order is in the record from now on, and the maker has been in it before.
  have incoming : ∃ entry ∈ matchesOf (past ++ callEvents book (.submit order now restAt) reply calls),
      entry.1 = order := by
    rw [matchesOf_append, found]
    exact ⟨_, List.mem_append_right _ (List.mem_singleton_self _), rfl⟩
  have maker : ∃ entry ∈ matchesOf (past ++ callEvents book (.submit order now restAt) reply calls),
      entry.1 = fill.1.order := by
    obtain ⟨entry, listed, same⟩ := resting_submitted fill.1 rests
    rw [matchesOf_append]
    exact ⟨entry, List.mem_append_left _ listed, same⟩
  obtain ⟨entry, listed, same⟩ := incoming
  obtain ⟨entry', listed', same'⟩ := maker
  -- Whoever buys, the other one sells.
  cases side : order.side with
  | buy =>
    rw [side] at opposite
    refine ⟨taken.1, ⟨entry, listed, ?_, same ▸ side, ?_⟩, ⟨entry', listed', ?_, same' ▸ opposite, ?_⟩⟩
    · simp only [tradeAgainst, tradeOrders, side, same]
    · simp only [tradeAgainst, same, tagged, own]
    · simp only [tradeAgainst, tradeOrders, side, same']
    · simp only [tradeAgainst, same', tagged, symbol]
  | sell =>
    rw [side] at opposite
    refine ⟨taken.1, ⟨entry', listed', ?_, same' ▸ opposite, ?_⟩, ⟨entry, listed, ?_, same ▸ side, ?_⟩⟩
    · simp only [tradeAgainst, tradeOrders, side, same']
    · simp only [tradeAgainst, same', tagged, symbol]
    · simp only [tradeAgainst, tradeOrders, side, same]
    · simp only [tradeAgainst, same, tagged, own]

/-- A call writes one book, and leaves the other objects. -/
theorem Called.objects_set (called : Called system.registry system'.registry ref op reply calls book
    book' gone expired) : system'.registry.objects = system.registry.objects.set ref book' := by
  rw [called.after_eq]
  rfl

/-- For each order, a call adds to the record what its book gains or loses. -/
theorem Ledger.called_balance (ledger : Ledger past system) (ok : RegistryOk system.registry)
    (called : Called system.registry system'.registry ref op reply calls book book' gone expired)
    (own : ∀ order now restAt, op = .submit order now restAt → order.symbol = book.symbol)
    (orderId : UUID) :
    submittedQuantity orderId (past ++ callEvents book op reply calls) =
      tradedOf orderId (tradesOf (past ++ callEvents book op reply calls)) +
        heldOf orderId system'.registry.resting +
        canceledQuantity orderId (past ++ callEvents book op reply calls) +
        expiredQuantity orderId (past ++ callEvents book op reply calls) := by
  have book_ok := ok.book_ok called.found
  have fresh : ∀ orderId ∈ op.newIds, book.index.get? orderId = none := fun orderId new =>
    (unindexed_iff_ids book_ok).mpr (called.fresh_book orderId new)
  obtain ⟨brought, traded, _⟩ := called.done.matched_parts own
  -- The called book's ledger and that of all others add up.
  obtain ⟨others, before, after⟩ := objects_split (fun object => object.plain.allResting) called.found
  have held := heldOf_perm orderId before
  have held' := heldOf_perm orderId (after book')
  have moved := called.done.ledger book_ok fresh orderId
  have past_balance := ledger.balance orderId
  have gone_quantity := called.done.expired_quantity book_ok orderId
  rw [heldOf_append] at held held'
  simp only [submittedQuantity_append, tradesOf_append, tradedOf_append, canceledQuantity_append,
    expiredQuantity_append, brought, traded, canceledQuantity_call, gone_quantity]
  simp only [Registry.resting, called.objects_set] at past_balance ⊢
  omega

/-- After a call, every order that came to rest is at rest or has left in one way. -/
theorem Ledger.called_whereabouts (ledger : Ledger past system) (ok : RegistryOk system.registry)
    (called : Called system.registry system'.registry ref op reply calls book book' gone expired) :
    (restsOf (past ++ callEvents book op reply calls)).Perm
      (fillsOf (past ++ callEvents book op reply calls) ++
        (cancelsOf (past ++ callEvents book op reply calls)).map (·.order.orderId) ++
        (expiriesOf (past ++ callEvents book op reply calls)).map Prod.fst ++
        system'.registry.restingIds) := by
  obtain ⟨others, before, after⟩ := objects_split (fun object => object.plain.ids) called.found
  -- Each order leaves the called book in one of the ways that the record tells.
  have exits := called.done.exits (ok.book_ok called.found)
  have whereabouts := ledger.whereabouts
  have expired_ids : (expiriesOf (callEvents book op reply calls)).map Prod.fst =
      closedIds .expired calls := by
    rw [expiriesOf_call, List.map_map]
    exact List.map_id _
  have after := after book'
  rw [restsOf_append, fillsOf_append, cancelsOf_append, expiriesOf_append, List.map_append,
    List.map_append, canceledIds_call, expired_ids, restsOf_call, fillsOf_call]
  rw [Registry.restingIds, called.objects_set]
  rw [Registry.restingIds] at whereabouts
  -- Permutations are compared by how often they list an identifier.
  rw [List.perm_iff_count] at exits whereabouts before after ⊢
  intro orderId
  have exits := exits orderId
  have whereabouts := whereabouts orderId
  have before := before orderId
  have after := after orderId
  simp only [List.count_append] at exits whereabouts before after ⊢
  omega

/-- What a call submits was not submitted before. -/
theorem Ledger.called_submitted (ledger : Ledger past system)
    (ok : SystemOk past system (action :: later))
    (called : Called system.registry system'.registry ref op reply calls book book' gone expired)
    (submitted : ∀ order now restAt, op = .submit order now restAt →
      order.symbol = book.symbol ∧ ∃ thread, action = .resume thread now restAt ∧
        system.calls.get? thread = some (.submitting order ref)) :
    (submittedIds (past ++ callEvents book op reply calls)).Nodup := by
  rw [submittedIds_append, List.nodup_append']
  refine ⟨ledger.submitted_once, ?_, fun orderId old new => ?_⟩
  · cases op with
    | submit order now restAt =>
      obtain ⟨found, _⟩ := called.done.matches_eq (submitted order now restAt rfl).1
      rw [submittedIds, found]
      exact List.nodup_singleton _
    | _ =>
      -- Other calls submit nothing.
      obtain ⟨found, _⟩ := called.done.unmatched (by simp)
      rw [submittedIds, found]
      exact .nil
  · have own := submittedIds_call new
    cases op with
    | submit order now restAt =>
      -- The thread was still about to submit the order.
      obtain ⟨_, thread, _, waits⟩ := submitted order now restAt rfl
      exact (ok.spent orderId (.inl old)).2 thread
        ⟨order, ref, waits, (List.mem_singleton.mp own).symm⟩
    -- Nothing was submitted by this call.
    | _ => exact absurd own List.not_mem_nil

/-- What rests after a call was submitted before, or is the order submitted now. -/
theorem Ledger.called_resting (ledger : Ledger past system)
    (called : Called system.registry system'.registry ref op reply calls book book' gone expired)
    {rested : Rested} (member : rested ∈ system'.registry.resting) :
    ∃ found ∈ matchesOf (past ++ callEvents book op reply calls), found.1 = rested.order := by
  rw [matchesOf_append]
  rw [Registry.resting, called.objects_set] at member
  obtain ⟨object, inside, rests⟩ := List.mem_flatMap.mp member
  have earlier : ∀ before ∈ system.registry.resting, before.order = rested.order →
      ∃ entry ∈ matchesOf past ++ matchesOf (callEvents book op reply calls),
        entry.1 = rested.order := by
    intro before was same
    obtain ⟨entry, listed, same'⟩ := ledger.resting_submitted before was
    exact ⟨entry, List.mem_append_left _ listed, same'.trans same⟩
  rcases List.mem_or_eq_of_mem_set inside with old | rfl
  · exact earlier rested (List.mem_flatMap.mpr ⟨object, old, rests⟩) rfl
  · -- In the called book, an order stems from one that rested there, or is the newcomer.
    obtain ⟨side, rests⟩ := PlainBook.mem_allResting.mp rests
    rcases called.done.origin rests with ⟨before, was, stems⟩ | newcomer
    · refine earlier before (List.mem_flatMap.mpr ⟨book, List.mem_of_getElem? called.found, ?_⟩)
        stems.order_eq.symm
      exact PlainBook.mem_allResting.mpr ⟨side, was⟩
    · obtain ⟨now, restAt, rfl, symbol, _⟩ := newcomer.submitted
      obtain ⟨listed, _⟩ := called.done.matches_eq symbol
      exact ⟨_, List.mem_append_right _ (listed ▸ List.mem_singleton_self _), rfl⟩

/-- A call moves quantity between the books and the record, and loses none. -/
theorem Ledger.called (ledger : Ledger past system) (ok : SystemOk past system (action :: later))
    (called : Called system.registry system'.registry ref op reply calls book book' gone expired)
    (submitted : ∀ order now restAt, op = .submit order now restAt →
      order.symbol = book.symbol ∧ ∃ thread, action = .resume thread now restAt ∧
        system.calls.get? thread = some (.submitting order ref)) :
    Ledger (past ++ callEvents book op reply calls) system' := by
  have own : ∀ order now restAt, op = .submit order now restAt → order.symbol = book.symbol :=
    fun order now restAt same => (submitted order now restAt same).1
  refine ⟨ledger.called_balance ok.registry_ok called own,
    ledger.called_whereabouts ok.registry_ok called, ?_, ledger.called_submitted ok called submitted,
    fun rested member => ledger.called_resting called member, ?_, ?_⟩
  · obtain ⟨_, _, rested⟩ := called.done.matched_parts own
    rw [restsOf_append, restsOf_call, leftToRest_append, ledger.rests_eq, rested]
  · intro trade member
    -- A trade is from before, or pairs the submitted order with a maker.
    rw [tradesOf_append, List.mem_append] at member
    rcases member with old | new
    · exact (ledger.paired trade old).extend
    · cases op with
      | submit order now restAt =>
        exact called.paired ok.registry_ok (own order now restAt rfl) ledger.resting_submitted new
      | _ =>
        obtain ⟨found, _⟩ := called.done.unmatched (by simp)
        rw [tradesOf, found] at new
        exact absurd new List.not_mem_nil
  · intro place object found
    rw [called.books_eq]
    rw [called.object_eq] at found
    split at found
    · rename_i same
      cases found
      -- The called book keeps its symbol.
      rw [called.symbol_eq, same]
      exact ledger.registered ref book called.found
    · exact ledger.registered place object found

/-- Without rollovers every section keeps the accounts. -/
theorem Ledger.step {owned : Ownership} {events : List Event} (ledger : Ledger past system)
    (ok : SystemOk past system (action :: later)) (made : Section owned system action system' events)
    (lasting : action.isRollover = false) : Ledger (past ++ events) system' := by
  -- Only a call of a book adds to the record, and without a rollover no book is lost.
  cases made with
  | idle objects_eq books_eq =>
    refine ledger.same (by rw [Registry.resting, objects_eq]; rfl) fun ref book found => ?_
    rw [books_eq]
    exact ledger.registered ref book (objects_eq ▸ found)
  | got got =>
    refine ledger.same got.resting_eq fun ref book found => ?_
    rcases got.objects_new ref book found with old | ⟨_, rfl, result⟩
    · exact got.books_kept _ ref (ledger.registered ref book old)
    · exact (got.found ref result).1
  | called called leaving away submitted => exact ledger.called ok called submitted
  -- Forgetting an order leaves the books alone.
  | forgot registry_eq =>
    refine ledger.same (by rw [registry_eq]; rfl) fun ref book found => ?_
    rw [registry_eq] at found ⊢
    exact ledger.registered ref book found
  | rolled rolls => rw [lasting] at rolls; cases rolls

end Step

section Runs

variable {past : List Event} {system : System}

/-- A submitted order holds in all books together what the book of its symbol reports for it. -/
theorem Ledger.held_eq (ledger : Ledger past system) (ok : RegistryOk system.registry)
    {found : Order × MatchResult} (submitted : found ∈ matchesOf past) :
    heldOf found.1.orderId system.registry.resting = system.registry.remainingOf found.1 := by
  by_cases rests : found.1.orderId ∈ system.registry.restingIds
  · obtain ⟨ref, book, at_ref, member⟩ := mem_restingIds.mp rests
    have inside := List.mem_of_getElem? at_ref
    obtain ⟨rested, resting, named⟩ := List.mem_map.mp member
    -- The resting order was submitted under the same identifier, so it is the order itself.
    obtain ⟨entry, listed, same⟩ := ledger.resting_submitted rested
      (List.mem_flatMap.mpr ⟨book, inside, resting⟩)
    have only := List.inj_on_of_nodup_map ledger.submitted_once listed submitted
      ((congrArg Order.orderId same).trans named)
    have symbol : found.1.symbol = book.symbol := by
      rw [← only, same]
      exact ok.symbols book inside rested resting
    obtain ⟨others, split, _⟩ := objects_split (fun object => object.plain.allResting) at_ref
    -- No other order has the identifier.
    have elsewhere : heldOf found.1.orderId others = 0 := by
      refine heldOf_eq_zero fun other away => fun named' => ?_
      have ids := ok.named
      rw [restingIds_eq, Registry.resting] at ids
      have apart := (split.map fun rested => rested.order.orderId).nodup_iff.mp ids
      rw [List.map_append, List.nodup_append'] at apart
      exact apart.2.2 member (named' ▸ List.mem_map_of_mem away)
    rw [Registry.resting, heldOf_perm _ split, heldOf_append, elsewhere, add_zero,
      heldOf_allResting (ok.book_ok at_ref)]
    simp only [Registry.remainingOf, Registry.bookOf, symbol, ledger.registered ref book at_ref,
      Option.bind_some, at_ref, Option.map_some, Option.getD_some]
  · rw [restingIds_eq] at rests
    -- An order that rests nowhere is in no book, and nothing remains of it.
    have nothing : heldOf found.1.orderId system.registry.resting = 0 :=
      heldOf_eq_zero fun rested member same => rests (same ▸ List.mem_map_of_mem member)
    rw [nothing, Registry.remainingOf]
    cases at_symbol : system.registry.bookOf found.1.symbol with
    | none => rfl
    | some book =>
      obtain ⟨ref, _, at_ref⟩ := Option.bind_eq_some_iff.mp at_symbol
      have inside := List.mem_of_getElem? at_ref
      have empty : heldOf found.1.orderId book.plain.allResting = 0 :=
        heldOf_eq_zero fun rested member same =>
          rests (same ▸ List.mem_map_of_mem (List.mem_flatMap.mpr ⟨book, inside, member⟩))
      rw [heldOf_allResting (ok.books_ok book inside)] at empty
      exact empty.symm

/-- A new system has an empty ledger. -/
theorem Ledger.new : Ledger [] .new := by
  refine ⟨fun _ => rfl, .refl _, rfl, .nil, ?_, ?_, ?_⟩
  · exact fun rested member => absurd member List.not_mem_nil
  · exact fun trade member => absurd member List.not_mem_nil
  · exact fun ref book found => by simp [System.new, Registry.new] at found

/-- Every run keeps the system in order, and without rollovers it keeps the accounts. -/
theorem run_ledger (owned : Ownership) (actions : List Action)
    (distinct : (actions.flatMap Action.newIds).Nodup)
    (lasting : ∀ action ∈ actions, action.isRollover = false) :
    ∃ system events, Machine.run (System.step owned) .new actions = .ok (system, events) ∧
      SystemOk events.flatten system [] ∧ Ledger events.flatten system := by
  -- The ledger is kept from action to action.
  obtain ⟨system, events, ran, ok, ledger, _⟩ := Machine.run_history
    (fun past system later => SystemOk past.flatten system later ∧ Ledger past.flatten system ∧
      ∀ action ∈ later, action.isRollover = false)
    (fun past system action later held => by
      obtain ⟨ok, ledger, lasting⟩ := held
      obtain ⟨system', events, stepped, ok', made⟩ := ok.step owned
      refine ⟨system', events, stepped, ?_, ?_, fun other member => lasting other (by simp [member])⟩
      · simpa using ok'
      · simpa using ledger.step ok made (lasting action (by simp)))
    actions [] _ ⟨.new distinct, .new, lasting⟩
  exact ⟨system, events, ran, ok, ledger⟩

/--
Quantity is conserved order by order in every interleaving of submits, cancels, and reads.

An order leaves the books at most once, and every trade pairs a buyer with a seller of its symbol.
-/
theorem run_conserves (owned : Ownership) (actions : List Action)
    (distinct : (actions.flatMap Action.newIds).Nodup)
    (lasting : ∀ action ∈ actions, action.isRollover = false) :
    ∃ system sections, Machine.run (System.step owned) .new actions = .ok (system, sections) ∧
      let events := sections.flatten
      (∀ order result, Event.matched order result ∈ events →
        order.quantity = tradedOf order.orderId (tradesOf events) +
          system.registry.remainingOf order + canceledQuantity order.orderId events +
          expiredQuantity order.orderId events) ∧
      (∀ trade ∈ tradesOf events, WellPaired events trade) ∧
      restsOf events = leftToRest events ∧ (restsOf events).Nodup ∧
      (restsOf events).Perm (fillsOf events ++ (cancelsOf events).map (·.order.orderId) ++
        (expiriesOf events).map Prod.fst ++ system.registry.restingIds) := by
  -- The ledger of the whole run is read for each order.
  obtain ⟨system, sections, ran, ok, ledger⟩ := run_ledger owned actions distinct lasting
  refine ⟨system, sections, ran, ?_, ledger.paired, ledger.rests_eq, ?_, ledger.whereabouts⟩
  · intro order result returned
    have listed : (order, result) ∈ matchesOf sections.flatten :=
      List.mem_filterMap.mpr ⟨_, returned, rfl⟩
    have brought : submittedQuantity order.orderId sections.flatten = order.quantity :=
      sum_map_label (fun found : Order × MatchResult => found.1.orderId)
        (fun found => found.1.quantity) ledger.submitted_once listed
    have held : heldOf order.orderId system.registry.resting = system.registry.remainingOf order :=
      ledger.held_eq ok.registry_ok listed
    have balance := ledger.balance order.orderId
    omega
  · -- Orders come to rest when their submits return, which each does once.
    rw [ledger.rests_eq]
    exact ledger.submitted_once.sublist (List.filter_sublist.map _)

/-- A matcher of one symbol whose orders expire after a minute. -/
def minuteOwner : Ownership := ⟨["005930"], 60⟩

/-- A cancel has found its order's book when a buyer takes part of the order, and then runs. -/
def raceActions : List Action :=
  [.submit 0 fiveOffered, .resume 0 0 0, .cancel 1 1, .resume 1 0 0, .submit 2 twoWanted,
    .resume 2 1 1, .resume 1 2 2, .resume 1 2 2]

/-- A cancellation races with the fill of its order. -/
theorem run_conserves_race : ∃ system sections,
    Machine.run (System.step minuteOwner) .new raceActions = .ok (system, sections) ∧
      let events := sections.flatten
      (∀ order result, Event.matched order result ∈ events →
        order.quantity = tradedOf order.orderId (tradesOf events) +
          system.registry.remainingOf order + canceledQuantity order.orderId events +
          expiredQuantity order.orderId events) ∧
      (∀ trade ∈ tradesOf events, WellPaired events trade) ∧
      restsOf events = leftToRest events ∧ (restsOf events).Nodup ∧
      (restsOf events).Perm (fillsOf events ++ (cancelsOf events).map (·.order.orderId) ++
        (expiriesOf events).map Prod.fst ++ system.registry.restingIds) :=
  run_conserves minuteOwner raceActions (by decide) (by decide)

end Runs

end StockMarket
