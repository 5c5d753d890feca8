import StockMarket.Orderbook.Priority

/-! The best bid at rest stays strictly below the best ask, so every snapshot is uncrossed. -/

namespace StockMarket

/-- Every bid at rest is below every ask at rest. -/
def PlainBook.Uncrossed (book : PlainBook) : Prop :=
  ∀ bid ∈ book.resting .buy, ∀ ask ∈ book.resting .sell, bid.order.price < ask.order.price

section Steps

variable {book : PlainBook}

/-- Keeping some of the orders keeps a book uncrossed. -/
theorem PlainBook.Uncrossed.keep (uncrossed : book.Uncrossed) (test : Rested → Bool) :
    (book.keep test).Uncrossed := fun bid bids ask asks =>
  uncrossed bid (List.mem_of_mem_filter bids) ask (List.mem_of_mem_filter asks)

/-- What lies beyond the reach of an order does not cross it. -/
theorem beyond_uncrossed (ok : PlainOk book) {order : Order} {rested : Rested}
    (member : rested ∈ book.beyond order) : ¬ crosses order rested.order = true := by
  -- Everything that crosses stands in front, because the reach ends where the first order fails.
  have whole : book.reached order ++ book.beyond order = book.resting order.side.opposite :=
    List.takeWhile_append_dropWhile
  have front := reached_eq_crossing ok order
  have all_reached : (book.reached order).filter (fun rested => crosses order rested.order) =
      book.reached order :=
    List.filter_eq_self.mpr fun other inside =>
      List.mem_takeWhile_imp (p := fun rested : Rested => crosses order rested.order) inside
  rw [crossing_eq_filter, ← whole, List.filter_append, all_reached, List.self_eq_append_right] at front
  exact List.filter_eq_nil_iff.mp front rested member

/-- When a quantity is left to rest, the opposite side holds only what the order does not cross. -/
theorem place_left_uncrossed (ok : PlainOk book) {order : Order} (restedAt : ℚ) (rested : Rested)
    (left : (book.taken order).left ≠ 0)
    (member : rested ∈ (book.place order restedAt).1.resting order.side.opposite) :
    ¬ crosses order rested.order = true := by
  -- Only an exhausted reach leaves a quantity to rest, so nothing within reach is kept.
  have kept : (book.taken order).kept = [] := ((consume_left order.quantity_pos.le).2 left).1
  rw [place_opposite, kept, List.nil_append] at member
  exact beyond_uncrossed ok member

/-- Placing an order keeps a book uncrossed. -/
theorem PlainBook.Uncrossed.place (uncrossed : book.Uncrossed) (ok : PlainOk book) (order : Order)
    (restedAt : ℚ) (ok' : PlainOk (book.place order restedAt).1) :
    (book.place order restedAt).1.Uncrossed := by
  intro bid bids ask asks
  have bought := ok'.sided .buy bid bids
  have sold := ok'.sided .sell ask asks
  -- Each of the two orders was at rest before, or it is the incoming one.
  rcases place_origin bids with ⟨before, inside, stems⟩ | ⟨own, _, _, _, left⟩
  · rcases place_origin asks with ⟨before', inside', stems'⟩ | ⟨own, _, _, _, left⟩
    · rw [stems.order_eq, stems'.order_eq]
      exact uncrossed before inside before' inside'
    · -- The ask is the incoming order, which crosses no bid that is left.
      rw [own] at sold
      have unreached := place_left_uncrossed ok restedAt bid left (by
        rw [sold]; exact bids)
      simp only [crosses, sold, decide_eq_true_eq] at unreached
      rw [own]
      omega
  · -- The bid is the incoming order, which crosses no ask that is left.
    rw [own] at bought
    have unreached := place_left_uncrossed ok restedAt ask left (by
      rw [bought]; exact asks)
    simp only [crosses, bought, decide_eq_true_eq] at unreached
    rw [own]
    omega

end Steps

section Runs

variable {book book' : OrderBook} {op : BookOp} {reply : BookReply} {calls : List Callback}
  {gone : List Rested} {expired : PlainBook}

/-- Every operation keeps a book uncrossed. -/
theorem Performed.uncrossed (done : Performed book op book' reply calls gone expired)
    (ok : BookOk book) (uncrossed : book.plain.Uncrossed) : book'.plain.Uncrossed := by
  have expired_ok := done.expired_ok ok
  -- Expiry only removes orders.
  have before : expired.Uncrossed := fun bid bids ask asks =>
    uncrossed bid (done.expired_sub bids) ask (done.expired_sub asks)
  have plain_ok := done.ok.plain_ok
  rw [done.plain_eq] at plain_ok ⊢
  cases op with
  | submit order now restAt =>
    -- An order for another symbol is refused, and the book stays.
    by_cases own : order.symbol = expired.config.symbol
    · rw [act_submit_own own] at plain_ok ⊢
      exact before.place expired_ok order _ plain_ok
    · rw [act_submit_foreign own]
      exact before
  | cancel orderId now =>
    simp only [PlainBook.act, PlainBook.takeOut]
    split
    · exact before
    · exact before.keep _
  | getOpenOrder | openOrders | snapshot | totalQuantity | bestPrice | recentTrades => exact before

/-- The levels of a side ascend strictly in key order. -/
theorem priceLevels_sorted {side : OrderSide} {resting : List Rested}
    (ranked : resting.Pairwise (Ahead side)) : (priceLevels resting).Pairwise
      fun first second => side.key first.price < side.key second.price := by
  -- The induction adds one order in front, which joins the first level or opens a better one.
  induction resting with
  | nil => exact .nil
  | cons first rest ih =>
    obtain ⟨ahead, ranked'⟩ := List.pairwise_cons.mp ranked
    have later := ih ranked'
    have head := priceLevels_head rest
    cases levels : priceLevels rest with
    | nil => simp [priceLevels, levels]
    | cons level others =>
      simp only [priceLevels, levels]
      rw [levels] at later head
      obtain ⟨behind, later'⟩ := List.pairwise_cons.mp later
      -- The first level of the rest has the price of its first order.
      obtain ⟨next, next_first, same⟩ := Option.map_eq_some_iff.mp head.symm
      have priced : next.order.price = level.price := same
      split
      · exact List.pairwise_cons.mpr ⟨behind, later'⟩
      · rename_i differs
        -- The next order has another price, so the new level is strictly better.
        have better : side.key first.order.price < side.key level.price := by
          rw [← priced]
          refine (ahead next (List.mem_of_head? next_first)).resolve_right fun equal => ?_
          exact differs (priced.symm.trans equal.1.symm)
        refine List.pairwise_cons.mpr ⟨fun other member => ?_, later⟩
        rcases List.mem_cons.mp member with rfl | member
        · exact better
        · exact better.trans (behind other member)

/-- Every level stands at the price of an order at rest. -/
theorem mem_priceLevels {resting : List Rested} {level : BookLevel}
    (member : level ∈ priceLevels resting) :
    ∃ rested ∈ resting, rested.order.price = level.price := by
  induction resting with
  | nil => exact absurd member List.not_mem_nil
  | cons first rest ih =>
    -- A level of the later orders is made by one of them.
    have old : level ∈ priceLevels rest → ∃ rested ∈ first :: rest,
        rested.order.price = level.price := by
      intro inside
      obtain ⟨rested, among, priced⟩ := ih inside
      exact ⟨rested, List.mem_cons_of_mem _ among, priced⟩
    -- The first order joins the first level or opens one of its own.
    cases levels : priceLevels rest with
    | nil =>
      simp only [priceLevels, levels, List.mem_singleton] at member
      exact ⟨first, List.mem_cons_self, by rw [member]⟩
    | cons head others =>
      simp only [priceLevels, levels] at member
      split at member
      · rcases List.mem_cons.mp member with rfl | member
        · exact ⟨first, List.mem_cons_self, (‹_ = _› : _).symm⟩
        · exact old (levels ▸ List.mem_cons_of_mem _ member)
      · rcases List.mem_cons.mp member with rfl | member
        · exact ⟨first, List.mem_cons_self, rfl⟩
        · exact old (levels ▸ member)

/-- A snapshot whose bids fall strictly, whose asks rise strictly, and whose sides do not meet. -/
structure BookSnapshot.WellOrdered (snapshot : BookSnapshot) : Prop where
  bids_fall : snapshot.bids.Pairwise fun first second => second.price < first.price
  asks_rise : snapshot.asks.Pairwise fun first second => first.price < second.price
  apart : ∀ bid ∈ snapshot.bids, ∀ ask ∈ snapshot.asks, bid.price < ask.price

/-- The snapshot of an uncrossed book is well ordered. -/
theorem Performed.snapshot_ordered {now : ℚ}
    (done : Performed book (.snapshot now) book' reply calls gone expired) (ok : BookOk book)
    (uncrossed : book.plain.Uncrossed) :
    ∃ snapshot, reply = .snapshot snapshot ∧ snapshot.WellOrdered := by
  have expired_ok := done.expired_ok ok
  refine ⟨_, done.reply_eq, ?_, ?_, ?_⟩
  · -- Bids are keyed by their negated prices.
    refine (priceLevels_sorted (expired_ok.priority .buy)).imp fun less => ?_
    simp only [OrderSide.key] at less
    omega
  · exact priceLevels_sorted (expired_ok.priority .sell)
  · intro bid bids ask asks
    obtain ⟨bought, at_bid, bid_price⟩ := mem_priceLevels bids
    obtain ⟨sold, at_ask, ask_price⟩ := mem_priceLevels asks
    rw [← bid_price, ← ask_price]
    exact uncrossed bought (done.expired_sub at_bid) sold (done.expired_sub at_ask)

/-- Every live bid is below every live ask, and whatever snapshot is taken now is well ordered. -/
structure OrderBook.Uncrossed (book : OrderBook) : Prop where
  live : ∀ bid ask, book.Live bid → (book.heap bid).order.side = .buy → book.Live ask →
    (book.heap ask).order.side = .sell →
      (book.heap bid).order.price < (book.heap ask).order.price
  snapshots : ∀ now, ∃ book' snapshot calls,
    book.perform (.snapshot now) = .ok (book', .snapshot snapshot, calls) ∧ snapshot.WellOrdered

/-- Between any two calls of a run with distinct identifiers the book is uncrossed. -/
theorem run_uncrossed (config : BookConfig) (ops : List BookOp)
    (distinct : (ops.flatMap BookOp.newIds).Nodup) :
    ∃ book outputs, Machine.run OrderBook.perform (OrderBook.new config) ops = .ok (book, outputs) ∧
      book.Uncrossed := by
  -- The invariant is about the orders at rest, of which the entries of the book are the image.
  obtain ⟨book, outputs, ran, ready, uncrossed⟩ := Machine.run_invariant
    (fun book later => Ready book later ∧ book.plain.Uncrossed)
    (fun book op later held => by
      obtain ⟨ready, uncrossed⟩ := held
      obtain ⟨book', reply, calls, _, _, ran, done, ready'⟩ := ready.step
      exact ⟨book', (reply, calls), ran, ready', done.uncrossed ready.ok uncrossed⟩)
    ops (OrderBook.new config) ⟨new_ready config distinct, fun _ member => by cases member⟩
  -- First the entries of the book itself, then the snapshot that is taken of it.
  refine ⟨book, outputs, ran, ?_, fun now => ?_⟩
  · intro bid ask live bought live' sold
    exact uncrossed _ ((mem_plain_iff ready.ok.core).mpr ⟨bid, live, bought, rfl⟩) _
      ((mem_plain_iff ready.ok.core).mpr ⟨ask, live', sold, rfl⟩)
  · obtain ⟨book', reply, calls, _, _, ran', done⟩ :=
      perform_spec ready.ok (.snapshot now) (by simp [BookOp.newIds])
    obtain ⟨snapshot, rfl, ordered⟩ := done.snapshot_ordered ready.ok uncrossed
    exact ⟨book', snapshot, calls, ran', ordered⟩

/-- A buyer below the best ask, who comes to rest beside it. -/
def threeWanted : Order :=
  ⟨"patient", twoWanted.symbol, .buy, 69900, 3, 3, by decide, twoWanted.symbol_present, by decide,
    by decide⟩

/-- Two bids against one offer, never crossing it. -/
theorem run_uncrossed_quoted : ∃ book outputs,
    Machine.run OrderBook.perform (OrderBook.new minuteBook)
      [.submit fiveOffered 0 0, .submit twoWanted 1 1, .submit threeWanted 2 2] = .ok (book, outputs) ∧
      book.Uncrossed :=
  run_uncrossed minuteBook [.submit fiveOffered 0 0, .submit twoWanted 1 1, .submit threeWanted 2 2]
    (by decide)

end Runs

end StockMarket
