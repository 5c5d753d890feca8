import StockMarket.Orderbook.Runs

/-! Price-time priority of every match, stated without a reference implementation. -/

namespace StockMarket

/--
The opposite orders whose price an incoming limit allows, in priority order.

A buyer takes what is offered at the limit or below, a seller what is bid at the limit or above.
-/
def PlainBook.crossing (book : PlainBook) (order : Order) : List Rested :=
  match order.side with
  | .buy => (book.resting .sell).filter fun rested => rested.order.price ≤ order.price
  | .sell => (book.resting .buy).filter fun rested => order.price ≤ rested.order.price

/-- A price is no worse than a limit for the side that set it. -/
def withinLimit (order : Order) (price : Int) : Prop :=
  match order.side with
  | .buy => price ≤ order.price
  | .sell => order.price ≤ price

/-- The identifier on an incoming order's own side of a trade. -/
def Trade.ownId (trade : Trade) : OrderSide → UUID
  | .buy => trade.buyOrderId
  | .sell => trade.sellOrderId

/-- A match in price-time priority, with the quantity taken from each maker. -/
structure MatchedInPriority (before : PlainBook) (order : Order) (restedAt : ℚ)
    (fills : List (Rested × Int)) (result : MatchResult) (after : PlainBook) : Prop where
  ranked : (before.crossing order).Pairwise (Ahead order.side.opposite)
  front : fills.map Prod.fst = (before.crossing order).take fills.length
  emptied : ∀ fill ∈ fills.dropLast, fill.2 = fill.1.remainingQuantity
  bounded : ∀ fill ∈ fills, 1 ≤ fill.2 ∧ fill.2 ≤ fill.1.remainingQuantity
  trades_eq : result.trades = fills.map fun fill =>
    tradeAgainst before.config.symbol order fill.1.order fill.2
  maker_price : result.trades.map Trade.price = fills.map fun fill => fill.1.order.price
  limited : ∀ trade ∈ result.trades, withinLimit order trade.price
  own_side : ∀ trade ∈ result.trades, trade.ownId order.side = order.orderId
  total_eq : (result.trades.map Trade.quantity).sum =
    min order.quantity (supply Rested.remainingQuantity (before.crossing order))
  remaining_eq : result.remainingQuantity =
    order.quantity - (result.trades.map Trade.quantity).sum
  opposite_eq : after.resting order.side.opposite =
    reducedLast Rested.remainingQuantity Rested.reduce fills ++
      (before.resting order.side.opposite).drop fills.length
  own_eq : after.resting order.side =
    if 0 < result.remainingQuantity then
      PlainBook.joined order.side
        ⟨order, result.remainingQuantity, before.sequence + 1, restedAt⟩ (before.resting order.side)
    else before.resting order.side
  rests_iff : (∃ rested ∈ after.allResting, rested.order.orderId = order.orderId ∧
    rested.remainingQuantity = result.remainingQuantity) ↔ 0 < result.remainingQuantity
  exhausted : 0 < result.remainingQuantity →
    fills = (before.crossing order).map fun rested => (rested, rested.remainingQuantity)

section Place

variable {book : PlainBook} {order : Order}

/-- What an incoming limit allows is what the book's own check lets through. -/
theorem crossing_eq_filter (book : PlainBook) (order : Order) :
    book.crossing order = (book.resting order.side.opposite).filter fun rested =>
      crosses order rested.order := by
  unfold PlainBook.crossing crosses
  cases order.side <;> rfl

/-- What crosses behind another order crosses there too. -/
theorem crosses_ahead {first second : Rested} (ahead : Ahead order.side.opposite first second)
    (crossed : crosses order second.order) : crosses order first.order := by
  -- An order that is ahead has a better price, or the same.
  unfold Ahead at ahead
  unfold crosses at crossed ⊢
  cases side : order.side <;>
    simp only [side, OrderSide.opposite, OrderSide.key, decide_eq_true_eq] at ahead crossed ⊢ <;>
    omega

/-- The orders within reach are the crossing ones. -/
theorem reached_eq_crossing (ok : PlainOk book) (order : Order) :
    book.reached order = book.crossing order := by
  rw [crossing_eq_filter]
  exact takeWhile_eq_filter (ok.priority _) fun _ _ => crosses_ahead

/-- The orders of one side after placing an order on it. -/
theorem place_own (restedAt : ℚ) : (book.place order restedAt).1.resting order.side =
    if (book.taken order).left = 0 then book.resting order.side
    else PlainBook.joined order.side
      ⟨order, (book.taken order).left, book.sequence + 1, restedAt⟩ (book.resting order.side) := by
  simp only [PlainBook.place]
  split <;> cases side : order.side <;>
    simp [PlainBook.rest, PlainBook.setResting, OrderSide.opposite, side]

/-- The orders of one side after an opposite order was placed. -/
theorem place_opposite (restedAt : ℚ) : (book.place order restedAt).1.resting order.side.opposite =
    (book.taken order).kept ++ book.beyond order := by
  simp only [PlainBook.place]
  split <;> cases side : order.side <;>
    simp [PlainBook.rest, PlainBook.setResting, OrderSide.opposite, side]

/-- The quantity traded is the quantity taken. -/
theorem tradesOf_quantity (book : PlainBook) (order : Order) :
    ((book.tradesOf order).map Trade.quantity).sum = takenBy (book.taken order).fills := by
  simp only [PlainBook.tradesOf, List.map_map, takenBy]
  rfl

/-- Placing an order matches it in price-time priority. -/
theorem place_priority (ok : PlainOk book) (restedAt : ℚ)
    (fresh : ∀ rested ∈ book.allResting, rested.order.orderId ≠ order.orderId) :
    MatchedInPriority book order restedAt (book.taken order).fills (book.place order restedAt).2
      (book.place order restedAt).1 := by
  have nonneg : 0 ≤ order.quantity := order.quantity_pos.le
  have crossing := reached_eq_crossing ok order
  have positive : ∀ rested ∈ book.reached order, 1 ≤ rested.remainingQuantity :=
    fun rested member => ok.positive rested (PlainBook.mem_allResting.mpr
      ⟨_, (List.takeWhile_sublist _).subset member⟩)
  have left_nonneg : 0 ≤ (book.taken order).left := (consume_left nonneg).1
  have balance : takenBy (book.taken order).fills + (book.taken order).left = order.quantity :=
    consume_balance
  have split : book.reached order ++ book.beyond order = book.resting order.side.opposite :=
    List.takeWhile_append_dropWhile
  -- No more orders are filled than are reached.
  have count : (book.taken order).fills.length ≤ (book.reached order).length := by
    have lengths : ((book.taken order).fills.map Prod.fst).length =
        ((book.reached order).take (book.taken order).fills.length).length :=
      congrArg List.length consume_front
    rw [List.length_map, List.length_take] at lengths
    omega
  -- The parts follow in the order of the definition's fields.
  refine ⟨?_, ?_, consume_emptied, consume_fill_bounds nonneg positive, rfl, ?_, ?_, ?_, ?_, ?_, ?_,
    ?_, ?_, ?_⟩
  · rw [crossing_eq_filter]
    exact (ok.priority _).filter _
  · rw [← crossing]
    exact consume_front
  · simp only [PlainBook.place, PlainBook.tradesOf, List.map_map]
    rfl
  · intro trade member
    obtain ⟨fill, inside, rfl⟩ := List.mem_map.mp member
    have crossed := List.mem_takeWhile_imp (consume_fill_mem inside)
    unfold crosses at crossed
    unfold withinLimit
    cases side : order.side <;> simpa [side, tradeAgainst] using crossed
  · intro trade member
    obtain ⟨fill, _, rfl⟩ := List.mem_map.mp member
    cases side : order.side <;> simp [Trade.ownId, tradeAgainst, tradeOrders, side]
  · rw [← crossing]
    exact (tradesOf_quantity book order).trans (consume_taken nonneg positive)
  · have traded := tradesOf_quantity book order
    show (book.taken order).left = order.quantity - ((book.tradesOf order).map Trade.quantity).sum
    omega
  · rw [place_opposite, ← split, List.drop_append_of_le_length count, ← List.append_assoc]
    congr 1
    exact consume_kept nonneg
  · rw [place_own]
    show _ = if 0 < (book.taken order).left then _ else _
    -- The two conditions on what is left are each other's negation.
    by_cases zero : (book.taken order).left = 0
    · rw [if_pos zero, if_neg (by omega)]
    · rw [if_neg zero, if_pos (by omega)]
      rfl
  · show _ ↔ 0 < (book.taken order).left
    constructor
    · -- An order of that identifier is the newcomer, for the book has no other.
      rintro ⟨rested, member, named, _⟩
      obtain ⟨side, inside⟩ := PlainBook.mem_allResting.mp member
      rcases place_origin inside with ⟨before, rests, stems⟩ | ⟨_, _, _, _, left⟩
      · exact absurd (stems.order_eq ▸ named)
          (fresh before (PlainBook.mem_allResting.mpr ⟨side, rests⟩))
      · omega
    · intro left
      refine ⟨⟨order, (book.taken order).left, book.sequence + 1, restedAt⟩,
        PlainBook.mem_allResting.mpr ⟨order.side, ?_⟩, rfl, rfl⟩
      rw [place_own, if_neg left.ne', PlainBook.joined, mem_insertAfter]
      exact .inl rfl
  · intro left
    rw [← crossing]
    exact ((consume_left nonneg).2 (ne_of_gt left)).2

end Place

/--
Every submit on every reachable book matches in price-time priority.

The crossing orders are those still at rest once the expiry at the start of the call has run.
-/
theorem submit_priority (config : BookConfig) (ops : List BookOp) (order : Order)
    (now restAt : ℚ) (own : order.symbol = config.symbol)
    (distinct : ((ops ++ [BookOp.submit order now restAt]).flatMap BookOp.newIds).Nodup) :
    ∃ book outputs, Machine.run OrderBook.perform (OrderBook.new config) ops = .ok (book, outputs) ∧
      ∃ cleared expired, book.expire now = .ok (cleared, expired) ∧
      ∃ answer result, book.submit order now restAt = .ok answer ∧ answer.result = .ok result ∧
        ∃ fills, MatchedInPriority cleared.plain order (cleared.plain.stamp restAt) fills result
          answer.book.plain := by
  -- The run leaves a book that knows no order of the submitted identifier.
  obtain ⟨book, outputs, ran, ready, config_eq⟩ :=
    run_ready config ops [.submit order now restAt] distinct
  obtain ⟨cleared, gone, expired, cleared_ok, later, _, _⟩ := expire_spec ready.ok now
  have fresh : cleared.index.get? order.orderId = none :=
    later.unindexed _ (ready.fresh _ (by simp [BookOp.newIds]))
  obtain ⟨book', placed, _, _, plain⟩ := place_spec cleared_ok order restAt fresh
  -- The submission expires, then it matches and rests.
  have submitted : book.submit order now restAt = .ok ⟨book',
      .ok (cleared.plain.place order (cleared.plain.stamp restAt)).2,
      expiredCalls gone ++ (PlainBook.filledCalls (cleared.plain.taken order).fills ++
        if (cleared.plain.taken order).left = 0 then [] else [.rest order.orderId])⟩ := by
    have named : ¬ order.symbol ≠ book.symbol := by
      rw [OrderBook.symbol, config_eq]
      exact not_not_intro own
    simp only [OrderBook.submit, if_neg named, expired, placed, Bind.bind, Except.bind, Pure.pure,
      Except.pure]
  refine ⟨book, outputs, ran, cleared, _, expired, _, _, submitted, rfl,
    (cleared.plain.taken order).fills, ?_⟩
  rw [plain]
  exact place_priority cleared_ok.plain_ok _ ((unindexed_iff cleared_ok.core).mp fresh)

/-- Two wanted meet five offered. -/
theorem submit_priority_minute : ∃ book outputs,
    Machine.run OrderBook.perform (OrderBook.new minuteBook) [.submit fiveOffered 0 0] =
      .ok (book, outputs) ∧
      ∃ cleared expired, book.expire 1 = .ok (cleared, expired) ∧
      ∃ answer result, book.submit twoWanted 1 1 = .ok answer ∧ answer.result = .ok result ∧
        ∃ fills, MatchedInPriority cleared.plain twoWanted (cleared.plain.stamp 1) fills result
          answer.book.plain :=
  submit_priority minuteBook [.submit fiveOffered 0 0] twoWanted 1 1 (by decide) (by decide)

end StockMarket
