import StockMarket.Deployment.WireViews
import StockMarket.Orderbook.Priority
import StockMarket.Orderbook.ReferenceLaws

/-! What the runner learns over the wire, in every state that bytes of any kind lead to. -/

namespace StockMarket

/-- The levels that a book shows. -/
def OrderBook.shown (book : OrderBook) : BookSnapshot :=
  ⟨book.symbol, priceLevels (book.plain.resting .buy), priceLevels (book.plain.resting .sell)⟩

section Books

variable {book book' : OrderBook} {response : Response} {clock : Readings}

/-- Levels of orders with positive numbers have positive numbers. -/
theorem priceLevels_positive {resting : List Rested}
    (positive : ∀ rested ∈ resting, 1 ≤ rested.remainingQuantity) :
    ∀ level ∈ priceLevels resting, 1 ≤ level.price ∧ 1 ≤ level.quantity := by
  induction resting with
  | nil => exact fun _ member => absurd member List.not_mem_nil
  | cons first rest ih =>
    have own : 1 ≤ first.order.price ∧ 1 ≤ first.remainingQuantity :=
      ⟨first.order.price_pos, positive first List.mem_cons_self⟩
    have later := ih fun other member => positive other (List.mem_cons_of_mem _ member)
    cases levels : priceLevels rest with
    | nil =>
      simp only [priceLevels, levels, List.mem_singleton, forall_eq]
      exact own
    | cons head others =>
      rw [levels] at later
      obtain ⟨behind, further⟩ := List.forall_mem_cons.mp later
      -- The first order joins the level at its price, or stands at a level of its own.
      simp only [priceLevels, levels]
      split_ifs
      · exact List.forall_mem_cons.mpr ⟨⟨behind.1, by show 1 ≤ _ + _; omega⟩, further⟩
      · exact List.forall_mem_cons.mpr ⟨own, later⟩

/-- The numbers that a book shows are positive. -/
theorem shown_positive (ok : BookOk book) : ∀ level ∈ book.shown.bids ++ book.shown.asks,
    1 ≤ level.price ∧ 1 ≤ level.quantity := by
  -- What is shown of a side are sums of quantities that rest there.
  have side (side : OrderSide) : ∀ level ∈ priceLevels (book.plain.resting side),
      1 ≤ level.price ∧ 1 ≤ level.quantity :=
    priceLevels_positive fun rested member =>
      ok.plain_ok.positive rested (PlainBook.mem_allResting.mpr ⟨side, member⟩)
  intro level member
  rcases List.mem_append.mp member with bid | ask
  · exact side .buy level bid
  · exact side .sell level ask

/-- A look at the levels shows the book as the look leaves it. -/
theorem look_shown (ok : BookOk book) {now : ℚ}
    (ran : book.look (.snapshot now) snapshotAnswer = .ok (book', response)) :
    BookOk book' ∧ response = ⟨200, .snapshot book'.shown⟩ := by
  obtain ⟨book₁, reply, calls, gone, expired, ran₁, done⟩ :=
    perform_spec ok (.snapshot now) (by simp [BookOp.newIds])
  simp only [OrderBook.look, ran₁, Bind.bind, Except.bind, Pure.pure, Except.pure] at ran
  cases ran
  refine ⟨done.ok, ?_⟩
  -- Showing the book changes nothing after expiry.
  have plain : book'.plain = expired := done.plain_eq
  have symbol : book'.symbol = expired.config.symbol :=
    congrArg (fun shown : PlainBook => shown.config.symbol) plain
  rw [done.reply_eq, OrderBook.shown, plain, symbol]
  rfl

/-- Reading the depths leaves some of the orders at rest, and all of them without a maximum age. -/
theorem readDepths_resting (ok : BookOk book) (ran : book.readDepths clock = .ok book') :
    (∀ rested ∈ book'.plain.allResting, rested ∈ book.plain.allResting) ∧
      (book.config.maxAgeSeconds = 0 → book'.plain = book.plain) := by
  -- Both reads let overdue orders expire, and do nothing else.
  obtain ⟨book₁, reply₁, calls₁, _, _, ran₁, done₁⟩ :=
    perform_spec ok (.totalQuantity .buy clock.buyDepthAt) (by simp [BookOp.newIds])
  obtain ⟨book₂, reply₂, calls₂, _, _, ran₂, done₂⟩ :=
    perform_spec done₁.ok (.totalQuantity .sell clock.sellDepthAt) (by simp [BookOp.newIds])
  simp only [OrderBook.readDepths, ran₁, ran₂, Bind.bind, Except.bind, Pure.pure, Except.pure] at ran
  cases ran
  have first : book₁.plain = _ := done₁.plain_eq
  have second : book'.plain = _ := done₂.plain_eq
  constructor
  · intro rested member
    obtain ⟨side, inside⟩ := PlainBook.mem_allResting.mp member
    rw [second] at inside
    have before := done₂.expired_sub inside
    rw [first] at before
    exact PlainBook.mem_allResting.mpr ⟨side, done₁.expired_sub before⟩
  · -- Without a maximum age neither read lets an order expire.
    intro ageless
    have still : book₁.config.maxAgeSeconds = 0 := done₁.config_eq ▸ ageless
    rw [second, PlainBook.act, done₂.expired_ageless still, first, PlainBook.act,
      done₁.expired_ageless ageless]

/-- What an accepted order leaves: executions within its limit, and the rest of it at rest. -/
structure OrderOutcome (order : Order) (result : MatchResult) (after : OrderBook) : Prop where
  named : result.orderId = order.orderId
  nonneg : 0 ≤ result.remainingQuantity
  balance : (result.trades.map Trade.quantity).sum + result.remainingQuantity = order.quantity
  limited : ∀ trade ∈ result.trades, withinLimit order trade.price
  own_side : ∀ trade ∈ result.trades, trade.ownId order.side = order.orderId
  resting : ∀ rested ∈ after.plain.allResting, rested.order.orderId = order.orderId →
    rested.order = order ∧ rested.remainingQuantity = result.remainingQuantity
  rests_iff : after.config.maxAgeSeconds = 0 →
    (order.orderId ∈ after.plain.ids ↔ 0 < result.remainingQuantity)

/-- Placing an order of the book's own symbol has the outcome of an accepted order. -/
theorem placeOrder_outcome (ok : BookOk book) {order : Order} (own : order.symbol = book.symbol)
    (fresh : order.orderId ∉ book.plain.ids)
    (ran : book.placeOrder clock order = .ok (book', response)) :
    ∃ result, response = ⟨201, .matchResult result⟩ ∧ OrderOutcome order result book' := by
  obtain ⟨book₁, reply, calls, gone, expired, ran₁, done⟩ :=
    perform_spec ok (.submit order clock.bookAt clock.restAt) (by
      intro orderId new
      rw [List.mem_singleton.mp new]
      exact (unindexed_iff_ids ok).mpr fresh)
  have own' : order.symbol = expired.config.symbol :=
    own.trans (congrArg BookConfig.symbol done.expired_eq.1).symm
  have matched := done.reply_eq
  have placed := done.plain_eq
  rw [act_submit_own own'] at matched placed
  -- No order that is left after expiry has the new identifier.
  have absent : ∀ rested ∈ expired.allResting, rested.order.orderId ≠ order.orderId := by
    intro rested member same
    obtain ⟨side, inside⟩ := PlainBook.mem_allResting.mp member
    refine fresh (same ▸ List.mem_map_of_mem ?_)
    exact PlainBook.mem_allResting.mpr ⟨side, done.expired_sub inside⟩
  have priority := place_priority (done.expired_ok ok) (expired.stamp clock.restAt) absent
  rw [matched] at ran₁
  simp only [OrderBook.placeOrder, ran₁, Bind.bind, Except.bind, Pure.pure, Except.pure] at ran
  -- The depths are read after the match, which may expire orders but adds none.
  cases read : book₁.readDepths clock with
  | error fault =>
    rw [read] at ran
    cases ran
  | ok book₂ =>
    rw [read] at ran
    cases ran
    obtain ⟨kept, still⟩ := readDepths_resting done.ok read
    have config : book₁.config = book.config := done.config_eq
    -- An order that is left under the identifier is the new one.
    have left : ∀ rested ∈ book₁.plain.allResting, rested.order.orderId = order.orderId →
        rested.order = order ∧ rested.remainingQuantity =
          (expired.place order (expired.stamp clock.restAt)).2.remainingQuantity := by
      intro rested member same
      obtain ⟨side, inside⟩ := PlainBook.mem_allResting.mp member
      rw [placed] at inside
      rcases place_origin inside with ⟨before, was, stems⟩ | ⟨new, _, _, remaining, _⟩
      · have earlier := absent before (PlainBook.mem_allResting.mpr ⟨side, was⟩)
        rw [← stems.order_eq] at earlier
        exact absurd same earlier
      · exact ⟨new, remaining⟩
    -- What is left of the order is not negative.
    have nonneg : 0 ≤ (expired.taken order).left := (consume_left order.quantity_pos.le).1
    refine ⟨_, rfl, rfl, nonneg, ?_, priority.limited, priority.own_side,
      fun rested member => left rested (kept rested member), fun ageless => ?_⟩
    · have remaining := priority.remaining_eq
      omega
    · -- Without a maximum age the reads of the depths take nothing out.
      have same : book'.config = book₁.config := (readDepths_evolved done.ok read).config_eq
      rw [same] at ageless
      have plain := still ageless
      rw [PlainBook.ids, plain, placed, List.mem_map, ← priority.rests_iff]
      constructor
      · rintro ⟨rested, member, identified⟩
        have inside := member
        rw [← placed] at inside
        exact ⟨rested, member, identified, (left rested inside identified).2⟩
      · rintro ⟨rested, member, identified, _⟩
        exact ⟨rested, member, identified⟩

/-- The book that a symbol's requests work on is in order, and holds known orders only. -/
theorem MatcherOk.bookOrNew_spec {settings : MatcherSettings} {registry : Registry}
    (ok : MatcherOk settings registry) {symbol : String} (named : isBlank symbol = false) :
    BookOk (registry.bookOrNew settings symbol named) ∧
      (registry.bookOrNew settings symbol named).symbol = symbol ∧
      ∀ orderId ∈ (registry.bookOrNew settings symbol named).plain.ids,
        orderId ∈ registry.restingIds := by
  -- A new book holds nothing, and one that is there is as good as any.
  unfold Registry.bookOrNew
  cases here : registry.bookOf symbol with
  | some book =>
    obtain ⟨book_ok, own, _⟩ := ok.book_ok here
    exact ⟨book_ok, own, fun orderId member => resting_of_bookOf here member⟩
  | none => exact ⟨new_ok _, rfl, fun orderId member => absurd member List.not_mem_nil⟩

end Books

section Intents

variable {intent : OrderIntent} {orderId : UUID}

/-- An intent that the checks of an order let through. -/
structure OrderIntent.Acceptable (intent : OrderIntent) : Prop where
  stripped : strip intent.userId = intent.userId
  present : intent.userId ≠ ""
  short : intent.userId.length ≤ 128
  clean : '\x00' ∉ intent.userId.toList
  ticker : Cluster.isTicker intent.symbol = true
  price_pos : 1 ≤ intent.price
  quantity_pos : 1 ≤ intent.quantity

/-- The order that an intent becomes. -/
structure Order.Meant (order : Order) (intent : OrderIntent) (orderId : UUID) : Prop where
  userId_eq : order.userId = intent.userId
  symbol_eq : order.symbol = intent.symbol
  side_eq : order.side = intent.side
  price_eq : order.price = intent.price
  quantity_eq : order.quantity = intent.quantity
  orderId_eq : order.orderId = orderId

/-- An acceptable intent becomes an order under the identifier that is drawn for it. -/
theorem createOrder_intent (acceptable : intent.Acceptable) (orderId : UUID) : ∃ order,
    OrderData.createOrder orderId (.given ⟨.given intent.userId, .given intent.symbol,
      .given intent.side.value, .given intent.price, .given intent.quantity⟩) = .ok order ∧
    order.Meant intent orderId := by
  -- Each field of an acceptable intent is accepted as it is.
  have user : charField 128 (.given intent.userId) = .ok intent.userId := by
    simp only [charField, acceptable.stripped, if_neg acceptable.present,
      if_neg (Nat.not_lt.mpr acceptable.short), if_neg acceptable.clean, List.append_nil, if_true]
  have symbol := Cluster.charField_ticker acceptable.ticker
  have side : sideField (.given intent.side.value) = .ok intent.side := by
    cases intent.side <;> rfl
  have price : integerField 1 none (.given intent.price) = .ok intent.price := by
    simp only [integerField, if_neg (Int.not_lt.mpr acceptable.price_pos)]
  have quantity : integerField 1 none (.given intent.quantity) = .ok intent.quantity := by
    simp only [integerField, if_neg (Int.not_lt.mpr acceptable.quantity_pos)]
  have present : isBlank intent.userId = false :=
    decide_eq_false (acceptable.stripped.symm ▸ acceptable.present)
  have named := Cluster.isBlank_of_isTicker acceptable.ticker
  have priced : 0 < intent.price := by
    have positive := acceptable.price_pos
    omega
  have sized : 0 < intent.quantity := by
    have positive := acceptable.quantity_pos
    omega
  -- The order's own checks are those that the fields have passed.
  have created : Order.create intent.userId intent.symbol intent.side intent.price intent.quantity
      orderId = .ok ⟨intent.userId, intent.symbol, intent.side, intent.price, intent.quantity,
        orderId, present, named, priced, sized⟩ := by
    rw [Order.create, dif_pos present, dif_pos named, dif_pos priced, dif_pos sized]
  refine ⟨⟨intent.userId, intent.symbol, intent.side, intent.price, intent.quantity, orderId, present,
    named, priced, sized⟩, ?_, ⟨rfl, rfl, rfl, rfl, rfl, rfl⟩⟩
  simp only [OrderData.createOrder, user, symbol, side, price, quantity, created]

end Intents

end StockMarket
