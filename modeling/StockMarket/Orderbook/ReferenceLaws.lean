import StockMarket.Orderbook.ReferenceBook
import StockMarket.Orderbook.Runs

/-! The indexed book answers every run of operations like the list-based oracle. -/

namespace StockMarket

/-- The oracle's lists show the orders of a plain book. -/
structure Mirrors (reference : ReferenceBook) (book : PlainBook) : Prop where
  symbol_eq : reference.symbol = book.config.symbol
  capacity_eq : reference.recentTradeCapacity = book.config.recentTradeCapacity
  orders_eq : ∀ side, reference.orders side = (book.resting side).map Rested.asOpenOrder
  trades_eq : reference.recentTrades = book.tape
  sequence_eq : reference.sequence = book.sequence

section Match

/-- The oracle's loop ends once nothing is left to match. -/
theorem referenceLoop_done (symbol : String) (order : Order) (fuel : Nat)
    (opposing : List OpenOrder) :
    ReferenceBook.matchLoop symbol order (fuel + 1) opposing 0 = .ok (opposing, 0, []) := by
  cases opposing with
  | nil => rfl
  | cons first rest => rw [ReferenceBook.matchLoop, if_pos (.inl rfl)]

/-- The oracle's loop takes a quantity from the front of the crossing orders. -/
theorem referenceLoop_spec (symbol : String) (order : Order) :
    ∀ (fuel : Nat) (resting : List Rested) (remaining : Int), 0 ≤ remaining → remaining < fuel →
    (∀ rested ∈ resting, 1 ≤ rested.remainingQuantity) →
    let taken := consume Rested.remainingQuantity Rested.reduce remaining
      (resting.takeWhile fun rested => crosses order rested.order)
    ReferenceBook.matchLoop symbol order fuel (resting.map Rested.asOpenOrder) remaining =
      .ok ((taken.kept ++ resting.dropWhile fun rested => crosses order rested.order).map
          Rested.asOpenOrder, taken.left,
        taken.fills.map fun fill => tradeAgainst symbol order fill.1.order fill.2) := by
  -- A partly filled front order ends the loop in the next iteration.
  intro fuel
  induction fuel with
  | zero => intro resting remaining nonneg bounded; omega
  | succ fuel ih =>
    intro resting remaining nonneg bounded positive
    cases resting with
    | nil => rfl
    | cons first rest =>
      -- Every maker holds something, so each round brings the loop closer to its end.
      have head := positive first (by simp)
      have others : ∀ rested ∈ rest, 1 ≤ rested.remainingQuantity :=
        fun rested member => positive rested (by simp [member])
      have shown : first.asOpenOrder.order = first.order ∧
        first.asOpenOrder.remainingQuantity = first.remainingQuantity := ⟨rfl, rfl⟩
      rw [List.map_cons, ReferenceBook.matchLoop, shown.1, shown.2]
      by_cases reach : crosses order first.order = true
      swap
      · -- The first order is out of reach, and so the loop stops.
        have unreached : ¬ crosses order first.order = true := reach
        rw [if_pos (.inr unreached)]
        simp [reach, consume]
      by_cases zero : remaining = 0
      · -- The incoming order is used up, and so the loop stops.
        rw [if_pos (.inl zero)]
        subst zero
        simp only [consume_zero, List.takeWhile_append_dropWhile, List.map_cons, List.map_nil]
      · rw [if_neg (by simp [zero, reach])]
        simp only [List.takeWhile_cons, List.dropWhile_cons, reach, if_true, consume, if_neg zero]
        by_cases partly : remaining < first.remainingQuantity
        · -- The maker is left with a part, and the next round stops at once.
          have fuel_pos : ∃ less, fuel = less + 1 := ⟨fuel - 1, by omega⟩
          obtain ⟨less, rfl⟩ := fuel_pos
          have split := List.takeWhile_append_dropWhile (l := rest)
            (p := fun rested => crosses order rested.order)
          simp only [min_eq_left partly.le, if_neg partly.ne, if_pos partly, sub_self,
            referenceLoop_done, Bind.bind, Except.bind, Pure.pure, Except.pure, List.cons_append,
            split, List.map_cons, List.map_nil]
          rfl
        · -- The maker is filled, and the others are matched with what remains.
          have smaller := ih rest (remaining - first.remainingQuantity) (by omega) (by omega) others
          simp only at smaller
          simp only [min_eq_right (not_lt.mp partly), if_true, smaller, if_neg partly, Bind.bind,
            Except.bind, Pure.pure, Except.pure, List.map_cons]

end Match

section Sorting

variable {book : PlainBook}

/-- Appending a newcomer and sorting puts it where priority does. -/
theorem sortOrders_append (ok : PlainOk book) (order : Order) (remaining : Int) (restedAt : ℚ) :
    ReferenceBook.sortOrders order.side ((book.resting order.side).map Rested.asOpenOrder ++
        [⟨order, remaining, book.sequence + 1⟩]) =
      (PlainBook.joined order.side ⟨order, remaining, book.sequence + 1, restedAt⟩
        (book.resting order.side)).map Rested.asOpenOrder := by
  set newcomer : Rested := ⟨order, remaining, book.sequence + 1, restedAt⟩ with newcomer_eq
  set before := fun first second : OpenOrder =>
    ReferenceBook.sortKey order.side first ≤ ReferenceBook.sortKey order.side second with before_eq
  have before_iff : ∀ first second : Rested, before first.asOpenOrder second.asOpenOrder ↔
      order.side.key first.order.price < order.side.key second.order.price ∨
        (first.order.price = second.order.price ∧ first.sequence ≤ second.sequence) := by
    intro first second
    rw [before_eq]
    simp only [ReferenceBook.sortKey, Prod.Lex.toLex_le_toLex, Rested.asOpenOrder, OrderSide.key_inj]
  -- Every number at rest is below that of the newcomer.
  have located : ∀ rested ∈ book.resting order.side, rested.sequence ≤ book.sequence :=
    fun rested member => (ok.located rested (PlainBook.mem_allResting.mpr ⟨_, member⟩)).2
  -- Both lists hold the same orders in the order of their keys, which tell them apart.
  have appended : (book.resting order.side).map Rested.asOpenOrder ++ [newcomer.asOpenOrder] =
      (book.resting order.side ++ [newcomer]).map Rested.asOpenOrder := by simp
  have perm : (ReferenceBook.sortOrders order.side
      ((book.resting order.side).map Rested.asOpenOrder ++ [newcomer.asOpenOrder])).Perm
      ((PlainBook.joined order.side newcomer (book.resting order.side)).map Rested.asOpenOrder) := by
    refine (List.perm_insertionSort _ _).trans ?_
    rw [appended]
    exact ((List.perm_append_comm).trans (insertAfter_perm _ _ _).symm).map _
  -- The newcomer comes behind all orders of its price.
  have sorted : ((PlainBook.joined order.side newcomer (book.resting order.side)).map
      Rested.asOpenOrder).Pairwise before := by
    rw [List.pairwise_map]
    refine pairwise_insertAfter (fun first second third => ?_)
      ((ok.priority order.side).imp fun ahead => ?_) (fun rested member stays => ?_)
      fun rested member leaves => ?_
    · exact le_trans
    · exact (before_iff _ _).mpr (ahead.imp id fun same => ⟨same.1, same.2.le⟩)
    · -- The newcomer stands behind all orders of its price, which have lower numbers.
      refine (before_iff _ _).mpr ?_
      rcases lt_or_eq_of_le (of_decide_eq_true stays) with less | same
      · exact .inl less
      · exact .inr ⟨OrderSide.key_inj.mp same, (located rested member).trans (Nat.le_succ _)⟩
    · exact (before_iff _ _).mpr (.inl (not_le.mp fun stays => leaves (decide_eq_true stays)))
  have distinct : ∀ first ∈ newcomer :: book.resting order.side,
      ∀ second ∈ newcomer :: book.resting order.side,
      first.sequence = second.sequence → first = second := by
    intro first member second member' same
    -- Numbers tell the orders apart, the newcomer from the old ones as well.
    rcases List.mem_cons.mp member with rfl | inside <;>
      rcases List.mem_cons.mp member' with rfl | inside'
    · rfl
    · have bound := located second inside'
      rw [← same] at bound
      exact absurd bound (Nat.not_succ_le_self _)
    · have bound := located first inside
      rw [same] at bound
      exact absurd bound (Nat.not_succ_le_self _)
    · exact List.inj_on_of_nodup_map ok.placed (PlainBook.mem_allResting.mpr ⟨_, inside⟩)
        (PlainBook.mem_allResting.mpr ⟨_, inside'⟩) same
  -- Every order of the list is one of those that rest, or the newcomer.
  have origin : ∀ item ∈ (PlainBook.joined order.side newcomer (book.resting order.side)).map
      Rested.asOpenOrder, ∃ rested ∈ newcomer :: book.resting order.side,
      rested.asOpenOrder = item := by
    intro item member
    obtain ⟨rested, inside, rfl⟩ := List.mem_map.mp member
    exact ⟨rested, (insertAfter_perm _ _ _).subset inside, rfl⟩
  -- Two sorted lists of the same orders are equal when ties are excluded.
  refine @List.Perm.eq_of_pairwise _ before _ _ (fun first second member member' forth back => ?_)
    (List.pairwise_insertionSort _ _) sorted perm
  obtain ⟨rested, inside, rfl⟩ := origin first (perm.subset member)
  obtain ⟨other, inside', rfl⟩ := origin second member'
  have forth' := (before_iff _ _).mp forth
  have back' := (before_iff _ _).mp back
  have together : rested.sequence = other.sequence := by
    rcases forth' with forth | ⟨same, forth⟩ <;> rcases back' with back | ⟨same', back⟩
    · omega
    · rw [same'] at forth; exact absurd forth (lt_irrefl _)
    · rw [same] at back; exact absurd back (lt_irrefl _)
    · omega
  rw [distinct rested inside other inside' together]

end Sorting

section Levels

/-- Later orders at the first price add to its level. -/
theorem priceLevels_merge {first second : Rested} {rest : List Rested}
    (same : second.order.price = first.order.price) :
    priceLevels (first :: second :: rest) =
      priceLevels ({ first with
        remainingQuantity := first.remainingQuantity + second.remainingQuantity } :: rest) := by
  simp only [priceLevels]
  cases levels : priceLevels rest with
  | nil => simp [same]
  | cons level later =>
    -- The level behind is of the same price, or begins another one.
    by_cases joins : level.price = first.order.price
    · simp [same, joins, add_assoc]
    · simp [same, joins]

/-- An order at another price opens a level of its own. -/
theorem priceLevels_apart {first second : Rested} {rest : List Rested}
    (apart : second.order.price ≠ first.order.price) :
    priceLevels (first :: second :: rest) =
      ⟨first.order.price, first.remainingQuantity⟩ :: priceLevels (second :: rest) := by
  -- A list of one order is a block of its own.
  have levels := @priceLevels_block [first] (second :: rest) first.order.price (by simp) (by simp)
    (fun rested head => by obtain rfl := Option.some.inj head; exact apart)
  simpa [supply] using levels

/-- Summing by price in order of first appearance gives the runs of a list sorted by price. -/
theorem quantitiesByPrice_items {side : OrderSide} : ∀ (rest : List Rested) (first : Rested)
    (before : List (Int × Int)) (quantities : Dict Int Int),
    quantities.items = before ++ [(first.order.price, first.remainingQuantity)] →
    (first :: rest).Pairwise (fun a b => side.key a.order.price ≤ side.key b.order.price) →
    (∀ rested ∈ first :: rest, rested.order.price ∉ before.map Prod.fst) →
    (ReferenceBook.quantitiesByPrice (rest.map Rested.asOpenOrder) quantities).items =
      before ++ (priceLevels (first :: rest)).map fun level => (level.price, level.quantity) := by
  -- The last item is the level being summed, and an order at another price starts the next one.
  intro rest
  induction rest with
  | nil => intro first before quantities last _ _; exact last
  | cons second rest ih =>
    intro first before quantities last sorted absent
    have order := List.pairwise_cons.mp sorted
    have step : ReferenceBook.quantitiesByPrice ((second :: rest).map Rested.asOpenOrder) quantities =
        ReferenceBook.quantitiesByPrice (rest.map Rested.asOpenOrder)
          (quantities.set second.order.price
            ((quantities.get? second.order.price).getD 0 + second.remainingQuantity)) := rfl
    rw [step]
    by_cases same : second.order.price = first.order.price
    · -- The price is that of the last item, so its quantity grows.
      have stored : quantities.get? second.order.price = some first.remainingQuantity :=
        Dict.get?_eq_some_iff.mpr (by rw [last, same]; simp)
      rw [priceLevels_merge same, stored, same]
      refine ih { first with
        remainingQuantity := first.remainingQuantity + second.remainingQuantity } before _
        (Dict.items_set_last last _) ?_ fun rested member => ?_
      · exact List.pairwise_cons.mpr ⟨fun rested member => order.1 rested (by simp [member]),
          (List.pairwise_cons.mp order.2).2⟩
      · rcases List.mem_cons.mp member with rfl | inside
        · exact absent first (by simp)
        · exact absent rested (by simp [inside])
    · -- The list is sorted, so none of the later orders has the price of the first.
      have next : ∀ rested ∈ second :: rest, rested.order.price ≠ first.order.price := by
        intro rested member equal
        have low := order.1 second (by simp)
        have high : side.key second.order.price ≤ side.key rested.order.price := by
          rcases List.mem_cons.mp member with rfl | inside
          · exact le_refl _
          · exact (List.pairwise_cons.mp order.2).1 rested inside
        rw [equal] at high
        exact same (OrderSide.key_inj.mp (le_antisymm high low))
      have apart : ∀ rested ∈ second :: rest, rested.order.price ∉ quantities.items.map Prod.fst := by
        intro rested member listed
        rw [last, List.map_append, List.mem_append] at listed
        rcases listed with listed | listed
        · exact absent rested (by simp [List.mem_cons.mp member]) listed
        · exact next rested member (by simpa using listed)
      -- The price is new, so its level is added behind the others.
      have unstored : quantities.get? second.order.price = none := by
        refine Option.eq_none_iff_forall_not_mem.mpr fun value stored => ?_
        exact apart second (by simp) (List.mem_map_of_mem (Dict.get?_eq_some_iff.mp stored))
      rw [priceLevels_apart same, unstored, Option.getD_none, zero_add, List.map_cons,
        List.append_cons]
      refine ih second _ _ ?_ order.2 fun rested member => ?_
      · rw [Dict.items_set_new (apart second (by simp)), last]
      · rw [← last]
        exact apart rested member

/-- The oracle's levels are the price levels of a sorted list. -/
theorem levels_eq {side : OrderSide} {resting : List Rested}
    (sorted : resting.Pairwise fun a b => side.key a.order.price ≤ side.key b.order.price) :
    ReferenceBook.levels (resting.map Rested.asOpenOrder) = priceLevels resting := by
  cases resting with
  | nil => rfl
  -- Summing starts with the first order as the only item.
  | cons first rest =>
    have items := quantitiesByPrice_items rest first []
      (Dict.empty.set first.order.price first.remainingQuantity) rfl sorted fun _ _ => by simp
    have start : ReferenceBook.quantitiesByPrice ((first :: rest).map Rested.asOpenOrder) .empty =
        ReferenceBook.quantitiesByPrice (rest.map Rested.asOpenOrder)
          (Dict.empty.set first.order.price (0 + first.remainingQuantity)) := rfl
    rw [ReferenceBook.levels, start, zero_add, items, List.nil_append, List.map_map]
    exact List.map_id _

end Levels

section Steps

variable {reference : ReferenceBook} {book : PlainBook}

/-- Popping by identifier finds what searching finds, and leaves the others. -/
theorem popOrder_eq (orderId : UUID) (resting : List Rested)
    (named : (resting.map fun rested => rested.order.orderId).Nodup) :
    ReferenceBook.popOrder orderId (resting.map Rested.asOpenOrder) =
      (resting.find? fun rested => rested.order.orderId = orderId).map fun rested =>
        (rested.asOpenOrder,
          (resting.filter fun other => other.order.orderId ≠ orderId).map Rested.asOpenOrder) := by
  induction resting with
  | nil => rfl
  | cons first rest ih =>
    have tail := List.nodup_cons.mp named
    have shown : first.asOpenOrder.order = first.order := rfl
    by_cases same : first.order.orderId = orderId
    · -- No later order has the identifier, so dropping it changes nothing.
      have others : rest.filter (fun other => other.order.orderId ≠ orderId) = rest := by
        refine List.filter_eq_self.mpr fun other member => decide_eq_true fun equal => tail.1 ?_
        exact List.mem_map.mpr ⟨other, member, equal.trans same.symm⟩
      rw [List.map_cons, ReferenceBook.popOrder, shown, if_pos same,
        List.find?_cons_of_pos (by simpa using same), List.filter_cons_of_neg (by simpa using same),
        others]
      rfl
    · -- The search goes on behind the first order in both.
      rw [List.map_cons, ReferenceBook.popOrder, shown, if_neg same, ih tail.2,
        List.find?_cons_of_neg (by simpa using same), List.filter_cons_of_pos (by simpa using same)]
      cases rest.find? fun rested => decide (rested.order.orderId = orderId) <;> rfl

/-- The oracle's cancel takes out the same order. -/
theorem reference_cancel (mirrors : Mirrors reference book) (ok : PlainOk book) (orderId : UUID) :
    (reference.cancel orderId).2 = (book.takeOut orderId).2 ∧
      Mirrors (reference.cancel orderId).1 (book.takeOut orderId).1 := by
  -- Identifiers are distinct over both sides together.
  have named := ok.named
  rw [PlainBook.allResting, List.map_append, List.nodup_append'] at named
  have bids : reference.bids = (book.resting .buy).map Rested.asOpenOrder := mirrors.orders_eq .buy
  have asks : reference.asks = (book.resting .sell).map Rested.asOpenOrder := mirrors.orders_eq .sell
  -- Dropping an identifier from the side that lacks it changes nothing.
  have unchanged : ∀ side, (book.resting side).find? (fun rested => rested.order.orderId = orderId) =
      none → (book.resting side).filter (fun other => other.order.orderId ≠ orderId) =
        book.resting side := fun side absent =>
    List.filter_eq_self.mpr fun other member => by
      simpa using List.find?_eq_none.mp absent other member
  simp only [ReferenceBook.cancel, bids, asks, popOrder_eq orderId _ named.1,
    popOrder_eq orderId _ named.2.1, PlainBook.takeOut, PlainBook.find?, PlainBook.allResting,
    List.find?_append]
  cases bid : (book.resting .buy).find? fun rested => decide (rested.order.orderId = orderId) with
  -- The order is a bid, so the asks are left alone.
  | some rested =>
    refine ⟨rfl, mirrors.symbol_eq, mirrors.capacity_eq, fun side => ?_, mirrors.trades_eq,
      mirrors.sequence_eq⟩
    cases side with
    | buy => rfl
    | sell =>
      -- An identifier is found on one side only.
      have absent : (book.resting .sell).find? (fun rested => rested.order.orderId = orderId) =
          none := by
        refine List.find?_eq_none.mpr fun other member matched => ?_
        have same : rested.order.orderId = orderId := of_decide_eq_true (List.find?_some bid :)
        refine named.2.2 (List.mem_map_of_mem (List.mem_of_find?_eq_some bid)) ?_
        rw [same, ← of_decide_eq_true matched]
        exact List.mem_map_of_mem member
      show (book.resting .sell).map _ = ((book.resting .sell).filter
        fun other => decide (other.order.orderId ≠ orderId)).map _
      rw [unchanged .sell absent]
  | none =>
    cases ask : (book.resting .sell).find? fun rested => decide (rested.order.orderId = orderId) with
    -- The order is an ask, so the bids are left alone.
    | some rested =>
      refine ⟨rfl, mirrors.symbol_eq, mirrors.capacity_eq, fun side => ?_, mirrors.trades_eq,
        mirrors.sequence_eq⟩
      cases side with
      | buy =>
        show (book.resting .buy).map _ = ((book.resting .buy).filter
          fun other => decide (other.order.orderId ≠ orderId)).map _
        rw [unchanged .buy bid]
      | sell => rfl
    | none => exact ⟨rfl, mirrors⟩

/-- Replacing the list of one side mirrors replacing its resting orders. -/
theorem Mirrors.set (mirrors : Mirrors reference book) (side : OrderSide) (resting : List Rested) :
    Mirrors (reference.setOrders side (resting.map Rested.asOpenOrder))
      (book.setResting side resting) where
  symbol_eq := by cases side <;> exact mirrors.symbol_eq
  capacity_eq := by cases side <;> exact mirrors.capacity_eq
  orders_eq other := by
    have bids := mirrors.orders_eq .buy
    have asks := mirrors.orders_eq .sell
    -- A write to one side leaves the other one.
    cases side <;> cases other
    · rfl
    · exact asks
    · exact bids
    · rfl
  trades_eq := by cases side <;> exact mirrors.trades_eq
  sequence_eq := by cases side <;> exact mirrors.sequence_eq

/-- Resting an order is mirrored where sorting puts it in its place. -/
theorem Mirrors.rest {order : Order} {remaining : Int} {restedAt : ℚ}
    (mirrors : Mirrors reference book)
    (sorted : ReferenceBook.sortOrders order.side
        ((book.resting order.side).map Rested.asOpenOrder ++
          [⟨order, remaining, book.sequence + 1⟩]) =
      (PlainBook.joined order.side ⟨order, remaining, book.sequence + 1, restedAt⟩
        (book.resting order.side)).map Rested.asOpenOrder) :
    Mirrors (reference.rest order remaining) (book.rest order remaining restedAt) := by
  have joined := mirrors.set order.side (PlainBook.joined order.side
    ⟨order, remaining, book.sequence + 1, restedAt⟩ (book.resting order.side))
  rw [← sorted, ← mirrors.orders_eq] at joined
  -- The oracle numbers the order like the plain book does.
  have numbered : reference.rest order remaining =
      { reference.setOrders order.side (ReferenceBook.sortOrders order.side
        (reference.orders order.side ++ [⟨order, remaining, book.sequence + 1⟩])) with
        sequence := book.sequence + 1 } := by
    rw [← mirrors.sequence_eq]
    cases side : order.side <;>
      simp only [ReferenceBook.rest, side, ReferenceBook.setOrders] <;> rfl
  rw [numbered]
  refine ⟨joined.symbol_eq, joined.capacity_eq, fun side => ?_, joined.trades_eq, rfl⟩
  have listed := joined.orders_eq side
  cases side <;> exact listed

/-- Recording the same executions is mirrored. -/
theorem Mirrors.withTape (mirrors : Mirrors reference book) (trades : List Trade) :
    Mirrors { reference with
        recentTrades := extendTape reference.recentTradeCapacity reference.recentTrades trades }
      { book with tape := extendTape book.config.recentTradeCapacity book.tape trades } where
  symbol_eq := mirrors.symbol_eq
  capacity_eq := mirrors.capacity_eq
  orders_eq side := by
    cases side
    · exact mirrors.orders_eq .buy
    · exact mirrors.orders_eq .sell
  trades_eq := by simp only [mirrors.trades_eq, mirrors.capacity_eq]
  sequence_eq := mirrors.sequence_eq

/-- The oracle's submit places the same order. -/
theorem reference_submit (mirrors : Mirrors reference book) (ok : PlainOk book) (order : Order)
    (restedAt : ℚ) (own : order.symbol = book.config.symbol) :
    ∃ reference', reference.submit order = .ok (reference', .ok (book.place order restedAt).2) ∧
      Mirrors reference' (book.place order restedAt).1 := by
  have nonneg : 0 ≤ order.quantity := order.quantity_pos.le
  have positive : ∀ rested ∈ book.resting order.side.opposite, 1 ≤ rested.remainingQuantity :=
    fun rested member => ok.positive rested (PlainBook.mem_allResting.mpr ⟨_, member⟩)
  -- The symbols agree, so the oracle does not refuse the order either.
  have named : ¬ order.symbol ≠ reference.symbol := by
    rw [mirrors.symbol_eq]
    exact not_not_intro own
  have ran : ReferenceBook.matchLoop reference.symbol order (order.quantity.toNat + 1)
      (reference.orders order.side.opposite) order.quantity =
      .ok (((book.taken order).kept ++ book.beyond order).map Rested.asOpenOrder,
        (book.taken order).left, book.tradesOf order) := by
    rw [mirrors.symbol_eq, mirrors.orders_eq]
    -- The loop has a round for each share, which is enough.
    exact referenceLoop_spec book.config.symbol order (order.quantity.toNat + 1)
      (book.resting order.side.opposite) order.quantity nonneg (by omega) positive
  set matched := reference.setOrders order.side.opposite
    (((book.taken order).kept ++ book.beyond order).map Rested.asOpenOrder) with matched_eq
  have matched_mirrors := mirrors.set order.side.opposite
    ((book.taken order).kept ++ book.beyond order)
  set next := if (book.taken order).left ≠ 0 then matched.rest order (book.taken order).left
    else matched with next_eq
  set tape := extendTape next.recentTradeCapacity next.recentTrades (book.tradesOf order)
    with tape_eq
  refine ⟨{ next with recentTrades := tape }, ?_, ?_⟩
  · rw [ReferenceBook.submit, if_neg named]
    simp only [ran, Bind.bind, Except.bind, Pure.pure, Except.pure, ← matched_eq, ← next_eq]
    rfl
  · -- Matching changes the opposite side only.
    have own_side : (book.setResting order.side.opposite
        ((book.taken order).kept ++ book.beyond order)).resting order.side =
        book.resting order.side := by
      cases side : order.side <;> simp [PlainBook.setResting, OrderSide.opposite]
    by_cases left : (book.taken order).left = 0
    · rw [if_neg (not_not_intro left)] at next_eq
      simp only [PlainBook.place, if_pos left, tape_eq, next_eq]
      exact matched_mirrors.withTape _
    · rw [if_pos left] at next_eq
      simp only [PlainBook.place, if_neg left, tape_eq, next_eq]
      refine (matched_mirrors.rest ?_).withTape _
      rw [own_side]
      exact sortOrders_append ok order _ restedAt

/-- Every operation of the oracle does what the plain book does. -/
theorem reference_perform (mirrors : Mirrors reference book) (ok : PlainOk book) (op : BookOp) :
    ∃ reference', reference.perform op = .ok (reference', (book.act op).2) ∧
      Mirrors reference' (book.act op).1 := by
  cases op with
  | submit order now restAt =>
    -- Both refuse an order for another symbol, and place any other one.
    by_cases own : order.symbol = book.config.symbol
    · obtain ⟨reference', placed, mirrors'⟩ :=
        reference_submit mirrors ok order (book.stamp restAt) own
      rw [act_submit_own own]
      exact ⟨reference', by rw [ReferenceBook.perform, placed]; rfl, mirrors'⟩
    · rw [act_submit_foreign own]
      have foreign : order.symbol ≠ reference.symbol := by rwa [mirrors.symbol_eq]
      refine ⟨reference, ?_, mirrors⟩
      rw [ReferenceBook.perform, ReferenceBook.submit, if_pos foreign, mirrors.symbol_eq]
      rfl
  | cancel orderId now =>
    obtain ⟨answered, mirrors'⟩ := reference_cancel mirrors ok orderId
    have replied : reference.perform (.cancel orderId now) = .ok ((reference.cancel orderId).1,
      .ofResult .canceled (reference.cancel orderId).2) := rfl
    exact ⟨_, by rw [replied, answered]; rfl, mirrors'⟩
  | getOpenOrder orderId now =>
    refine ⟨reference, ?_, mirrors⟩
    -- Both search the bids first and the asks after them.
    have bids : reference.bids = (book.resting .buy).map Rested.asOpenOrder :=
      mirrors.orders_eq .buy
    have asks : reference.asks = (book.resting .sell).map Rested.asOpenOrder :=
      mirrors.orders_eq .sell
    simp only [ReferenceBook.perform, ReferenceBook.getOpenOrder, bids, asks, List.find?_map,
      PlainBook.act, PlainBook.find?, PlainBook.allResting, List.find?_append, Option.map_or]
    rfl
  | openOrders side now =>
    exact ⟨reference, by rw [ReferenceBook.perform, mirrors.orders_eq]; rfl, mirrors⟩
  | snapshot now =>
    refine ⟨reference, ?_, mirrors⟩
    -- Each side is sorted by price, so the oracle's levels are its runs.
    have sorted : ∀ side, (book.resting side).Pairwise
        fun a b => side.key a.order.price ≤ side.key b.order.price := fun side =>
      (ok.priority side).imp fun ahead => by
        rcases ahead with less | ⟨same, _⟩
        · exact less.le
        · rw [same]
    have bids : ReferenceBook.levels reference.bids = priceLevels (book.resting .buy) :=
      (congrArg ReferenceBook.levels (mirrors.orders_eq .buy)).trans (levels_eq (sorted .buy))
    have asks : ReferenceBook.levels reference.asks = priceLevels (book.resting .sell) :=
      (congrArg ReferenceBook.levels (mirrors.orders_eq .sell)).trans (levels_eq (sorted .sell))
    rw [ReferenceBook.perform, ReferenceBook.snapshot, bids, asks, mirrors.symbol_eq]
    rfl
  -- The other reads are those of the list that is mirrored.
  | totalQuantity side now =>
    refine ⟨reference, ?_, mirrors⟩
    rw [ReferenceBook.perform, ReferenceBook.totalQuantity, mirrors.orders_eq, List.map_map]
    rfl
  | bestPrice side now =>
    refine ⟨reference, ?_, mirrors⟩
    rw [ReferenceBook.perform, ReferenceBook.bestPrice, mirrors.orders_eq, List.head?_map,
      Option.map_map]
    rfl
  | recentTrades limit =>
    refine ⟨reference, ?_, mirrors⟩
    rw [ReferenceBook.perform, ReferenceBook.recentTradesNewest, mirrors.trades_eq]
    rfl

end Steps

section Runs

/-- Without a maximum age the plain book only acts. -/
theorem perform_ageless {book : PlainBook} (ageless : book.config.maxAgeSeconds = 0) (op : BookOp) :
    book.perform op = book.act op := by
  simp only [PlainBook.perform]
  -- Nothing expires before the operation.
  split
  · rw [PlainBook.expireAt, if_pos ageless]
  · rfl

/-- Without a maximum age an operation acts on the book as it is. -/
theorem Performed.expired_ageless {book book' : OrderBook} {op : BookOp} {reply : BookReply}
    {calls : List Callback} {gone : List Rested} {expired : PlainBook}
    (done : Performed book op book' reply calls gone expired)
    (ageless : book.config.maxAgeSeconds = 0) : expired = book.plain := by
  have expiry := done.expiry
  unfold ExpiryOf at expiry
  split at expiry
  · -- Nobody is gone, so the book keeps all its orders.
    rw [expiry.after_eq, expiry.disabled ageless]
    simp [PlainBook.keep]
  · exact expiry.2

/-- Without a maximum age a ready book answers like its plain book and stays in step with it. -/
theorem Ready.plain_step {book : OrderBook} {op : BookOp} {later : List BookOp}
    (ready : Ready book (op :: later)) (ageless : book.config.maxAgeSeconds = 0) :
    ∃ book' reply calls, book.perform op = .ok (book', reply, calls) ∧
      reply = (book.plain.perform op).2 ∧ book'.plain = (book.plain.perform op).1 ∧
      Ready book' later ∧ book'.config.maxAgeSeconds = 0 := by
  obtain ⟨book', reply, calls, gone, expired, ran, done, ready'⟩ := ready.step
  -- Acting and performing are the same for a book without expiry.
  have acted : book.plain.perform op = expired.act op := by
    rw [done.expired_ageless ageless]
    exact perform_ageless ageless op
  rw [acted]
  exact ⟨book', reply, calls, ran, done.reply_eq, done.plain_eq, ready', done.config_eq ▸ ageless⟩

/-- Without a maximum age a run from a ready book answers like the plain book. -/
theorem Ready.run_plain {book : OrderBook} {ops : List BookOp} (ready : Ready book ops)
    (ageless : book.config.maxAgeSeconds = 0) :
    ∃ last outputs, Machine.run OrderBook.perform book ops = .ok (last, outputs) ∧
      outputs.map Prod.fst = (Machine.runTotal PlainBook.perform book.plain ops).2 ∧
      BookOk last ∧ last.plain = (Machine.runTotal PlainBook.perform book.plain ops).1 := by
  -- Without an age limit the operations of the plain book are those of the reference.
  obtain ⟨last, outputs, ran, alike, ended, _, plain⟩ := Machine.run_simulation Prod.fst
    (fun book model later => Ready book later ∧ book.config.maxAgeSeconds = 0 ∧ book.plain = model)
    (fun book model op later held => by
      obtain ⟨ready, ageless, rfl⟩ := held
      obtain ⟨book', reply, calls, ran, same, plain, ready', ageless'⟩ := ready.plain_step ageless
      exact ⟨book', (reply, calls), ran, same, ready', ageless', plain⟩)
    ops book book.plain ⟨ready, ageless, rfl⟩
  exact ⟨last, outputs, ran, alike, ended.ok, plain⟩

/-- The oracle answers every run like the plain book of a ready one. -/
theorem Mirrors.run_plain {reference : ReferenceBook} {book : OrderBook} {ops : List BookOp}
    (mirrors : Mirrors reference book.plain) (ready : Ready book ops)
    (ageless : book.config.maxAgeSeconds = 0) :
    ∃ last, Machine.run ReferenceBook.perform reference ops =
      .ok (last, (Machine.runTotal PlainBook.perform book.plain ops).2) := by
  obtain ⟨last, replies, ran, alike, _⟩ := Machine.run_simulation id
    (fun reference model later => Mirrors reference model ∧
      ∃ book, Ready book later ∧ book.config.maxAgeSeconds = 0 ∧ book.plain = model)
    (fun reference model op later held => by
      -- The plain book of a ready one stays well formed, which the oracle's step needs.
      obtain ⟨mirrors, book, ready, ageless, rfl⟩ := held
      obtain ⟨book', reply, calls, _, _, plain, ready', ageless'⟩ := ready.plain_step ageless
      obtain ⟨reference', stepped, mirrors'⟩ := reference_perform mirrors ready.ok.plain_ok op
      have acted : book.plain.perform op = book.plain.act op := perform_ageless ageless op
      rw [← acted] at stepped mirrors'
      exact ⟨reference', _, stepped, rfl, mirrors', book', ready', ageless', plain⟩)
    ops reference book.plain ⟨mirrors, book, ready, ageless, rfl⟩
  rw [List.map_id] at alike
  exact ⟨last, by rw [ran, alike]⟩

/-- A missed cancel leaves the plain book as it was. -/
theorem perform_missed {book : PlainBook} (ageless : book.config.maxAgeSeconds = 0)
    (orderId : UUID) (now : ℚ) :
    (∃ canceled, (book.perform (.cancel orderId now)).2 = .canceled canceled) ∨
      (book.perform (.cancel orderId now)).2 = .raised (.orderNotFound orderId) ∧
        (book.perform (.cancel orderId now)).1 = book := by
  rw [perform_ageless ageless]
  simp only [PlainBook.act, PlainBook.takeOut]
  cases book.find? orderId with
  -- A missed cancel raises and leaves the book; a found one answers with the order.
  | none => exact .inr ⟨rfl, rfl⟩
  | some rested => exact .inl ⟨rested.asOpenOrder, rfl⟩

/--
Without a maximum age every run of the indexed book answers like the same run of the oracle.

A cancel that finds no order raises, and no later operation can tell that it was made.
-/
theorem run_refines_reference (config : BookConfig) (ageless : config.maxAgeSeconds = 0)
    (ops : List BookOp) (distinct : (ops.flatMap BookOp.newIds).Nodup) :
    (∃ book outputs reference,
      Machine.run OrderBook.perform (OrderBook.new config) ops = .ok (book, outputs) ∧
      Machine.run ReferenceBook.perform
        (ReferenceBook.new config.symbol config.recentTradeCapacity) ops =
        .ok (reference, outputs.map Prod.fst)) ∧
    ∀ before orderId now after, ops = before ++ BookOp.cancel orderId now :: after →
      ∃ middle told missed reply calls,
        Machine.run OrderBook.perform (OrderBook.new config) before = .ok (middle, told) ∧
        middle.perform (.cancel orderId now) = .ok (missed, reply, calls) ∧
        ((∃ canceled, reply = .canceled canceled) ∨
          reply = .raised (.orderNotFound orderId) ∧ ∃ last outputs last' outputs',
            Machine.run OrderBook.perform missed after = .ok (last, outputs) ∧
            Machine.run OrderBook.perform middle after = .ok (last', outputs') ∧
            outputs.map Prod.fst = outputs'.map Prod.fst) := by
  have start := new_ready config distinct
  constructor
  · -- The two new books are empty alike.
    have mirrors : Mirrors (ReferenceBook.new config.symbol config.recentTradeCapacity)
        (OrderBook.new config).plain := by
      rw [new_plain]
      exact ⟨rfl, rfl, fun side => by cases side <;> rfl, rfl, rfl⟩
    obtain ⟨book, outputs, ran, alike, _⟩ := start.run_plain ageless
    obtain ⟨reference, ran'⟩ := mirrors.run_plain start ageless
    exact ⟨book, outputs, reference, ran, by rw [ran', alike]⟩
  · rintro before orderId now after rfl
    -- The calls before the cancel leave a ready book.
    obtain ⟨middle, told, ran, ready, config_eq⟩ := run_ready config before _ distinct
    have ageless' : middle.config.maxAgeSeconds = 0 := config_eq ▸ ageless
    obtain ⟨missed, reply, calls, stepped, replied, plain, ready', ageless''⟩ :=
      ready.plain_step ageless'
    refine ⟨middle, told, missed, reply, calls, ran, stepped, ?_⟩
    have outcome := @perform_missed middle.plain ageless' orderId now
    rcases outcome with ⟨canceled, same⟩ | ⟨same, unchanged⟩
    · exact .inl ⟨canceled, replied.trans same⟩
    · -- Both books show the same plain book, which decides every later answer.
      have skipped : Ready middle after := ⟨ready.ok, ready.distinct, ready.fresh⟩
      obtain ⟨last, outputs, ran_on, alike, _⟩ := ready'.run_plain ageless''
      obtain ⟨last', outputs', ran_on', alike', _⟩ := skipped.run_plain ageless'
      refine .inr ⟨replied.trans same, last, outputs, last', outputs', ran_on, ran_on', ?_⟩
      rw [alike, alike', plain, unchanged]

/-- A book of one symbol without expiry. -/
def lastingBook : BookConfig := { minuteBook with maxAgeSeconds := 0, maxAge_nonneg := le_refl 0 }

/-- Both books answer alike where an order is filled and another one cancelled. -/
theorem run_refines_reference_lasting :
    (∃ book outputs reference,
      Machine.run OrderBook.perform (OrderBook.new lastingBook) minuteOps = .ok (book, outputs) ∧
      Machine.run ReferenceBook.perform
        (ReferenceBook.new lastingBook.symbol lastingBook.recentTradeCapacity) minuteOps =
        .ok (reference, outputs.map Prod.fst)) ∧
    ∀ before orderId now after, minuteOps = before ++ BookOp.cancel orderId now :: after →
      ∃ middle told missed reply calls,
        Machine.run OrderBook.perform (OrderBook.new lastingBook) before = .ok (middle, told) ∧
        middle.perform (.cancel orderId now) = .ok (missed, reply, calls) ∧
        ((∃ canceled, reply = .canceled canceled) ∨
          reply = .raised (.orderNotFound orderId) ∧ ∃ last outputs last' outputs',
            Machine.run OrderBook.perform missed after = .ok (last, outputs) ∧
            Machine.run OrderBook.perform middle after = .ok (last', outputs') ∧
            outputs.map Prod.fst = outputs'.map Prod.fst) :=
  run_refines_reference lastingBook rfl minuteOps (by decide)

end Runs

end StockMarket
