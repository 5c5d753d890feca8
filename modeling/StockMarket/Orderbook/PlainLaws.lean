import StockMarket.Orderbook.Refinement

/-! What one operation of a plain book does to each resting order. -/

namespace StockMarket

/-- One resting order comes before another in priority. -/
def Ahead (side : OrderSide) (first second : Rested) : Prop :=
  side.key first.order.price < side.key second.order.price ∨
    (first.order.price = second.order.price ∧ first.sequence < second.sequence)

/-- The orders of a plain book stand where they belong, in priority order, under distinct names. -/
structure PlainOk (book : PlainBook) : Prop where
  sided : ∀ side, ∀ rested ∈ book.resting side, rested.order.side = side
  priority : ∀ side, (book.resting side).Pairwise (Ahead side)
  located : ∀ rested ∈ book.allResting, 1 ≤ rested.sequence ∧ rested.sequence ≤ book.sequence
  positive : ∀ rested ∈ book.allResting, 1 ≤ rested.remainingQuantity
  named : (book.allResting.map fun rested => rested.order.orderId).Nodup
  placed : (book.allResting.map Rested.sequence).Nodup

/-- The identifiers at rest, bids first. -/
def PlainBook.ids (book : PlainBook) : List UUID :=
  book.allResting.map fun rested => rested.order.orderId

/-- Every order on a side is at rest. -/
theorem PlainBook.mem_allResting {book : PlainBook} {rested : Rested} :
    rested ∈ book.allResting ↔ ∃ side, rested ∈ book.resting side := by
  -- An order rests on one of the two sides.
  simp only [allResting, List.mem_append]
  constructor
  · rintro (member | member)
    · exact ⟨.buy, member⟩
    · exact ⟨.sell, member⟩
  · rintro ⟨side, member⟩
    cases side
    · exact .inl member
    · exact .inr member

section FromBook

variable {book : OrderBook}

/-- An identifier is indexed when a resting order carries it. -/
theorem indexed_iff (ok : CoreOk book) {orderId : UUID} :
    (∃ ref, book.index.get? orderId = some ref) ↔ orderId ∈ book.plain.ids := by
  rw [← Option.ne_none_iff_exists', ne_eq, unindexed_iff ok]
  simp [PlainBook.ids]

/-- The references at rest, bids first. -/
private def restingRefs (book : OrderBook) : List Nat :=
  (book.sides .buy).liveRefs book.heap ++ (book.sides .sell).liveRefs book.heap

/-- No reference rests twice, on one side or on both. -/
private theorem restingRefs_nodup (ok : CoreOk book) : (restingRefs book).Nodup := by
  refine List.nodup_append.mpr
    ⟨(ok.sides_ok _).liveRefs_nodup, (ok.sides_ok _).liveRefs_nodup, ?_⟩
  -- An entry has one side, and so it is not listed on both.
  intro first bid second ask same
  subst same
  have buy := (ok.mem_liveRefs_iff.mp bid).2
  have sell := (ok.mem_liveRefs_iff.mp ask).2
  rw [buy] at sell
  cases sell

/-- The plain book of a well-formed book is well formed. -/
theorem BookOk.plain_ok (ok : BookOk book) : PlainOk book.plain := by
  -- What the sides list is live, and it is what the plain book holds.
  have live_of : ∀ ref ∈ restingRefs book, book.Live ref := by
    intro ref member
    rcases List.mem_append.mp member with member | member <;>
      exact (ok.core.mem_liveRefs_iff.mp member).1
  have listed : book.plain.allResting = (restingRefs book).map fun ref => (book.heap ref).rested := by
    simp [PlainBook.allResting, OrderBook.plain, restingRefs]
  refine ⟨fun side rested member => ?_, fun side => ?_, fun rested member => ?_,
    fun rested member => ?_, ?_, ?_⟩
  · obtain ⟨ref, _, sided, rfl⟩ := (mem_plain_iff ok.core).mp member
    exact sided
  · refine List.pairwise_map.mpr ((ok.core.sides_ok side).liveRefs_sorted.imp_of_mem ?_)
    intro first second inside inside' before
    have first_at := ok.core.sequence_eq (ok.core.mem_liveRefs_iff.mp inside).1
    have second_at := ok.core.sequence_eq (ok.core.mem_liveRefs_iff.mp inside').1
    refine before.imp id fun same => ⟨same.1, ?_⟩
    show (book.heap first).sequence < (book.heap second).sequence
    rw [first_at, second_at]
    exact same.2
  · obtain ⟨ref, live, rfl⟩ := (mem_allResting_iff ok.core).mp member
    show 1 ≤ (book.heap ref).sequence ∧ (book.heap ref).sequence ≤ book.sequence
    rw [ok.core.sequence_eq live]
    exact ⟨live.1, live.2.1⟩
  · obtain ⟨ref, live, rfl⟩ := (mem_allResting_iff ok.core).mp member
    exact ok.core.remaining_pos live
  · rw [listed, List.map_map]
    refine List.Nodup.map_on ?_ (restingRefs_nodup ok.core)
    exact fun first inside second inside' same =>
      ok.core.live_inj (live_of first inside) (live_of second inside') same
  · rw [listed, List.map_map]
    refine List.Nodup.map_on ?_ (restingRefs_nodup ok.core)
    intro first inside second inside' same
    have same' : (book.heap first).sequence = (book.heap second).sequence := same
    rwa [ok.core.sequence_eq (live_of first inside),
      ok.core.sequence_eq (live_of second inside')] at same'

end FromBook

section Origin

variable {book : PlainBook}

/-- A resting order that stems from another has its order, its place, and its stamp. -/
structure Stems (before after : Rested) : Prop where
  order_eq : after.order = before.order
  sequence_eq : after.sequence = before.sequence
  restedAt_eq : after.restedAt = before.restedAt

/-- A rested order stems from itself. -/
theorem Stems.refl (rested : Rested) : Stems rested rested := ⟨rfl, rfl, rfl⟩

/-- A resting order that an operation brought into the book. -/
structure Newcomer (book : PlainBook) (op : BookOp) (rested : Rested) : Prop where
  submitted : ∃ now restAt, op = .submit rested.order now restAt ∧
    rested.order.symbol = book.config.symbol ∧ rested.restedAt = book.stamp restAt
  sequence_eq : rested.sequence = book.sequence + 1

/-- Matching leaves orders that were there before. -/
theorem taken_stems {order : Order} {rested : Rested}
    (member : rested ∈ (book.taken order).kept ++ book.beyond order) :
    ∃ before ∈ book.resting order.side.opposite, Stems before rested := by
  have prefix_sub : ∀ other ∈ book.reached order, other ∈ book.resting order.side.opposite :=
    fun other inside => (List.takeWhile_sublist _).subset inside
  -- What is left was in reach, in part or as a whole, or it was beyond.
  rcases List.mem_append.mp member with kept | beyond
  · rcases consume_kept_mem kept with inside | ⟨before, inside, taken, _, rfl⟩
    · exact ⟨rested, prefix_sub _ inside, .refl rested⟩
    · exact ⟨before, prefix_sub _ inside, rfl, rfl, rfl⟩
  · exact ⟨rested, (List.dropWhile_sublist _).subset beyond, .refl rested⟩

/-- Every order at rest after a match was there before, or is the incoming order itself. -/
theorem place_origin {order : Order} {restedAt : ℚ} {side : OrderSide} {rested : Rested}
    (member : rested ∈ (book.place order restedAt).1.resting side) :
    (∃ before ∈ book.resting side, Stems before rested) ∨
      (rested.order = order ∧ rested.sequence = book.sequence + 1 ∧ rested.restedAt = restedAt ∧
        rested.remainingQuantity = (book.taken order).left ∧ (book.taken order).left ≠ 0) := by
  -- Only the opposite side loses quantity, and only the order's own side can gain an order.
  have matched : ∀ other : Rested, other ∈ (book.setResting order.side.opposite
      ((book.taken order).kept ++ book.beyond order)).resting side →
      ∃ before ∈ book.resting side, Stems before other := by
    intro other inside
    simp only [PlainBook.setResting, Function.update_apply] at inside
    split at inside
    · rename_i same; exact same ▸ taken_stems inside
    · exact ⟨other, inside, .refl other⟩
  -- The rest of the order is put in place only if some of it is left.
  simp only [PlainBook.place] at member
  split at member
  · exact .inl (matched rested member)
  · rename_i left
    simp only [PlainBook.rest, PlainBook.setResting, Function.update_apply] at member
    split at member
    · rename_i own
      rw [PlainBook.joined, mem_insertAfter] at member
      rcases member with rfl | member
      · exact .inr ⟨rfl, rfl, rfl, rfl, left⟩
      · refine .inl (matched rested ?_)
        rw [own]
        simpa [PlainBook.setResting, Function.update_apply] using member
    · refine .inl (matched rested ?_)
      simpa [PlainBook.setResting, Function.update_apply] using member

/-- An order for the book's own symbol is placed. -/
theorem act_submit_own {order : Order} {now restAt : ℚ}
    (same : order.symbol = book.config.symbol) : book.act (.submit order now restAt) =
      ((book.place order (book.stamp restAt)).1,
        .matched (book.place order (book.stamp restAt)).2) := by
  simp only [PlainBook.act, if_neg (not_not_intro same)]

/-- An order for another symbol is refused. -/
theorem act_submit_foreign {order : Order} {now restAt : ℚ}
    (foreign : order.symbol ≠ book.config.symbol) : book.act (.submit order now restAt) =
      (book, .raised (.valueError ("order symbol must be " ++ book.config.symbol))) := by
  simp only [PlainBook.act, if_pos foreign]

/-- Every order at rest after an operation was there before, or came with the operation. -/
theorem act_origin {op : BookOp} {side : OrderSide} {rested : Rested}
    (member : rested ∈ (book.act op).1.resting side) :
    (∃ before ∈ book.resting side, Stems before rested) ∨ Newcomer book op rested := by
  have kept : ∀ {other : Rested}, other ∈ book.resting side →
      ∃ before ∈ book.resting side, Stems before other := fun inside => ⟨_, inside, .refl _⟩
  -- Only a submission brings an order in, and the other operations keep some of those at rest.
  cases op with
  | submit order now restAt =>
    simp only [PlainBook.act] at member
    split at member
    · exact .inl (kept member)
    · rename_i same
      rcases place_origin member with before | ⟨named, sequence, stamped, _, _⟩
      · exact .inl before
      · refine .inr ⟨⟨now, restAt, by rw [named], ?_, stamped⟩, sequence⟩
        rw [named]; exact not_not.mp same
  | cancel orderId now =>
    simp only [PlainBook.act, PlainBook.takeOut] at member
    split at member
    · exact .inl (kept member)
    · exact .inl (kept (List.mem_of_mem_filter member))
  | getOpenOrder | openOrders | snapshot | totalQuantity | bestPrice | recentTrades =>
    exact .inl (kept member)

/-- An operation keeps the construction arguments. -/
@[simp] theorem act_config (op : BookOp) : (book.act op).1.config = book.config := by
  -- Only submits and cancels change a book at all.
  cases op with
  | submit order now restAt =>
    simp only [PlainBook.act]
    split
    · rfl
    · simp only [PlainBook.place]; split <;> rfl
  | cancel orderId now =>
    simp only [PlainBook.act, PlainBook.takeOut]
    split <;> rfl
  | getOpenOrder | openOrders | snapshot | totalQuantity | bestPrice | recentTrades => rfl

end Origin

end StockMarket
