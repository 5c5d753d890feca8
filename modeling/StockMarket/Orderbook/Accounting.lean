import StockMarket.Orderbook.PlainLaws

/-! Where every order and every unit of quantity goes in one operation. -/

namespace StockMarket

/-- The identifiers reported as coming to rest. -/
def restedIds (calls : List Callback) : List UUID :=
  calls.filterMap fun
    | .rest orderId => some orderId
    | .close _ _ => none

/-- The identifiers reported as closed for a reason. -/
def closedIds (reason : CloseReason) (calls : List Callback) : List UUID :=
  calls.filterMap fun
    | .rest _ => none
    | .close orderId because => if because = reason then some orderId else none

/-- The identifier of the order that a reply reports as cancelled. -/
def BookReply.canceledIds : BookReply → List UUID
  | .canceled taken => [taken.order.orderId]
  | _ => []

/-- The executions a reply reports. -/
def BookReply.executions : BookReply → List Trade
  | .matched result => result.trades
  | _ => []

/-- A trade names an order as its buyer or its seller. -/
def Trade.names (trade : Trade) (orderId : UUID) : Bool :=
  trade.buyOrderId = orderId ∨ trade.sellOrderId = orderId

/-- The quantity that a list of executions trades for one order. -/
def tradedOf (orderId : UUID) (trades : List Trade) : Int :=
  (trades.map fun trade => if trade.names orderId then trade.quantity else 0).sum

/-- The quantity that a list of resting orders holds for one order. -/
def heldOf (orderId : UUID) (resting : List Rested) : Int :=
  (resting.map fun rested =>
    if rested.order.orderId = orderId then rested.remainingQuantity else 0).sum

/-- The quantity that a reply reports as cancelled for one order. -/
def BookReply.canceledOf (orderId : UUID) : BookReply → Int
  | .canceled taken => if taken.order.orderId = orderId then taken.remainingQuantity else 0
  | _ => 0

/-- The quantity that an operation brings in for one order. -/
def PlainBook.broughtOf (book : PlainBook) (orderId : UUID) : BookOp → Int
  | .submit order _ _ =>
    if order.symbol = book.config.symbol ∧ order.orderId = orderId then order.quantity else 0
  | _ => 0

section Lists

/-- Orders of the first callbacks rest first. -/
@[simp] theorem restedIds_append (first second : List Callback) :
    restedIds (first ++ second) = restedIds first ++ restedIds second := by simp [restedIds]

/-- Orders of the first callbacks are closed first. -/
@[simp] theorem closedIds_append (reason : CloseReason) (first second : List Callback) :
    closedIds reason (first ++ second) = closedIds reason first ++ closedIds reason second := by
  simp [closedIds]

/-- An expiry rests nothing. -/
@[simp] theorem restedIds_expired (gone : List Rested) : restedIds (expiredCalls gone) = [] := by
  simp [restedIds, expiredCalls]

/-- An expiry closes what is gone. -/
@[simp] theorem closedIds_expired (gone : List Rested) :
    closedIds .expired (expiredCalls gone) = gone.map fun rested => rested.order.orderId := by
  induction gone with
  | nil => rfl
  | cons first rest ih => simp [closedIds, expiredCalls]

/-- An expiry fills nothing. -/
@[simp] theorem closedIds_filled_expired (gone : List Rested) :
    closedIds .filled (expiredCalls gone) = [] := by
  simp [closedIds, expiredCalls]

/-- A fill rests nothing. -/
@[simp] theorem restedIds_filled (fills : List (Rested × Int)) :
    restedIds (PlainBook.filledCalls fills) = [] := by
  simp [restedIds, PlainBook.filledCalls]

/-- A fill lets nothing expire. -/
@[simp] theorem closedIds_expired_filled (fills : List (Rested × Int)) :
    closedIds .expired (PlainBook.filledCalls fills) = [] := by
  simp [closedIds, PlainBook.filledCalls]

/-- Fills close the orders that are filled in full. -/
@[simp] theorem closedIds_filled (fills : List (Rested × Int)) :
    closedIds .filled (PlainBook.filledCalls fills) =
      (fills.filter fun fill => fill.2 = fill.1.remainingQuantity).map
        fun fill => fill.1.order.orderId := by
  simp only [closedIds, PlainBook.filledCalls, List.filterMap_map]
  -- Both sides keep the fills that take a maker completely.
  rw [← List.filterMap_eq_map]
  rfl

/-- Holdings add up over a concatenation. -/
@[simp] theorem heldOf_append (orderId : UUID) (first second : List Rested) :
    heldOf orderId (first ++ second) = heldOf orderId first + heldOf orderId second := by
  simp [heldOf]

/-- Holdings do not depend on the order of the list. -/
theorem heldOf_perm (orderId : UUID) {first second : List Rested} (perm : first.Perm second) :
    heldOf orderId first = heldOf orderId second := (perm.map _).sum_eq

end Lists

section Steps

variable {book : PlainBook}

/-- Keeping some orders filters them on both sides. -/
theorem keep_allResting (test : Rested → Bool) :
    (book.keep test).allResting = book.allResting.filter test := by
  simp [PlainBook.keep, PlainBook.allResting]

/-- A well-formed book stays so when it keeps only some of its orders. -/
theorem PlainOk.keep (ok : PlainOk book) (test : Rested → Bool) : PlainOk (book.keep test) := by
  -- What is kept on both sides is a part of what was at rest.
  have left : (book.keep test).allResting.Sublist book.allResting :=
    keep_allResting test ▸ List.filter_sublist
  exact ⟨fun side rested member => ok.sided side rested (List.mem_of_mem_filter member),
    fun side => (ok.priority side).filter _, fun rested member => ok.located rested (left.subset member),
    fun rested member => ok.positive rested (left.subset member), ok.named.sublist (left.map _),
    ok.placed.sublist (left.map _)⟩

/-- Expiry splits the resting orders into those gone and those still at rest. -/
theorem expiry_split {now : ℚ} {gone : List Rested} {after : PlainBook} (ok : PlainOk book)
    (done : ExpiryAt now book gone after) : book.allResting.Perm (gone ++ after.allResting) := by
  -- Sequence numbers tell which of the resting orders are gone.
  have distinct : gone.Nodup := done.ordered.imp fun less same => by simp [same] at less
  have resting_nodup : book.allResting.Nodup := .of_map _ ok.placed
  have picked : (book.allResting.filter fun rested =>
      !decide (rested.sequence ∉ gone.map Rested.sequence)).Perm gone := by
    refine (List.perm_ext_iff_of_nodup (resting_nodup.filter _) distinct).mpr fun rested => ?_
    rw [List.mem_filter, Bool.not_eq_true', decide_eq_false_iff_not, not_not]
    constructor
    · rintro ⟨member, listed⟩
      obtain ⟨other, inside, same⟩ := List.mem_map.mp listed
      rw [← List.inj_on_of_nodup_map ok.placed (done.resting other inside) member same]
      exact inside
    · exact fun member => ⟨done.resting rested member, List.mem_map_of_mem member⟩
  -- The orders that stay and those that are gone make up all of them.
  rw [done.after_eq, keep_allResting]
  exact (List.filter_append_perm (fun rested : Rested =>
    decide (rested.sequence ∉ gone.map Rested.sequence)) book.allResting).symm.trans
    (List.perm_append_comm.trans (picked.append_right _))

/-- A cancelled order leaves, and all others stay. -/
theorem takeOut_split {orderId : UUID} {rested : Rested} (ok : PlainOk book)
    (found : book.find? orderId = some rested) :
    book.allResting.Perm (rested :: (book.takeOut orderId).1.allResting) := by
  have member := List.mem_of_find?_eq_some found
  -- The identifier is that of one order only, so nothing else is dropped.
  have named : rested.order.orderId = orderId := of_decide_eq_true (List.find?_some found :)
  have resting_nodup : book.allResting.Nodup := .of_map _ ok.placed
  have left : (book.takeOut orderId).1.allResting =
      book.allResting.filter fun other => other.order.orderId ≠ orderId := by
    simp only [PlainBook.takeOut, found, keep_allResting]
  -- What is taken out are the orders with the identifier, which is this one alone.
  have picked : (book.allResting.filter fun other =>
      !decide (other.order.orderId ≠ orderId)).Perm [rested] := by
    refine (List.perm_ext_iff_of_nodup (resting_nodup.filter _) (List.nodup_singleton _)).mpr
      fun other => ?_
    rw [List.mem_filter, List.mem_singleton, Bool.not_eq_true', decide_eq_false_iff_not, not_not]
    constructor
    · rintro ⟨inside, same⟩
      exact List.inj_on_of_nodup_map ok.named inside member (same.trans named.symm)
    · rintro rfl
      exact ⟨member, named⟩
  rw [left]
  exact (List.filter_append_perm (fun other : Rested => decide (other.order.orderId ≠ orderId))
    book.allResting).symm.trans (List.perm_append_comm.trans (picked.append_right _))

/-- Rewriting one side moves only the orders of that side. -/
theorem setResting_allResting (book : PlainBook) (side : OrderSide) (resting : List Rested) :
    (book.setResting side resting).allResting.Perm
      (resting ++ book.resting side.opposite) := by
  cases side
  · -- The bids are listed first, so a change of the other side needs a swap.
    exact .of_eq (by simp [PlainBook.setResting, PlainBook.allResting, OrderSide.opposite])
  · exact (List.Perm.of_eq (by simp [PlainBook.setResting, PlainBook.allResting,
      OrderSide.opposite])).trans List.perm_append_comm

/-- The resting orders after placing an order: what is kept, what was not reached, and the rest. -/
theorem place_allResting (book : PlainBook) (order : Order) (restedAt : ℚ) :
    (book.place order restedAt).1.allResting.Perm
      ((if (book.taken order).left = 0 then [] else
          [⟨order, (book.taken order).left, book.sequence + 1, restedAt⟩]) ++
        ((book.taken order).kept ++ book.beyond order ++ book.resting order.side)) := by
  have opposite : order.side.opposite.opposite = order.side := by cases order.side <;> rfl
  -- Setting the opposite side leaves the order's own side in place.
  have matched := setResting_allResting book order.side.opposite
    ((book.taken order).kept ++ book.beyond order)
  rw [opposite] at matched
  simp only [PlainBook.place]
  split
  · exact matched
  · -- Joining a side is a permutation of standing in front of it.
    set after := book.setResting order.side.opposite ((book.taken order).kept ++ book.beyond order)
      with after_eq
    have joined := setResting_allResting after order.side (PlainBook.joined order.side
      ⟨order, (book.taken order).left, after.sequence + 1, restedAt⟩ (after.resting order.side))
    have own : after.resting order.side = book.resting order.side := by
      cases side : order.side <;> simp [after_eq, PlainBook.setResting, side, OrderSide.opposite]
    have other : after.resting order.side.opposite =
        (book.taken order).kept ++ book.beyond order := setResting_resting_self ..
    refine joined.trans ?_
    rw [own, other]
    refine ((insertAfter_perm _ _ _).append_right _).trans ?_
    rw [List.cons_append, List.singleton_append]
    exact List.Perm.cons _ List.perm_append_comm

/-- The resting orders before placing an order, in the same parts. -/
theorem allResting_parts (book : PlainBook) (order : Order) : book.allResting.Perm
    (book.reached order ++ book.beyond order ++ book.resting order.side) := by
  -- What is within reach is a front of the opposite side.
  have whole : book.reached order ++ book.beyond order = book.resting order.side.opposite :=
    List.takeWhile_append_dropWhile
  rw [whole]
  cases side : order.side
  · exact List.perm_append_comm
  · exact .refl _

/-- The orders within reach are filled completely or kept. -/
theorem reached_exits (order : Order) :
    (book.reached order).map (fun rested => rested.order.orderId) =
      ((book.taken order).fills.filter fun fill => fill.2 = fill.1.remainingQuantity).map
        (fun fill => fill.1.order.orderId) ++
      (book.taken order).kept.map fun rested => rested.order.orderId :=
  consume_exits fun _ _ => rfl

/-- What the orders within reach hold for an order is taken from them or kept by them. -/
theorem reached_held (order : Order) (orderId : UUID) :
    heldOf orderId (book.reached order) =
      ((book.taken order).fills.map fun fill =>
        if fill.1.order.orderId = orderId then fill.2 else 0).sum +
      heldOf orderId (book.taken order).kept := by
  -- The loop shares each maker between what it takes and what it keeps.
  have share := @consume_share Rested Rested.remainingQuantity Rested.reduce order.quantity
    (book.reached order) (fun rested => rested.order.orderId = orderId) (fun _ _ => rfl)
    fun _ _ => rfl
  simpa [heldOf, PlainBook.taken] using share

/-- Outside expiry no operation reports an order as expired. -/
theorem callsOf_expired (book : PlainBook) (op : BookOp) :
    closedIds .expired (book.callsOf op) = [] := by
  cases op with
  | submit order now restAt =>
    simp only [PlainBook.callsOf]
    split
    · rfl
    · rw [closedIds_append, closedIds_expired_filled]
      split <;> rfl
  -- Other operations make no calls besides those of expiry.
  | _ => rfl

/-- Every order at rest or coming to rest is filled, is cancelled, or rests after the operation. -/
theorem act_exits (ok : PlainOk book) (op : BookOp) :
    (book.ids ++ restedIds (book.callsOf op)).Perm
      (closedIds .filled (book.callsOf op) ++ (book.act op).2.canceledIds ++
        (book.act op).1.ids) := by
  cases op with
  | submit order now restAt =>
    simp only [PlainBook.callsOf, PlainBook.act]
    split
    · -- An order for another symbol is refused, and nobody moves.
      simp [restedIds, closedIds, BookReply.canceledIds]
    · have before := (allResting_parts book order).map fun rested => rested.order.orderId
      have after := (place_allResting book order (book.stamp restAt)).map
        fun rested => rested.order.orderId
      simp only [List.map_append] at before after
      rw [reached_exits] at before
      simp only [PlainBook.ids, BookReply.canceledIds, List.append_nil]
      refine (before.append_right _).trans (.trans ?_ (after.symm.append_left _))
      rw [restedIds_append, restedIds_filled, closedIds_append, closedIds_filled]
      -- Each identifier is counted on both sides, whether the order rests or not.
      refine List.perm_iff_count.mpr fun orderId => ?_
      split
      · simp [restedIds, closedIds, List.count_append]
      · simp [restedIds, closedIds, List.count_append, List.count_cons]
        omega
  | cancel orderId now =>
    simp only [PlainBook.callsOf, PlainBook.act, restedIds, closedIds, List.filterMap_nil,
      List.append_nil, List.nil_append]
    cases found : book.find? orderId with
    -- A missed cancel changes nothing, and reports nothing as cancelled.
    | none => simp [PlainBook.takeOut, found, BookReply.ofResult, BookReply.canceledIds]
    | some rested =>
      -- The order that is taken out is the one that the reply reports.
      have split := (takeOut_split ok found).map fun rested => rested.order.orderId
      have answered : (book.takeOut orderId).2 = .ok rested.asOpenOrder := by
        simp [PlainBook.takeOut, found]
      rw [answered]
      exact split
  | recentTrades limit =>
    have silent : ((book.act (.recentTrades limit)).2).canceledIds = [] := by
      -- Whether the limit is valid or not, the reply cancels nothing.
      simp only [PlainBook.act]; split <;> rfl
    rw [silent]
    simp [PlainBook.callsOf, PlainBook.act, restedIds, closedIds]
  | getOpenOrder | openOrders | snapshot | totalQuantity | bestPrice =>
    simp [PlainBook.callsOf, PlainBook.act, restedIds, closedIds, BookReply.canceledIds]

/-- No reply but that of a cancel reports a cancelled quantity. -/
theorem canceledOf_recentTrades (book : PlainBook) (orderId : UUID) (limit : Int) :
    (book.act (.recentTrades limit)).2.canceledOf orderId = 0 ∧
      (book.act (.recentTrades limit)).2.executions = [] := by
  simp only [PlainBook.act]
  split <;> exact ⟨rfl, rfl⟩

/-- An execution names the incoming order and the resting one. -/
theorem tradeAgainst_names (symbol : String) (incoming resting : Order) (quantity : Int)
    (orderId : UUID) : (tradeAgainst symbol incoming resting quantity).names orderId =
      decide (incoming.orderId = orderId ∨ resting.orderId = orderId) := by
  -- The incoming order is the buyer or the seller, depending on its side.
  cases side : incoming.side <;> simp [Trade.names, tradeAgainst, tradeOrders, side, or_comm]

/-- What the executions of one order trade, seen from any order. -/
theorem tradedOf_tradesOf (order : Order) (orderId : UUID) :
    tradedOf orderId (book.tradesOf order) =
      if order.orderId = orderId then takenBy (book.taken order).fills
      else ((book.taken order).fills.map fun fill =>
        if fill.1.order.orderId = orderId then fill.2 else 0).sum := by
  simp only [tradedOf, PlainBook.tradesOf, List.map_map, Function.comp_def, tradeAgainst_names]
  split
  · -- Every trade of a submit names the incoming order.
    rename_i own
    simp only [own, true_or, decide_true, if_true, tradeAgainst, takenBy]
  · rename_i other
    simp only [other, false_or, decide_eq_true_eq, tradeAgainst]

/-- Nobody holds anything for an order that does not rest. -/
theorem heldOf_eq_zero {resting : List Rested} {orderId : UUID}
    (absent : ∀ rested ∈ resting, rested.order.orderId ≠ orderId) : heldOf orderId resting = 0 := by
  refine List.sum_eq_zero fun value member => ?_
  obtain ⟨rested, inside, rfl⟩ := List.mem_map.mp member
  exact if_neg (absent rested inside)

/-- Placing an order moves its quantity into trades and, if any is left, to rest. -/
theorem place_ledger (book : PlainBook) (order : Order) (restedAt : ℚ) (orderId : UUID)
    (fresh : ∀ rested ∈ book.allResting, rested.order.orderId ≠ order.orderId) :
    heldOf orderId book.allResting + (if order.orderId = orderId then order.quantity else 0) =
      tradedOf orderId (book.tradesOf order) +
        heldOf orderId (book.place order restedAt).1.allResting := by
  -- The incoming order's own quantity splits into takings and a rest, and others lose what is taken.
  have before := heldOf_perm orderId (allResting_parts book order)
  have after := heldOf_perm orderId (place_allResting book order restedAt)
  have balance : takenBy (book.taken order).fills + (book.taken order).left = order.quantity :=
    consume_balance
  simp only [heldOf_append, reached_held] at before after
  rw [tradedOf_tradesOf]
  by_cases own : order.orderId = orderId
  · -- Nothing of the new order was at rest, so all it holds is left from its quantity.
    have nothing : heldOf orderId book.allResting = 0 := heldOf_eq_zero (own ▸ fresh)
    have untouched : ((book.taken order).fills.map fun fill =>
        if fill.1.order.orderId = orderId then fill.2 else 0).sum = 0 := by
      refine List.sum_eq_zero fun value member => ?_
      obtain ⟨fill, inside, rfl⟩ := List.mem_map.mp member
      have reached := (List.takeWhile_sublist _).subset (consume_fill_mem inside)
      exact if_neg (own ▸ fresh fill.1 (PlainBook.mem_allResting.mpr ⟨_, reached⟩))
    have rest_held : heldOf orderId (if (book.taken order).left = 0 then [] else
        [⟨order, (book.taken order).left, book.sequence + 1, restedAt⟩]) =
        (book.taken order).left := by
      split
      · rename_i zero; rw [zero]; rfl
      · simp [heldOf, own]
    rw [if_pos own, if_pos own]
    omega
  · -- Any other order only loses what is taken from it.
    have rest_held : heldOf orderId (if (book.taken order).left = 0 then [] else
        [⟨order, (book.taken order).left, book.sequence + 1, restedAt⟩]) = 0 := by
      split <;> simp [heldOf, own]
    rw [if_neg own, if_neg own]
    omega

/-- An operation only moves quantity: nothing is lost and nothing appears. -/
theorem act_ledger (ok : PlainOk book) (op : BookOp)
    (fresh : ∀ orderId ∈ op.newIds, ∀ rested ∈ book.allResting, rested.order.orderId ≠ orderId)
    (orderId : UUID) :
    heldOf orderId book.allResting + book.broughtOf orderId op =
      tradedOf orderId (book.act op).2.executions + (book.act op).2.canceledOf orderId +
        heldOf orderId (book.act op).1.allResting := by
  cases op with
  | submit order now restAt =>
    -- An order for another symbol brings nothing in.
    by_cases same : order.symbol = book.config.symbol
    · have ledger := place_ledger book order (book.stamp restAt) orderId
        fun rested member => fresh order.orderId (by simp [BookOp.newIds]) rested member
      have answered : (book.place order (book.stamp restAt)).2.trades = book.tradesOf order := rfl
      rw [act_submit_own same]
      simp only [PlainBook.broughtOf, same, true_and, BookReply.executions, BookReply.canceledOf,
        answered]
      omega
    · simp [PlainBook.broughtOf, PlainBook.act, same, BookReply.executions, BookReply.canceledOf,
        tradedOf]
  -- A cancel brings nothing in, and gives back what the order still holds.
  | cancel orderId' now =>
    simp only [PlainBook.broughtOf, PlainBook.act]
    cases found : book.find? orderId' with
    | none =>
      simp [PlainBook.takeOut, found, BookReply.ofResult, BookReply.canceledOf,
        BookReply.executions, tradedOf]
    | some rested =>
      -- The quantity at rest of the order becomes the quantity cancelled.
      have split := heldOf_perm orderId (takeOut_split ok found)
      have answered : (book.takeOut orderId').2 = .ok rested.asOpenOrder := by
        simp [PlainBook.takeOut, found]
      rw [answered]
      simp only [heldOf, List.map_cons, List.sum_cons] at split
      simp only [BookReply.ofResult, BookReply.canceledOf, BookReply.executions, tradedOf,
        Rested.asOpenOrder, List.map_nil, List.sum_nil, heldOf]
      omega
  | recentTrades limit =>
    have silent := canceledOf_recentTrades book orderId limit
    rw [silent.1, silent.2]
    simp [PlainBook.broughtOf, PlainBook.act, tradedOf]
  -- Reads move nothing.
  | getOpenOrder | openOrders | snapshot | totalQuantity | bestPrice =>
    simp [PlainBook.broughtOf, PlainBook.act, tradedOf, BookReply.executions, BookReply.canceledOf]

end Steps

end StockMarket
