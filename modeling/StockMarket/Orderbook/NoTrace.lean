import StockMarket.Orderbook.ReadPaths
import StockMarket.Orderbook.ReferenceLaws

/-! An order that rests and is cancelled leaves no trace but a gap in the sequence numbers. -/

namespace StockMarket

/-- The sequence numbers after a gap are one higher than they would be without it. -/
def pastGap (gap sequence : Nat) : Nat := if sequence ≤ gap then sequence else sequence + 1

/-- A rested order under another number. -/
def Rested.renumber (number : Nat → Nat) (rested : Rested) : Rested :=
  { rested with sequence := number rested.sequence }

/-- An open order under another number. -/
def OpenOrder.renumber (number : Nat → Nat) (order : OpenOrder) : OpenOrder :=
  { order with sequence := number order.sequence }

/-- A reply with other sequence numbers. -/
def BookReply.renumber (number : Nat → Nat) : BookReply → BookReply
  | .canceled order => .canceled (order.renumber number)
  | .openOrder order => .openOrder (order.map (·.renumber number))
  | .openOrders orders => .openOrders (orders.map (·.renumber number))
  | reply => reply

/-- Two books that differ in their sequence numbers only, by one number that one of them skipped. -/
structure Gapped (gap : Nat) (traced book : PlainBook) : Prop where
  config_eq : traced.config = book.config
  tape_eq : traced.tape = book.tape
  resting_eq : ∀ side, traced.resting side = (book.resting side).map (·.renumber (pastGap gap))
  sequence_eq : traced.sequence = book.sequence + 1
  passed : gap ≤ book.sequence

section Act

variable {gap : Nat} {traced book : PlainBook}

/-- The orders within reach are the same, under their new numbers. -/
theorem Gapped.taken_eq (gapped : Gapped gap traced book) (order : Order) :
    traced.taken order = ⟨(book.taken order).fills.map (Prod.map (·.renumber (pastGap gap)) id),
      (book.taken order).left, (book.taken order).kept.map (·.renumber (pastGap gap))⟩ := by
  -- Whether an order is within reach does not depend on its number.
  have reached : traced.reached order = (book.reached order).map (·.renumber (pastGap gap)) := by
    rw [PlainBook.reached, gapped.resting_eq, List.takeWhile_map]
    rfl
  rw [PlainBook.taken, reached]
  exact consume_map (fun _ => rfl) fun _ _ => rfl

/-- The orders out of reach are the same, under their new numbers. -/
theorem Gapped.beyond_eq (gapped : Gapped gap traced book) (order : Order) :
    traced.beyond order = (book.beyond order).map (·.renumber (pastGap gap)) := by
  rw [PlainBook.beyond, gapped.resting_eq, List.dropWhile_map]
  rfl

/-- The executions name orders, not sequence numbers. -/
theorem Gapped.tradesOf_eq (gapped : Gapped gap traced book) (order : Order) :
    traced.tradesOf order = book.tradesOf order := by
  rw [PlainBook.tradesOf, gapped.taken_eq, gapped.config_eq, List.map_map]
  rfl

/-- Replacing the orders of one side keeps the books alike. -/
theorem Gapped.setResting (gapped : Gapped gap traced book) (side : OrderSide)
    (resting : List Rested) :
    Gapped gap (traced.setResting side (resting.map (·.renumber (pastGap gap))))
      (book.setResting side resting) := by
  -- The other side keeps its orders under their new numbers.
  refine ⟨gapped.config_eq, gapped.tape_eq, fun other => ?_, gapped.sequence_eq, gapped.passed⟩
  simp only [PlainBook.setResting, Function.update_apply]
  split
  · rfl
  · exact gapped.resting_eq other

/-- Where an order joins depends on prices only. -/
theorem joined_renumber (number : Nat → Nat) (side : OrderSide) (newcomer : Rested)
    (resting : List Rested) :
    (PlainBook.joined side newcomer resting).map (·.renumber number) =
      PlainBook.joined side (newcomer.renumber number) (resting.map (·.renumber number)) :=
  map_insertAfter _ _ _ _ fun _ _ => rfl

/-- An order that comes to rest takes the next number on either side of the gap. -/
theorem Gapped.rest (gapped : Gapped gap traced book) (order : Order) (remaining : Int)
    (restedAt : ℚ) :
    Gapped gap (traced.rest order remaining restedAt) (book.rest order remaining restedAt) := by
  have next : pastGap gap (book.sequence + 1) = traced.sequence + 1 := by
    have passed := gapped.passed
    rw [gapped.sequence_eq, pastGap, if_neg (by omega)]
  -- An order that joins both books keeps their renumbered queues equal.
  have joined := gapped.setResting order.side
    (PlainBook.joined order.side ⟨order, remaining, book.sequence + 1, restedAt⟩
      (book.resting order.side))
  rw [joined_renumber, ← gapped.resting_eq, Rested.renumber, next] at joined
  have passed := gapped.passed
  exact ⟨joined.config_eq, joined.tape_eq, joined.resting_eq, congrArg (· + 1) gapped.sequence_eq,
    by show gap ≤ book.sequence + 1; omega⟩

/-- The same executions go onto both tapes. -/
theorem Gapped.withTape (gapped : Gapped gap traced book) (tape : List Trade) :
    Gapped gap { traced with tape } { book with tape } :=
  ⟨gapped.config_eq, rfl, gapped.resting_eq, gapped.sequence_eq, gapped.passed⟩

/-- Placing an order gives the same result and keeps the books alike. -/
theorem Gapped.place (gapped : Gapped gap traced book) (order : Order) (restedAt : ℚ) :
    (traced.place order restedAt).2 = (book.place order restedAt).2 ∧
      Gapped gap (traced.place order restedAt).1 (book.place order restedAt).1 := by
  -- What is left on the opposite side is alike, and so is what comes to rest.
  have matched := gapped.setResting order.side.opposite
    ((book.taken order).kept ++ book.beyond order)
  simp only [PlainBook.place, gapped.tradesOf_eq, gapped.beyond_eq, gapped.taken_eq,
    gapped.config_eq, gapped.tape_eq, ← List.map_append, true_and]
  split
  · exact matched.withTape _
  · exact (matched.rest order _ restedAt).withTape _

/-- The orders at rest are the same on both sides together. -/
theorem Gapped.allResting_eq (gapped : Gapped gap traced book) :
    traced.allResting = book.allResting.map (·.renumber (pastGap gap)) := by
  rw [PlainBook.allResting, gapped.resting_eq, gapped.resting_eq, ← List.map_append]
  rfl

/-- An identifier names the same order in both books. -/
theorem Gapped.find?_eq (gapped : Gapped gap traced book) (orderId : UUID) :
    traced.find? orderId = (book.find? orderId).map (·.renumber (pastGap gap)) := by
  rw [PlainBook.find?, gapped.allResting_eq, List.find?_map]
  rfl

/-- Keeping orders by a test that does not look at numbers keeps the books alike. -/
theorem Gapped.keep (gapped : Gapped gap traced book) {test : Rested → Bool}
    (blind : ∀ rested, test (rested.renumber (pastGap gap)) = test rested) :
    Gapped gap (traced.keep test) (book.keep test) := by
  refine ⟨gapped.config_eq, gapped.tape_eq, fun side => ?_, gapped.sequence_eq, gapped.passed⟩
  simp only [PlainBook.keep, gapped.resting_eq, List.filter_map, Function.comp_def, blind]

/-- Levels do not look at sequence numbers. -/
theorem priceLevels_renumber (number : Nat → Nat) (resting : List Rested) :
    priceLevels (resting.map (·.renumber number)) = priceLevels resting := by
  -- The induction follows the orders, whose prices and quantities stay.
  induction resting with
  | nil => rfl
  | cons first rest ih =>
    simp only [List.map_cons, priceLevels, ih]
    rfl

/-- Every operation answers alike and keeps the books alike. -/
theorem Gapped.act (gapped : Gapped gap traced book) (op : BookOp) :
    (traced.act op).2 = (book.act op).2.renumber (pastGap gap) ∧
      Gapped gap (traced.act op).1 (book.act op).1 := by
  cases op with
  -- The settings agree, so both books refuse or place the order.
  | submit order now restAt =>
    have stamp : traced.stamp restAt = book.stamp restAt := by
      rw [PlainBook.stamp, PlainBook.stamp, gapped.config_eq]
    obtain ⟨result, placed⟩ := gapped.place order (book.stamp restAt)
    simp only [PlainBook.act, gapped.config_eq, stamp]
    split
    · exact ⟨rfl, gapped⟩
    · exact ⟨by rw [result]; rfl, placed⟩
  | cancel orderId now =>
    -- Orders keep their identifiers, so both books find the order or neither does.
    simp only [PlainBook.act, PlainBook.takeOut, gapped.find?_eq]
    cases book.find? orderId with
    | none => exact ⟨rfl, gapped⟩
    | some rested => exact ⟨rfl, gapped.keep fun _ => rfl⟩
  -- The reads answer the same apart from the sequence numbers.
  | getOpenOrder orderId now =>
    refine ⟨?_, gapped⟩
    simp only [PlainBook.act, gapped.find?_eq, BookReply.renumber, Option.map_map]
    rfl
  | openOrders side now =>
    refine ⟨?_, gapped⟩
    simp only [PlainBook.act, gapped.resting_eq, BookReply.renumber, List.map_map]
    rfl
  | snapshot now =>
    refine ⟨?_, gapped⟩
    simp only [PlainBook.act, gapped.resting_eq, gapped.config_eq, priceLevels_renumber]
    rfl
  | totalQuantity side now =>
    refine ⟨?_, gapped⟩
    simp only [PlainBook.act, gapped.resting_eq, supply, List.map_map]
    rfl
  | bestPrice side now =>
    refine ⟨?_, gapped⟩
    simp only [PlainBook.act, gapped.resting_eq, List.head?_map, Option.map_map]
    rfl
  | recentTrades limit =>
    refine ⟨?_, gapped⟩
    simp only [PlainBook.act, gapped.tape_eq]
    split <;> rfl

end Act

section Fork

variable {book : PlainBook} {order : Order}

/-- The tape never grows past its capacity. -/
def PlainBook.TapeFits (book : PlainBook) : Prop :=
  book.tape.length ≤ book.config.recentTradeCapacity

/-- Extending a tape drops what does not fit. -/
theorem extendTape_length (capacity : Nat) (tape trades : List Trade) :
    (extendTape capacity tape trades).length ≤ capacity := by
  rw [extendTape, List.length_drop]
  omega

/-- An operation keeps the tape within its capacity. -/
theorem PlainBook.TapeFits.act (fits : book.TapeFits) (op : BookOp) : (book.act op).1.TapeFits := by
  unfold PlainBook.TapeFits
  rw [act_config]
  cases op with
  | submit order now restAt =>
    simp only [PlainBook.act]
    -- An order for another symbol leaves the tape; any other one extends it within bounds.
    split
    · exact fits
    · exact extendTape_length ..
  | cancel orderId now =>
    simp only [PlainBook.act, PlainBook.takeOut]
    split <;> exact fits
  | getOpenOrder | openOrders | snapshot | totalQuantity | bestPrice | recentTrades => exact fits

/-- An order that crosses nothing rests with its whole quantity. -/
theorem place_apart (apart : ∀ rested ∈ book.resting order.side.opposite,
    ¬ crosses order rested.order) (fits : book.TapeFits) (restedAt : ℚ) :
    book.place order restedAt =
      (book.rest order order.quantity restedAt, ⟨order.orderId, [], order.quantity⟩) := by
  -- Nothing is within reach, so no maker is taken and no trade is made.
  have reached : book.reached order = [] :=
    List.takeWhile_eq_nil_iff.mpr fun long => apart _ (List.getElem_mem long)
  have beyond : book.beyond order = book.resting order.side.opposite := by
    have whole : book.reached order ++ book.beyond order = book.resting order.side.opposite :=
      List.takeWhile_append_dropWhile
    rwa [reached, List.nil_append] at whole
  have taken : book.taken order = ⟨[], order.quantity, []⟩ := by
    rw [PlainBook.taken, reached]
    rfl
  have trades : book.tradesOf order = [] := by
    rw [PlainBook.tradesOf, taken]
    rfl
  have positive := order.quantity_pos
  -- The tape fits, so nothing is dropped from it.
  have tape : extendTape book.config.recentTradeCapacity book.tape [] = book.tape := by
    have short : book.tape.length ≤ book.config.recentTradeCapacity := fits
    rw [extendTape, List.append_nil, Nat.sub_eq_zero_of_le short, List.drop_zero]
  simp only [PlainBook.place, trades, taken, beyond, if_neg positive.ne', tape, List.nil_append,
    setResting_self]
  rfl

/-- Taking a newly rested order out again leaves the gap in the sequence numbers only. -/
theorem takeOut_rest (fresh : ∀ rested ∈ book.allResting, rested.order.orderId ≠ order.orderId)
    (remaining : Int) (restedAt : ℚ) :
    (book.rest order remaining restedAt).takeOut order.orderId =
      ({ book with sequence := book.sequence + 1 }, .ok ⟨order, remaining, book.sequence + 1⟩) := by
  set newcomer : Rested := ⟨order, remaining, book.sequence + 1, restedAt⟩ with newcomer_eq
  -- The newcomer joins its own side, and the other side is unchanged.
  have resting : ∀ side, (book.rest order remaining restedAt).resting side =
      if side = order.side then PlainBook.joined order.side newcomer (book.resting order.side)
      else book.resting side := fun side => by
    simp only [PlainBook.rest, PlainBook.setResting, Function.update_apply]
    rfl
  have members : ∀ rested, rested ∈ (book.rest order remaining restedAt).allResting ↔
      rested = newcomer ∨ rested ∈ book.allResting := by
    intro rested
    simp only [PlainBook.mem_allResting, resting]
    constructor
    · rintro ⟨side, member⟩
      split at member
      · exact (mem_insertAfter.mp member).imp id fun old => ⟨order.side, old⟩
      · exact .inr ⟨side, member⟩
    · rintro (rfl | ⟨side, member⟩)
      · exact ⟨order.side, by rw [if_pos rfl]; exact mem_insertAfter.mpr (.inl rfl)⟩
      · refine ⟨side, ?_⟩
        split
        · rename_i same
          exact mem_insertAfter.mpr (.inr (same ▸ member))
        · exact member
  -- The identifier is new, so the search finds the newcomer and nothing else.
  have found : (book.rest order remaining restedAt).find? order.orderId = some newcomer := by
    cases search : (book.rest order remaining restedAt).find? order.orderId with
    | none =>
      have absent := List.find?_eq_none.mp search newcomer ((members newcomer).mpr (.inl rfl))
      exact absurd (decide_eq_true rfl) absent
    | some rested =>
      have named : rested.order.orderId = order.orderId :=
        of_decide_eq_true (List.find?_some search :)
      have inside := (members rested).mp (List.mem_of_find?_eq_some search)
      rw [inside.resolve_right fun old => fresh rested old named]
  simp only [PlainBook.takeOut, found]
  congr 1
  have others : ∀ side, ∀ rested ∈ book.resting side,
      decide (rested.order.orderId ≠ order.orderId) = true := fun side rested member =>
    decide_eq_true (fresh rested (PlainBook.mem_allResting.mpr ⟨side, member⟩))
  -- Taking the newcomer out again gives each side back.
  have left : ∀ side, ((book.rest order remaining restedAt).resting side).filter
      (fun other => other.order.orderId ≠ order.orderId) = book.resting side := fun side => by
    rw [resting]
    split
    · rename_i same
      have dropped : decide (newcomer.order.orderId ≠ order.orderId) = false :=
        decide_eq_false (not_not_intro rfl)
      rw [same]
      exact filter_insertAfter dropped (others order.side)
    · exact List.filter_eq_self.mpr (others side)
  simp only [PlainBook.keep, left]
  rfl

end Fork

/-- Every book reached through distinct identifiers has a tape within its capacity. -/
theorem run_tapeFits (config : BookConfig) (before after : List BookOp)
    (distinct : ((before ++ after).flatMap BookOp.newIds).Nodup) :
    ∃ book outputs, Machine.run OrderBook.perform (OrderBook.new config) before =
      .ok (book, outputs) ∧ Ready book after ∧ book.config = config ∧ book.plain.TapeFits := by
  have empty : (OrderBook.new config).plain.TapeFits := Nat.zero_le _
  refine Machine.run_invariant
    (fun book rest => Ready book (rest ++ after) ∧ book.config = config ∧ book.plain.TapeFits)
    (fun book op later held => ?_) before _ ⟨new_ready config distinct, rfl, empty⟩
  obtain ⟨ready, same, fits⟩ := held
  obtain ⟨book', reply, calls, gone, expired, ran, done, ready'⟩ := ready.step
  -- Expiry leaves the tape and the settings alone.
  have fits' : expired.TapeFits := by
    rw [PlainBook.TapeFits, done.expired_eq.1, done.expired_eq.2.2]
    exact fits
  exact ⟨book', (reply, calls), ran, ready', done.config_eq.trans same,
    done.plain_eq ▸ fits'.act op⟩

/--
Without a maximum age, an order that rests and is then cancelled leaves no trace.

The cancel returns its full quantity, and later calls answer as if neither call had been made.
-/
theorem rest_then_cancel (config : BookConfig) (ageless : config.maxAgeSeconds = 0)
    (order : Order) (own : order.symbol = config.symbol) (now restAt cancelAt : ℚ)
    (before after : List BookOp)
    (distinct : ((before ++ .submit order now restAt :: after).flatMap BookOp.newIds).Nodup) :
    ∃ book told,
      Machine.run OrderBook.perform (OrderBook.new config) before = .ok (book, told) ∧
      ((∀ rested ∈ book.plain.resting order.side.opposite, ¬ crosses order rested.order) →
        ∃ traced called last outputs last' outputs',
          Machine.run OrderBook.perform book
            [.submit order now restAt, .cancel order.orderId cancelAt] = .ok (traced, called) ∧
          called.map Prod.fst = [.matched ⟨order.orderId, [], order.quantity⟩,
            .canceled ⟨order, order.quantity, book.sequence + 1⟩] ∧
          Machine.run OrderBook.perform book after = .ok (last, outputs) ∧
          Machine.run OrderBook.perform traced after = .ok (last', outputs') ∧
          outputs'.map Prod.fst =
            outputs.map (fun output => output.1.renumber (pastGap book.sequence)) ∧
          last'.openOrderCount = last.openOrderCount) := by
  obtain ⟨book, told, ran, ready, same, fits⟩ := run_tapeFits config before _ distinct
  refine ⟨book, told, ran, fun apart => ?_⟩
  have ageless' : book.config.maxAgeSeconds = 0 := same ▸ ageless
  -- The order rests with its whole quantity.
  obtain ⟨rested, reply, calls, stepped, replied, rested_plain, ready', rested_ageless⟩ :=
    ready.plain_step ageless'
  rw [perform_ageless ageless', act_submit_own (own.trans (congrArg BookConfig.symbol same.symm)),
    place_apart apart fits] at replied rested_plain
  -- The cancel brings no identifier in, so the rest of the run is still ready.
  have cancels : Ready rested (.cancel order.orderId cancelAt :: after) :=
    ⟨ready'.ok, ready'.distinct, ready'.fresh⟩
  have unknown := ready.fresh order.orderId (List.mem_append_left _ (List.mem_singleton_self _))
  have fresh := (unindexed_iff ready.ok.core).mp unknown
  -- The cancel finds it there and takes it out.
  obtain ⟨traced, reply', calls', stepped', replied', traced_plain, traced_ready, traced_ageless⟩ :=
    cancels.plain_step rested_ageless
  have canceled := takeOut_rest fresh order.quantity (book.plain.stamp restAt)
  rw [perform_ageless rested_ageless, PlainBook.act, rested_plain, canceled] at replied' traced_plain
  -- Numbers up to the gap stay, so the books agree on all orders.
  have gapped : Gapped book.sequence traced.plain book.plain := by
    rw [traced_plain]
    refine ⟨rfl, rfl, fun side => ?_, rfl, le_refl _⟩
    refine (List.map_id (book.plain.resting side)).symm.trans (List.map_congr_left fun item member => ?_)
    have numbered : item.sequence ≤ book.sequence :=
      (ready.ok.plain_ok.located item (PlainBook.mem_allResting.mpr ⟨side, member⟩)).2
    rw [id, Rested.renumber, pastGap, if_pos numbered]
  have untouched : Ready book after := by
    have distinct' := ready.distinct
    rw [List.flatMap_cons] at distinct'
    exact ⟨ready.ok, distinct'.of_append_right, fun orderId member =>
      ready.fresh orderId (List.mem_append_right _ member)⟩
  -- From here on the two books differ by the gap only.
  obtain ⟨last, outputs, ran_on, alike, ok, plain⟩ := untouched.run_plain ageless'
  obtain ⟨last', outputs', ran_on', alike', ok', plain'⟩ := traced_ready.run_plain traced_ageless
  -- The two books simulate each other, call by call.
  obtain ⟨replies, gapped'⟩ := Machine.runTotal_simulation PlainBook.perform PlainBook.perform
    (BookReply.renumber (pastGap book.sequence))
    (fun traced model => Gapped book.sequence traced model ∧ model.config.maxAgeSeconds = 0)
    (fun traced model op held => by
      rw [perform_ageless held.2, perform_ageless (held.1.config_eq ▸ held.2)]
      exact ⟨(held.1.act op).1, (held.1.act op).2, by rw [act_config]; exact held.2⟩)
    after traced.plain book.plain ⟨gapped, ageless'⟩
  refine ⟨traced, [(reply, calls), (reply', calls')], last, outputs, last', outputs', ?_, ?_, ran_on,
    ran_on', ?_, ?_⟩
  · rw [Machine.run_cons stepped, Machine.run_cons stepped']
    rfl
  · rw [List.map_cons, List.map_cons, replied, replied']
    rfl
  · -- The answers of both runs are those of their plain books.
    rw [alike', replies, ← alike, List.map_map]
    rfl
  · rw [openOrderCount_eq ok, openOrderCount_eq ok', plain, plain', gapped'.1.allResting_eq,
      List.length_map]

/-- The price that is sought is positive. -/
theorem soughtPrice_pos : (0 : Int) < 69900 := by decide

/-- A buyer of two shares whose limit is below every offer. -/
def twoSought : Order :=
  { twoWanted with price := 69900, orderId := 3, price_pos := soughtPrice_pos }

/-- A bid below the offer rests and is cancelled, and later orders trade as without it. -/
theorem rest_then_cancel_lasting : ∃ book told,
    Machine.run OrderBook.perform (OrderBook.new lastingBook) [.submit fiveOffered 0 0] =
      .ok (book, told) ∧
    ∃ traced called last outputs last' outputs',
      Machine.run OrderBook.perform book
        [.submit twoSought 1 1, .cancel twoSought.orderId 2] = .ok (traced, called) ∧
      called.map Prod.fst = [.matched ⟨twoSought.orderId, [], twoSought.quantity⟩,
        .canceled ⟨twoSought, twoSought.quantity, book.sequence + 1⟩] ∧
      Machine.run OrderBook.perform book [.submit twoWanted 3 3, .snapshot 4] =
        .ok (last, outputs) ∧
      Machine.run OrderBook.perform traced [.submit twoWanted 3 3, .snapshot 4] =
        .ok (last', outputs') ∧
      outputs'.map Prod.fst =
        outputs.map (fun output => output.1.renumber (pastGap book.sequence)) ∧
      last'.openOrderCount = last.openOrderCount := by
  obtain ⟨book, told, ran, traced⟩ := rest_then_cancel lastingBook rfl twoSought rfl 1 1 2
    [.submit fiveOffered 0 0] [.submit twoWanted 3 3, .snapshot 4] (by decide)
  refine ⟨book, told, ran, traced fun rested member => ?_⟩
  -- The only offer is above the limit.
  have apart : (Machine.run OrderBook.perform (OrderBook.new lastingBook)
      [.submit fiveOffered 0 0]).map (fun reached => (reached.1.plain.resting .sell).all
        fun rested => !crosses twoSought rested.order) = .ok true := by
    decide +kernel
  rw [ran] at apart
  simpa using List.all_eq_true.mp (Except.ok.inj apart) rested member

end StockMarket
