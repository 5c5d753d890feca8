import StockMarket.Library.Machine
import StockMarket.Orderbook.Accounting

/-! Runs of a book over any list of operations with distinct order identifiers. -/

namespace StockMarket

section Step

variable {book book' : OrderBook} {op : BookOp} {reply : BookReply} {calls : List Callback}
  {gone : List Rested} {expired : PlainBook}

/-- The orders at rest before an operation are those gone by expiry and those it acts on. -/
theorem Performed.split (done : Performed book op book' reply calls gone expired)
    (ok : BookOk book) : book.plain.allResting.Perm (gone ++ expired.allResting) := by
  have expiry := done.expiry
  unfold ExpiryOf at expiry
  split at expiry
  · -- The book is searched for old orders, or the operation does without.
    exact expiry_split ok.plain_ok expiry
  · rw [expiry.1, expiry.2, List.nil_append]

/-- Expiry keeps the construction arguments and the sequence number. -/
theorem Performed.expired_eq (done : Performed book op book' reply calls gone expired) :
    expired.config = book.config ∧ expired.sequence = book.sequence ∧
      expired.tape = book.recentTrades := by
  have expiry := done.expiry
  unfold ExpiryOf at expiry
  split at expiry
  · rw [expiry.after_eq]; exact ⟨rfl, rfl, rfl⟩
  · rw [expiry.2]; exact ⟨rfl, rfl, rfl⟩

/-- Every order that survives expiry was at rest before. -/
theorem Performed.expired_sub (done : Performed book op book' reply calls gone expired)
    {side : OrderSide} {rested : Rested} (member : rested ∈ expired.resting side) :
    rested ∈ book.plain.resting side := by
  have expiry := done.expiry
  unfold ExpiryOf at expiry
  split at expiry
  · rw [expiry.after_eq] at member
    exact List.mem_of_mem_filter member
  · exact expiry.2 ▸ member

/-- The book that an operation acts on is well formed. -/
theorem Performed.expired_ok (done : Performed book op book' reply calls gone expired)
    (ok : BookOk book) : PlainOk expired := by
  have expiry := done.expiry
  unfold ExpiryOf at expiry
  split at expiry
  · rw [expiry.after_eq]
    exact ok.plain_ok.keep _
  · exact expiry.2 ▸ ok.plain_ok

/-- Every order at rest before an operation or coming to rest in it leaves once or rests after it. -/
theorem Performed.exits (done : Performed book op book' reply calls gone expired)
    (ok : BookOk book) : (book.plain.ids ++ restedIds calls).Perm
      (closedIds .expired calls ++ closedIds .filled calls ++ reply.canceledIds ++
        book'.plain.ids) := by
  -- The orders that expire are closed, and the rest is left to the operation.
  have split := (done.split ok).map fun rested => rested.order.orderId
  have moved := act_exits (done.expired_ok ok) op
  rw [List.map_append] at split
  have no_expired := callsOf_expired expired op
  rw [done.calls_eq, done.reply_eq, done.plain_eq]
  simp only [restedIds_append, closedIds_append, restedIds_expired, closedIds_expired,
    closedIds_filled_expired, no_expired, List.nil_append, List.append_nil]
  refine (split.append_right _).trans ?_
  rw [List.append_assoc, List.append_assoc, List.append_assoc]
  refine List.Perm.append_left _ ?_
  rw [← List.append_assoc]
  exact moved

/-- An operation moves quantity between rest, trades, cancels, and expiry, and loses none. -/
theorem Performed.ledger (done : Performed book op book' reply calls gone expired)
    (ok : BookOk book) (fresh : ∀ orderId ∈ op.newIds, book.index.get? orderId = none)
    (orderId : UUID) :
    heldOf orderId book.plain.allResting + book.plain.broughtOf orderId op =
      tradedOf orderId reply.executions + reply.canceledOf orderId + heldOf orderId gone +
        heldOf orderId book'.plain.allResting := by
  have split := heldOf_perm orderId (done.split ok)
  -- The new identifiers are those of no order at rest.
  have moved := act_ledger (done.expired_ok ok) op (fun other member rested inside => by
    obtain ⟨side, inside⟩ := PlainBook.mem_allResting.mp inside
    exact (unindexed_iff ok.core).mp (fresh other member) rested
      (PlainBook.mem_allResting.mpr ⟨side, done.expired_sub inside⟩)) orderId
  have brought : expired.broughtOf orderId op = book.plain.broughtOf orderId op := by
    cases op with
    | submit order now restAt => simp only [PlainBook.broughtOf, done.expired_eq.1]; rfl
    | _ => rfl
  rw [heldOf_append] at split
  rw [done.reply_eq, done.plain_eq, ← brought]
  omega

/-- Every order at rest after an operation was at rest before, or came with the operation. -/
theorem Performed.origin (done : Performed book op book' reply calls gone expired)
    {side : OrderSide} {rested : Rested} (member : rested ∈ book'.plain.resting side) :
    (∃ before ∈ book.plain.resting side, Stems before rested) ∨
      Newcomer book.plain op rested := by
  rw [done.plain_eq] at member
  obtain ⟨config, sequence, _⟩ := done.expired_eq
  rcases act_origin member with ⟨before, inside, stems⟩ | newcomer
  · exact .inl ⟨before, done.expired_sub inside, stems⟩
  · obtain ⟨now, restAt, same, symbol, stamped⟩ := newcomer.submitted
    -- The stamp of the newcomer is the one that follows those of the book.
    refine .inr ⟨⟨now, restAt, same, ?_, ?_⟩, newcomer.sequence_eq.trans (congrArg (· + 1) sequence)⟩
    · rw [symbol, config]; rfl
    · rw [stamped]
      simp only [PlainBook.stamp, config]
      rfl

/-- The construction arguments of a book never change. -/
theorem Performed.config_eq (done : Performed book op book' reply calls gone expired) :
    book'.config = book.config := by
  have config := congrArg PlainBook.config done.plain_eq
  rw [act_config] at config
  exact config.trans done.expired_eq.1

/-- Identifiers that an operation does not introduce stay unindexed. -/
theorem Performed.unindexed (done : Performed book op book' reply calls gone expired)
    (ok : BookOk book) {orderId : UUID} (foreign : orderId ∉ op.newIds)
    (absent : book.index.get? orderId = none) : book'.index.get? orderId = none := by
  refine (unindexed_iff done.ok.core).mpr fun rested member same => ?_
  obtain ⟨side, inside⟩ := PlainBook.mem_allResting.mp member
  rcases done.origin inside with ⟨before, rests, stems⟩ | newcomer
  · -- The order was at rest before, and so it was indexed.
    refine (unindexed_iff ok.core).mp absent before (PlainBook.mem_allResting.mpr ⟨side, rests⟩) ?_
    rw [← stems.order_eq, same]
  · -- The order came with the operation, and its identifier is a new one.
    obtain ⟨now, restAt, submitted, _, _⟩ := newcomer.submitted
    exact foreign (by rw [submitted, BookOp.newIds, same]; exact List.mem_singleton_self _)

end Step

/-- A well-formed book about to see operations whose identifiers are new to it and distinct. -/
structure Ready (book : OrderBook) (later : List BookOp) : Prop where
  ok : BookOk book
  distinct : (later.flatMap BookOp.newIds).Nodup
  fresh : ∀ orderId ∈ later.flatMap BookOp.newIds, book.index.get? orderId = none

/-- The first operation is performed, and the book is ready for the others. -/
theorem Ready.step {book : OrderBook} {op : BookOp} {later : List BookOp}
    (ready : Ready book (op :: later)) : ∃ book' reply calls gone expired,
      book.perform op = .ok (book', reply, calls) ∧
      Performed book op book' reply calls gone expired ∧ Ready book' later := by
  have distinct := ready.distinct
  rw [List.flatMap_cons, List.nodup_append'] at distinct
  obtain ⟨book', reply, calls, gone, expired, ran, done⟩ := perform_spec ready.ok op
    fun orderId member => ready.fresh orderId (List.mem_append_left _ member)
  refine ⟨book', reply, calls, gone, expired, ran, done, done.ok, distinct.2.1,
    fun orderId member => ?_⟩
  -- The operation brings no identifier of those that follow.
  exact done.unindexed ready.ok (fun own => distinct.2.2 own member)
    (ready.fresh orderId (List.mem_append_right _ member))

/-- A new book is well formed. -/
theorem new_ok (config : BookConfig) : BookOk (OrderBook.new config) := by
  refine ⟨⟨fun side => ?_, fun ref live => ?_, fun orderId ref => ?_⟩,
    ⟨fun ref member => absurd member List.not_mem_nil, .nil, fun _ ref live => ?_⟩⟩
  · -- Nothing is linked in a new book, and no entry is live.
    exact ⟨rfl, .nil, fun price => by simp [OrderBook.new, Side.new],
      fun price level found => by simp [OrderBook.new, Side.new] at found, rfl⟩
  · have bound := live.1.trans live.2.1
    simp [OrderBook.new] at bound
  · constructor
    · intro found; simp [OrderBook.new] at found
    · rintro ⟨live, _⟩
      have bound := live.1.trans live.2.1
      simp [OrderBook.new] at bound
  · have bound := live.1.trans live.2.1
    simp [OrderBook.new] at bound

/-- The plain book of a new book is new. -/
@[simp] theorem new_plain (config : BookConfig) :
    (OrderBook.new config).plain = PlainBook.new config := by
  simp [OrderBook.plain, OrderBook.new, PlainBook.new, Side.liveRefs, Side.new]

/-- A new book is ready for operations with distinct identifiers. -/
theorem new_ready (config : BookConfig) {ops : List BookOp}
    (distinct : (ops.flatMap BookOp.newIds).Nodup) : Ready (OrderBook.new config) ops :=
  ⟨new_ok config, distinct, fun _ _ => rfl⟩

/-- What a run answered and called back. -/
abbrev Outputs := List (BookReply × List Callback)

/-- The identifiers reported as coming to rest in a run. -/
def restedIn (outputs : Outputs) : List UUID := outputs.flatMap fun output => restedIds output.2

/-- The identifiers reported as closed for a reason in a run. -/
def closedIn (reason : CloseReason) (outputs : Outputs) : List UUID :=
  outputs.flatMap fun output => closedIds reason output.2

/-- The identifiers that a run answered a cancel with. -/
def canceledIn (outputs : Outputs) : List UUID := outputs.flatMap fun output => output.1.canceledIds

/--
Every order that came to rest did so once, and is gone for one reason or still at rest.

No order is reported twice, and none under two of the reasons.
-/
structure Accounted (outputs : Outputs) (book : OrderBook) : Prop where
  once : (restedIn outputs).Nodup
  whereabouts : (restedIn outputs).Perm
    (closedIn .expired outputs ++ closedIn .filled outputs ++ canceledIn outputs ++ book.plain.ids)
  expired_total : book.expiredTotal = (closedIn .expired outputs).length

/-- An operation reports at most its own order as coming to rest. -/
theorem Performed.rested_sub {book book' : OrderBook} {op : BookOp} {reply : BookReply}
    {calls : List Callback} {gone : List Rested} {expired : PlainBook}
    (done : Performed book op book' reply calls gone expired) :
    (restedIds calls).Sublist op.newIds := by
  rw [done.calls_eq, restedIds_append, restedIds_expired, List.nil_append]
  cases op with
  -- Only a submit may bring an order to rest.
  | submit order now restAt =>
    simp only [PlainBook.callsOf, BookOp.newIds]
    split
    · exact List.nil_sublist _
    · rw [restedIds_append, restedIds_filled, List.nil_append]
      split
      · exact List.nil_sublist _
      · exact .refl _
  | _ => exact List.nil_sublist _

/-- A run accounts for every order, as far as it has come. -/
theorem accounted_step {past : Outputs} {book book' : OrderBook} {op : BookOp}
    {later : List BookOp} {reply : BookReply} {calls : List Callback} {gone : List Rested}
    {expired : PlainBook} (ready : Ready book (op :: later))
    (distinct : (restedIn past ++ (op :: later).flatMap BookOp.newIds).Nodup)
    (accounted : Accounted past book) (done : Performed book op book' reply calls gone expired) :
    (restedIn (past ++ [(reply, calls)]) ++ later.flatMap BookOp.newIds).Nodup ∧
      Accounted (past ++ [(reply, calls)]) book' := by
  have rested_eq : restedIn (past ++ [(reply, calls)]) = restedIn past ++ restedIds calls := by
    simp [restedIn]
  -- The identifiers that come to rest are among those that the operation brings.
  have shorter : (restedIn past ++ restedIds calls ++ later.flatMap BookOp.newIds).Sublist
      (restedIn past ++ (op :: later).flatMap BookOp.newIds) := by
    rw [List.flatMap_cons, List.append_assoc]
    exact (done.rested_sub.append_right _).append_left _
  have distinct' := distinct.sublist shorter
  have exits := done.exits ready.ok
  refine ⟨rested_eq ▸ distinct', rested_eq ▸ distinct'.of_append_left, ?_, ?_⟩
  · rw [rested_eq]
    have whereabouts := accounted.whereabouts
    -- Every order is counted where it was, and where it went.
    rw [List.perm_iff_count] at exits whereabouts ⊢
    intro orderId
    have before := whereabouts orderId
    have now := exits orderId
    simp only [closedIn, canceledIn, List.flatMap_append, List.flatMap_cons, List.flatMap_nil,
      List.append_nil, List.count_append] at before now ⊢
    omega
  · rw [done.total_eq, accounted.expired_total, done.calls_eq]
    simp [closedIn, callsOf_expired]

/-- A run over the first operations leaves the book ready for the others. -/
theorem run_ready (config : BookConfig) (before after : List BookOp)
    (distinct : ((before ++ after).flatMap BookOp.newIds).Nodup) :
    ∃ book outputs, Machine.run OrderBook.perform (OrderBook.new config) before =
      .ok (book, outputs) ∧ Ready book after ∧ book.config = config :=
  Machine.run_invariant (fun book rest => Ready book (rest ++ after) ∧ book.config = config)
    -- The book is ready for what is left of the run, whatever its length.
    (fun book op later held => by
      obtain ⟨book', reply, calls, _, _, ran, done, ready'⟩ := held.1.step
      exact ⟨book', (reply, calls), ran, ready', done.config_eq.trans held.2⟩)
    before _ ⟨new_ready config distinct, rfl⟩

/-- Every run with distinct identifiers accounts for every order that came to rest. -/
theorem run_accounted (config : BookConfig) (ops : List BookOp)
    (distinct : (ops.flatMap BookOp.newIds).Nodup) :
    ∃ book outputs, Machine.run OrderBook.perform (OrderBook.new config) ops = .ok (book, outputs) ∧
      Accounted outputs book := by
  have empty : Accounted [] (OrderBook.new config) := ⟨.nil, .refl _, rfl⟩
  obtain ⟨book, outputs, ran, _, _, accounted⟩ := Machine.run_history
    (fun past book later => Ready book later ∧
      (restedIn past ++ later.flatMap BookOp.newIds).Nodup ∧ Accounted past book)
    -- What is to come brings no identifier of the past.
    (fun past book op later held => by
      obtain ⟨ready, fresh, accounted⟩ := held
      obtain ⟨book', reply, calls, _, _, ran, done, ready'⟩ := ready.step
      exact ⟨book', (reply, calls), ran, ready', accounted_step ready fresh accounted done⟩)
    ops [] _ ⟨new_ready config distinct, distinct, empty⟩
  exact ⟨book, outputs, ran, accounted⟩

/-- Every book reached through distinct identifiers is well formed, and no run of operations fails. -/
theorem run_representation (config : BookConfig) (ops : List BookOp)
    (distinct : (ops.flatMap BookOp.newIds).Nodup) :
    ∃ book outputs, Machine.run OrderBook.perform (OrderBook.new config) ops = .ok (book, outputs) ∧
      BookOk book := by
  obtain ⟨book, outputs, ran, ready, _⟩ := run_ready config ops [] (by rwa [List.append_nil])
  exact ⟨book, outputs, ran, ready.ok⟩

/-- A book of one symbol that drops orders after a minute. -/
def minuteBook : BookConfig := ⟨"005930", 200, 60, by decide, by decide, by decide +kernel⟩

/-- A seller of five shares. -/
def fiveOffered : Order :=
  ⟨"maker", "005930", .sell, 70000, 5, 1, by decide, by decide, by decide, by decide⟩

/-- A buyer of two shares at a better limit. -/
def twoWanted : Order :=
  ⟨"taker", "005930", .buy, 70100, 2, 2, by decide, by decide, by decide, by decide⟩

/-- A maker is partly filled, and the rest of it expires at the next read. -/
def minuteOps : List BookOp :=
  [.submit fiveOffered 0 0, .submit twoWanted 1 1, .snapshot 61, .cancel 1 62]

/-- The book after a fill, a cancellation and an expiry. -/
theorem run_representation_minute : ∃ book outputs,
    Machine.run OrderBook.perform (OrderBook.new minuteBook) minuteOps = .ok (book, outputs) ∧
      BookOk book :=
  run_representation minuteBook minuteOps (by decide)

end StockMarket
