import StockMarket.Orderbook.Runs

/-! Under a clock that never goes back, expiry on demand answers like expiry at every call. -/

namespace StockMarket

/-- Every clock reading that a call may take, in order. -/
def BookOp.readings : BookOp → List ℚ
  | .submit _ now restAt => [now, restAt]
  | op => op.reading.toList

/-- The orders at rest came to rest by a given time, and the earlier ones no later. -/
structure Timed (clock : ℚ) (book : PlainBook) : Prop where
  stamped : ∀ rested ∈ book.allResting, rested.restedAt ≤ clock
  ascend : book.StampsAscend

section Expiry

variable {book : PlainBook}

/-- Keeping some of the orders leaves the configuration. -/
@[simp] theorem keep_config (test : Rested → Bool) : (book.keep test).config = book.config := rfl

/-- Keeping twice keeps what passes both tests. -/
theorem keep_keep (first second : Rested → Bool) :
    (book.keep first).keep second = book.keep fun rested => first rested && second rested := by
  simp only [PlainBook.keep, List.filter_filter, Bool.and_comm]

/-- Expiring again later makes the earlier expiry redundant. -/
theorem expireAt_expireAt {now later : ℚ} (ordered : now ≤ later) :
    (book.expireAt now).expireAt later = book.expireAt later := by
  by_cases disabled : book.config.maxAgeSeconds = 0
  · simp [PlainBook.expireAt, disabled]
  · simp only [PlainBook.expireAt, if_neg disabled, PlainBook.expireBefore, keep_config, keep_keep]
    -- Whoever outlives the later cut-off has outlived the earlier one.
    congr 1
    funext rested
    rw [← Bool.decide_and, decide_eq_decide]
    exact and_iff_right_of_imp (lt_of_le_of_lt (book.config.cutoff_mono ordered))

/-- Expiry keeps the construction arguments. -/
@[simp] theorem expireAt_config (now : ℚ) : (book.expireAt now).config = book.config := by
  simp only [PlainBook.expireAt]
  split <;> rfl

/-- Expiry keeps the tape. -/
@[simp] theorem expireAt_tape (now : ℚ) : (book.expireAt now).tape = book.tape := by
  simp only [PlainBook.expireAt]
  split <;> rfl

/-- A well-formed book stays so when its due orders expire. -/
theorem PlainOk.expireAt (ok : PlainOk book) (now : ℚ) : PlainOk (book.expireAt now) := by
  unfold PlainBook.expireAt
  split
  · exact ok
  · exact ok.keep _

/-- Expiry only takes orders away. -/
theorem expireAt_sub {now : ℚ} {rested : Rested}
    (member : rested ∈ (book.expireAt now).allResting) : rested ∈ book.allResting := by
  -- Expiry keeps everything, or some of it.
  unfold PlainBook.expireAt at member
  split at member
  · exact member
  · rw [PlainBook.expireBefore, keep_allResting] at member
    exact List.mem_of_mem_filter member

/-- With ascending stamps, expiry on demand removes exactly the orders that are due. -/
theorem ExpiryAt.eq_expireAt {now : ℚ} {gone : List Rested} {after : PlainBook}
    (done : ExpiryAt now book gone after) (ok : PlainOk book)
    (ascend : book.config.maxAgeSeconds ≠ 0 → book.StampsAscend) :
    after = book.expireAt now := by
  by_cases disabled : book.config.maxAgeSeconds = 0
  · rw [done.after_eq, done.disabled disabled, PlainBook.expireAt, if_pos disabled]
    simp [PlainBook.keep]
  · have young := done.thorough disabled (ascend disabled)
    rw [PlainBook.expireAt, if_neg disabled, PlainBook.expireBefore]
    rw [done.after_eq] at young ⊢
    simp only [PlainBook.keep, PlainBook.mk.injEq, true_and, and_true]
    funext side
    refine List.filter_congr fun rested member => ?_
    rw [decide_eq_decide]
    -- What stays is young, and what is young is not among those that are gone.
    constructor
    · intro stays
      refine young rested (PlainBook.mem_allResting.mpr ⟨side, ?_⟩)
      exact List.mem_filter.mpr ⟨member, decide_eq_true stays⟩
    · intro fresh listed
      obtain ⟨other, inside, same⟩ := List.mem_map.mp listed
      have rests := PlainBook.mem_allResting.mpr ⟨side, member⟩
      have equal := List.inj_on_of_nodup_map ok.placed (done.resting other inside) rests same
      exact absurd (equal ▸ done.due other inside) (not_le.mpr fresh)

end Expiry

/-- The orders at rest after a call came to rest by its last clock reading. -/
theorem Performed.timed {book book' : OrderBook} {op : BookOp} {reply : BookReply}
    {calls : List Callback} {gone : List Rested} {expired : PlainBook} {clock clock' : ℚ}
    (done : Performed book op book' reply calls gone expired) (ok : BookOk book)
    (aged : book.config.maxAgeSeconds ≠ 0) (timed : Timed clock book.plain)
    (low : ∀ reading ∈ op.readings, clock ≤ reading) (forth : clock ≤ clock')
    (high : ∀ reading ∈ op.readings, reading ≤ clock') : Timed clock' book'.plain := by
  -- A newcomer has the latest sequence number and the latest stamp.
  have stamp_of : ∀ {rested}, Newcomer book.plain op rested →
      clock ≤ rested.restedAt ∧ rested.restedAt ≤ clock' := fun newcomer => by
    obtain ⟨now, restAt, submitted, _, stamped⟩ := newcomer.submitted
    have stamp : book.plain.stamp restAt = restAt := if_neg aged
    have read : restAt ∈ op.readings := by rw [submitted]; simp [BookOp.readings]
    rw [stamped, stamp]
    exact ⟨low restAt read, high restAt read⟩
  -- What rests afterwards rested before, or has just come in.
  have origin : ∀ rested ∈ book'.plain.allResting,
      (∃ before ∈ book.plain.allResting, Stems before rested) ∨ Newcomer book.plain op rested :=
    fun rested member => by
      obtain ⟨side, inside⟩ := PlainBook.mem_allResting.mp member
      exact (done.origin inside).imp (fun ⟨before, rests, stems⟩ =>
        ⟨before, PlainBook.mem_allResting.mpr ⟨side, rests⟩, stems⟩) id
  have located := ok.plain_ok.located
  refine ⟨fun rested member => ?_, fun first member second member' less => ?_⟩
  · rcases origin rested member with ⟨before, rests, stems⟩ | newcomer
    · rw [stems.restedAt_eq]
      exact (timed.stamped before rests).trans forth
    · exact (stamp_of newcomer).2
  · rcases origin first member with ⟨before, rests, stems⟩ | newcomer <;>
      rcases origin second member' with ⟨before', rests', stems'⟩ | newcomer'
    · rw [stems.restedAt_eq, stems'.restedAt_eq]
      exact timed.ascend before rests before' rests'
        (by rwa [stems.sequence_eq, stems'.sequence_eq] at less)
    · rw [stems.restedAt_eq]
      exact (timed.stamped before rests).trans (stamp_of newcomer').1
    · rw [newcomer.sequence_eq, stems'.sequence_eq] at less
      have := (located before' rests').2
      omega
    · rw [newcomer.sequence_eq, newcomer'.sequence_eq] at less
      exact absurd less (lt_irrefl _)

/-- Between calls the eager book differs at most by orders that are due by now. -/
structure Lags (book : OrderBook) (model : PlainBook) (later : List BookOp) : Prop where
  ready : Ready book later
  ordered : (later.flatMap BookOp.readings).Pairwise (· ≤ ·)
  timed : ∃ clock, Timed clock book.plain ∧
    (∀ reading ∈ later.flatMap BookOp.readings, clock ≤ reading) ∧
    ∀ now, clock ≤ now → book.plain.expireAt now = model.expireAt now

/-- A clock reading that bounds those of one call and is bounded by those of the later ones. -/
theorem exists_clock {clock : ℚ} {op : BookOp} {later : List BookOp}
    (ordered : ((op :: later).flatMap BookOp.readings).Pairwise (· ≤ ·))
    (low : ∀ reading ∈ (op :: later).flatMap BookOp.readings, clock ≤ reading) :
    ∃ clock', clock ≤ clock' ∧ (∀ reading ∈ op.readings, reading ≤ clock') ∧
      ∀ reading ∈ later.flatMap BookOp.readings, clock' ≤ reading := by
  -- The clock moves on to the last reading of the operation, if there is one.
  rw [List.flatMap_cons, List.pairwise_append] at ordered
  rw [List.flatMap_cons] at low
  have own : ∀ reading ∈ op.readings, clock ≤ reading :=
    fun reading member => low reading (List.mem_append_left _ member)
  cases last : op.readings.getLast? with
  | none =>
    have silent := List.getLast?_eq_none_iff.mp last
    exact ⟨clock, le_refl _, fun reading member => by simp [silent] at member,
      fun reading member => low reading (List.mem_append_right _ member)⟩
  | some reading =>
    have member := List.mem_of_getLast? last
    refine ⟨reading, own reading member, fun other inside => ?_,
      fun other inside => ordered.2.2 reading member other inside⟩
    obtain ⟨front, split⟩ := List.getLast?_eq_some_iff.mp last
    rw [split] at inside ordered
    rcases List.mem_append.mp inside with inside | inside
    · exact (List.pairwise_append.mp ordered.1).2.2 other inside reading (List.mem_singleton_self _)
    · rw [List.mem_singleton] at inside
      exact inside.le

/-- A book about to see operations at readings no earlier than those it has taken. -/
structure Clocked (book : OrderBook) (later : List BookOp) : Prop where
  ready : Ready book later
  ordered : (later.flatMap BookOp.readings).Pairwise (· ≤ ·)
  timed : book.config.maxAgeSeconds ≠ 0 → ∃ clock, Timed clock book.plain ∧
    ∀ reading ∈ later.flatMap BookOp.readings, clock ≤ reading

/-- Some reading comes no later than all the others. -/
theorem exists_first {readings : List ℚ} (ordered : readings.Pairwise (· ≤ ·)) :
    ∃ first, ∀ reading ∈ readings, first ≤ reading := by
  cases readings with
  | nil => exact ⟨0, by simp⟩
  | cons first rest =>
    -- The first reading is the earliest, as they ascend.
    refine ⟨first, fun reading member => ?_⟩
    rcases List.mem_cons.mp member with rfl | later
    · exact le_refl _
    · exact (List.pairwise_cons.mp ordered).1 reading later

/-- Nothing rests in a new book, so nothing rests too late. -/
theorem new_timed (config : BookConfig) (clock : ℚ) :
    Timed clock (OrderBook.new config).plain := by
  rw [new_plain]
  exact ⟨fun _ member => by simp [PlainBook.allResting, PlainBook.new] at member,
    fun _ member => by simp [PlainBook.allResting, PlainBook.new] at member⟩

/-- A new book is ready for operations under a clock that never goes back. -/
theorem new_clocked (config : BookConfig) {ops : List BookOp}
    (distinct : (ops.flatMap BookOp.newIds).Nodup)
    (ordered : (ops.flatMap BookOp.readings).Pairwise (· ≤ ·)) :
    Clocked (OrderBook.new config) ops := by
  obtain ⟨first, low⟩ := exists_first ordered
  exact ⟨new_ready config distinct, ordered, fun _ => ⟨first, new_timed config first, low⟩⟩

/-- The first operation is performed, and the clock goes on. -/
theorem Clocked.step {book : OrderBook} {op : BookOp} {later : List BookOp}
    (clocked : Clocked book (op :: later)) : ∃ book' reply calls gone expired,
      book.perform op = .ok (book', reply, calls) ∧
        Performed book op book' reply calls gone expired ∧ Clocked book' later := by
  -- The readings of the operation lie between the old clock and the new one.
  obtain ⟨book', reply, calls, gone, expired, ran, done, ready⟩ := clocked.ready.step
  have ordered := clocked.ordered
  rw [List.flatMap_cons, List.pairwise_append] at ordered
  refine ⟨book', reply, calls, gone, expired, ran, done, ready, ordered.2.1, fun aged => ?_⟩
  have aged_before : book.config.maxAgeSeconds ≠ 0 := done.config_eq ▸ aged
  obtain ⟨clock, timed, low⟩ := clocked.timed aged_before
  obtain ⟨clock', forth, high, low'⟩ := exists_clock clocked.ordered low
  have own : ∀ reading ∈ op.readings, clock ≤ reading := fun reading member =>
    low reading (by rw [List.flatMap_cons]; exact List.mem_append_left _ member)
  exact ⟨clock', done.timed clocked.ready.ok aged_before timed own forth high, low'⟩

/-- A call keeps the books together and gives both the same reply. -/
theorem Lags.step {book : OrderBook} {model : PlainBook} {op : BookOp} {later : List BookOp}
    (lags : Lags book model (op :: later)) (aged : book.config.maxAgeSeconds ≠ 0) :
    ∃ book' reply calls gone expired, book.perform op = .ok (book', reply, calls) ∧
      Performed book op book' reply calls gone expired ∧ reply = (model.perform op).2 ∧
      Lags book' (model.perform op).1 later := by
  obtain ⟨book', reply, calls, gone, expired, ran, done, ready⟩ := lags.ready.step
  obtain ⟨clock, timed, low, agree⟩ := lags.timed
  obtain ⟨clock', forth, high, low'⟩ := exists_clock lags.ordered low
  have ordered : (later.flatMap BookOp.readings).Pairwise (· ≤ ·) := by
    have both := lags.ordered
    rw [List.flatMap_cons, List.pairwise_append] at both
    exact both.2.1
  have own : ∀ reading ∈ op.readings, clock ≤ reading := fun reading member =>
    low reading (by rw [List.flatMap_cons]; exact List.mem_append_left _ member)
  have timed' := done.timed lags.ready.ok aged timed own forth high
  have agree_now := agree clock (le_refl _)
  have config : book.plain.config = model.config := by
    simpa using congrArg PlainBook.config agree_now
  -- An operation that expires orders leaves the two books equal.
  have meets : ∀ now, op.expiresAt book.plain.config.symbol = some now → op.reading = some now →
      clock ≤ now → reply = (model.perform op).2 ∧ book'.plain = (model.perform op).1 := by
    intro now visible read late
    have expiry := done.expiry
    rw [ExpiryOf, visible] at expiry
    have same := expiry.eq_expireAt lags.ready.ok.plain_ok fun _ => timed.ascend
    rw [agree now late] at same
    have performed : model.perform op = expired.act op := by rw [PlainBook.perform, read, same]
    rw [performed]
    exact ⟨done.reply_eq, done.plain_eq⟩
  -- It is left to show the reply, and that the books expire to the same from here on.
  suffices told : reply = (model.perform op).2 ∧
      ∀ now, clock' ≤ now → book'.plain.expireAt now = (model.perform op).1.expireAt now from
    ⟨book', reply, calls, gone, expired, ran, done, told.1, ready, ordered, clock', timed', low',
      told.2⟩
  cases op with
  | submit order now restAt =>
    by_cases own_symbol : order.symbol = book.plain.config.symbol
    · have met := meets now (if_pos own_symbol) rfl (own now (by simp [BookOp.readings]))
      exact ⟨met.1, fun _ _ => by rw [met.2]⟩
    · -- A refused order expires nothing yet, which the next call makes up for.
      have silent : BookOp.expiresAt book.plain.config.symbol (.submit order now restAt) = none :=
        if_neg own_symbol
      have expiry := done.expiry
      rw [ExpiryOf, silent] at expiry
      have refused := @act_submit_foreign book.plain order now restAt own_symbol
      have refused' : model.perform (.submit order now restAt) = _ :=
        @act_submit_foreign (model.expireAt now) order now restAt (by rwa [expireAt_config, ← config])
      have before : clock ≤ now := own now (by simp [BookOp.readings])
      refine ⟨?_, fun later_now late => ?_⟩
      · rw [done.reply_eq, expiry.2, refused, refused', expireAt_config, config]
      · have ordered_now : now ≤ later_now := (high now (by simp [BookOp.readings])).trans late
        rw [done.plain_eq, expiry.2, refused, refused', expireAt_expireAt ordered_now,
          agree later_now (before.trans ordered_now)]
  | recentTrades limit =>
    have expiry : gone = [] ∧ expired = book.plain := done.expiry
    have tape : book.plain.tape = model.tape := by
      simpa using congrArg PlainBook.tape agree_now
    refine ⟨?_, fun now late => ?_⟩
    · rw [done.reply_eq, expiry.2]
      simp only [PlainBook.act, PlainBook.perform, BookOp.reading, tape]
    · rw [done.plain_eq, expiry.2]
      exact agree now (forth.trans late)
  | cancel _ now | getOpenOrder _ now | openOrders _ now | snapshot now | totalQuantity _ now
  | bestPrice _ now =>
    have met := meets now rfl rfl (own now (by simp [BookOp.readings, BookOp.reading]))
    exact ⟨met.1, fun _ _ => by rw [met.2]⟩

/--
Every order that a call reports as expired was at rest, since the cut-off of the call at the latest.

It has reached the maximum age unless the cut-off had to be rounded.
-/
def ExpiresOnlyDue (book : OrderBook) (op : BookOp) : Prop :=
  ∃ book' reply calls, book.perform op = .ok (book', reply, calls) ∧
    ∀ orderId ∈ closedIds .expired calls, ∃ rested ∈ book.plain.allResting, ∃ now,
      op.reading = some now ∧ rested.order.orderId = orderId ∧
        rested.restedAt ≤ book.config.cutoff now ∧
        (HasDouble (now - book.config.maxAgeSeconds) →
          book.config.maxAgeSeconds ≤ now - rested.restedAt)

/-- Where the cut-off need not be rounded, an order that is due has reached the maximum age. -/
theorem maxAge_le_of_due {config : BookConfig} {now restedAt : ℚ}
    (written : HasDouble (now - config.maxAgeSeconds)) (due : restedAt ≤ config.cutoff now) :
    config.maxAgeSeconds ≤ now - restedAt := by
  rw [BookConfig.cutoff, nearest_eq_self written] at due
  linarith

/-- No call reports a young order as expired. -/
theorem Ready.expiresOnlyDue {book : OrderBook} {op : BookOp} {later : List BookOp}
    (ready : Ready book (op :: later)) : ExpiresOnlyDue book op := by
  obtain ⟨book', reply, calls, gone, expired, ran, done, _⟩ := ready.step
  refine ⟨book', reply, calls, ran, fun orderId member => ?_⟩
  rw [done.calls_eq, closedIds_append, callsOf_expired, List.append_nil, closedIds_expired] at member
  obtain ⟨rested, inside, rfl⟩ := List.mem_map.mp member
  have expiry := done.expiry
  unfold ExpiryOf at expiry
  -- Only an operation that runs expiry can have closed an order so.
  split at expiry
  · rename_i now visible
    -- The instant of the expiry is the reading that the operation brings.
    have read : op.reading = some now := by
      cases op with
      | submit order now' restAt =>
        simp only [BookOp.expiresAt] at visible
        split at visible
        · exact visible
        · cases visible
      | _ => exact visible
    have due := expiry.due rested inside
    exact ⟨rested, expiry.resting rested inside, now, read, rfl, due,
      fun written => maxAge_le_of_due written due⟩
  · rw [expiry.1] at inside
    cases inside

/--
Lazy expiry answers every call like the eager book, under any clock that never goes back.

Both compute the time of the cut-off alike. Orders expire only when they are due by that time, and
each one that does is reported exactly once.
-/
theorem run_eager (config : BookConfig) (aged : 0 < config.maxAgeSeconds) (ops : List BookOp)
    (distinct : (ops.flatMap BookOp.newIds).Nodup)
    (clock : (ops.flatMap BookOp.readings).Pairwise (· ≤ ·)) :
    ∃ book outputs, Machine.run OrderBook.perform (OrderBook.new config) ops = .ok (book, outputs) ∧
      outputs.map Prod.fst = (Machine.runTotal PlainBook.perform (PlainBook.new config) ops).2 ∧
      Accounted outputs book ∧
      ∀ before op after, ops = before ++ op :: after → ∃ middle told,
        Machine.run OrderBook.perform (OrderBook.new config) before = .ok (middle, told) ∧
          ExpiresOnlyDue middle op := by
  obtain ⟨book, outputs, ran, accounted⟩ := run_accounted config ops distinct
  obtain ⟨first, low⟩ := exists_first clock
  -- The eager book answers the same, since the lazy one only lags behind it.
  obtain ⟨last, told, ran', alike, _⟩ := Machine.run_simulation Prod.fst
    (fun book model later => book.config.maxAgeSeconds ≠ 0 ∧ Lags book model later)
    (fun book model op later held => by
      obtain ⟨book', reply, calls, _, _, ran, done, same, lags⟩ := held.2.step held.1
      exact ⟨book', (reply, calls), ran, same, done.config_eq ▸ held.1, lags⟩)
    ops (OrderBook.new config) (PlainBook.new config)
    ⟨aged.ne', new_ready config distinct, clock, first, new_timed config first, low,
      fun _ _ => by rw [new_plain]⟩
  -- A run is a function, so this one is the run that is accounted for.
  have same := ran'.symm.trans ran
  injection same with same
  obtain ⟨rfl, rfl⟩ := Prod.mk.inj same
  refine ⟨last, told, ran', alike, accounted, fun before op after split => ?_⟩
  obtain ⟨middle, told', ran_before, ready, _⟩ :=
    run_ready config before (op :: after) (split ▸ distinct)
  exact ⟨middle, told', ran_before, ready.expiresOnlyDue⟩

/-- A minute under a clock that only tells whole seconds. -/
theorem run_eager_minute : ∃ book outputs,
    Machine.run OrderBook.perform (OrderBook.new minuteBook) minuteOps = .ok (book, outputs) ∧
      outputs.map Prod.fst =
        (Machine.runTotal PlainBook.perform (PlainBook.new minuteBook) minuteOps).2 ∧
      Accounted outputs book ∧
      ∀ before op after, minuteOps = before ++ op :: after → ∃ middle told,
        Machine.run OrderBook.perform (OrderBook.new minuteBook) before = .ok (middle, told) ∧
          ExpiresOnlyDue middle op :=
  run_eager minuteBook (by decide +kernel) minuteOps (by decide) (by decide +kernel)

/-- The double nearest to a tenth is not negative. -/
theorem tenth_nonneg : 0 ≤ mkRat 3602879701896397 36028797018963968 := by decide +kernel

/-- A book whose orders expire after a tenth of a second, as the nearest float to it. -/
def tenthBook : BookConfig :=
  { minuteBook with
    maxAgeSeconds := mkRat 3602879701896397 36028797018963968
    maxAge_nonneg := tenth_nonneg }

/-- An order that comes to rest at `999999.9` expires at `1000000.0`, which is less than `0.1` later. -/
theorem younger_expired :
    ¬∀ (config : BookConfig) (order : Order) (restAt now : ℚ), 0 < config.maxAgeSeconds →
      restAt ≤ now → now - restAt < config.maxAgeSeconds →
        ((Machine.run OrderBook.perform (OrderBook.new config)
          [.submit order restAt restAt, .snapshot now]).map
            fun ran => closedIds .expired (ran.2.flatMap Prod.snd)) = .ok [] :=
  fun always => absurd
    (always tenthBook fiveOffered (mkRat 8589933733006541 8589934592) 1000000 (by decide +kernel)
      (by decide +kernel) (by decide +kernel))
    (by decide +kernel)

end StockMarket
