import StockMarket.Orderbook.MatchLaws

/-! Every operation on a well-formed book answers like the plain book, once expiry has run. -/

namespace StockMarket

section Place

variable {book : OrderBook}

/-- The tape is not part of the representation. -/
theorem BookOk.withTape (ok : BookOk book) (tape : List Trade) :
    BookOk { book with recentTrades := tape } :=
  ⟨⟨ok.core.sides_ok, ok.core.live_listed, ok.core.index_iff⟩,
    ⟨ok.arrivals.located, ok.arrivals.ordered, ok.arrivals.cover⟩⟩

/-- Placing an order trades, rests, and reports like the plain book. -/
theorem place_spec (ok : BookOk book) (order : Order) (restAt : ℚ)
    (fresh : book.index.get? order.orderId = none) :
    let placed := book.plain.place order (book.plain.stamp restAt)
    ∃ book', book.place order restAt = .ok (book', placed.2,
        PlainBook.filledCalls (book.plain.taken order).fills ++
          if (book.plain.taken order).left = 0 then [] else [.rest order.orderId]) ∧
      BookOk book' ∧ book'.expiredTotal = book.expiredTotal ∧ book'.plain = placed.1 := by
  -- One unit of fuel for each unit of quantity is more than the loop can use.
  have nonneg : 0 ≤ order.quantity := order.quantity_pos.le
  have enough : order.quantity < ((order.quantity.toNat + 1 : Nat) : Int) := by omega
  obtain ⟨matched, ran, core, later, arrivals, total, plain⟩ :=
    matchLoop_spec order (order.quantity.toNat + 1) book order.quantity ok.core nonneg enough
  -- Matching changes neither the tape nor the arrivals.
  have matched_ok : BookOk matched := ⟨core, arrivals ▸ later.arrivals ok.arrivals⟩
  have tape : matched.recentTrades = book.recentTrades := congrArg PlainBook.tape plain
  have left_nonneg : 0 ≤ (book.plain.taken order).left := (consume_left nonneg).1
  set tape' := extendTape matched.config.recentTradeCapacity matched.recentTrades
    (book.plain.tradesOf order) with tape'_eq
  -- The order is filled completely, or its rest goes to its own side.
  by_cases exhausted : (book.plain.taken order).left = 0
  · -- Nothing is left to rest.
    refine ⟨{ matched with recentTrades := tape' }, ?_, matched_ok.withTape _, total, ?_⟩
    · have settled : ¬ (book.plain.taken order).left ≠ 0 := not_not_intro exhausted
      have ran' : OrderBook.matchLoop order (order.quantity.toNat + 1) book order.quantity =
        .ok (matched, (book.plain.taken order).left, book.plain.tradesOf order,
          PlainBook.filledCalls (book.plain.taken order).fills) := ran
      simp only [OrderBook.place, ran', if_neg settled, Bind.bind, Except.bind, Pure.pure,
        Except.pure, PlainBook.place, if_pos exhausted]
      rfl
    · have placed : matched.plain = book.plain.setResting order.side.opposite
          ((book.plain.taken order).kept ++ book.plain.beyond order) := plain
      simp only [PlainBook.place, if_pos exhausted, ← placed]
      simp only [OrderBook.plain, tape'_eq, tape, later.config]
  · -- The rest joins the matched book under the next sequence number.
    obtain ⟨rested_ok, rested_plain⟩ := rest_spec matched_ok order
      (show 1 ≤ (book.plain.taken order).left by omega) restAt
      (later.unindexed _ fresh)
    refine ⟨{ (matched.rest order (book.plain.taken order).left restAt).1 with
      recentTrades := tape' }, ?_, rested_ok.withTape _, total, ?_⟩
    · have ran' : OrderBook.matchLoop order (order.quantity.toNat + 1) book order.quantity =
        .ok (matched, (book.plain.taken order).left, book.plain.tradesOf order,
          PlainBook.filledCalls (book.plain.taken order).fills) := ran
      simp only [OrderBook.place, ran', if_pos exhausted, Bind.bind, Except.bind, Pure.pure,
        Except.pure, PlainBook.place, if_neg exhausted]
      rfl
    · have placed : matched.plain = book.plain.setResting order.side.opposite
          ((book.plain.taken order).kept ++ book.plain.beyond order) := plain
      have stamped : matched.plain.stamp restAt = book.plain.stamp restAt := by rw [placed]; rfl
      rw [stamped] at rested_plain
      simp only [PlainBook.place, if_neg exhausted, ← placed, ← rested_plain]
      simp only [OrderBook.plain, tape'_eq, tape, later.config]

end Place

section Expiry

/-- Orders that arrived earlier came to rest no later. -/
def PlainBook.StampsAscend (book : PlainBook) : Prop :=
  ∀ first ∈ book.allResting, ∀ second ∈ book.allResting,
    first.sequence < second.sequence → first.restedAt ≤ second.restedAt

/-- What the expiry at the start of a call does to the resting orders. -/
structure ExpiryAt (now : ℚ) (before : PlainBook) (gone : List Rested) (after : PlainBook) :
    Prop where
  resting : ∀ rested ∈ gone, rested ∈ before.allResting
  due : ∀ rested ∈ gone, rested.restedAt ≤ before.config.cutoff now
  ordered : gone.Pairwise fun first second => first.sequence < second.sequence
  disabled : before.config.maxAgeSeconds = 0 → gone = []
  after_eq : after = before.keep fun rested => rested.sequence ∉ gone.map Rested.sequence
  thorough : before.config.maxAgeSeconds ≠ 0 → before.StampsAscend →
    ∀ rested ∈ after.allResting, before.config.cutoff now < rested.restedAt

/-- The reports about expired orders. -/
def expiredCalls (gone : List Rested) : List Callback :=
  gone.map fun rested => .close rested.order.orderId .expired

variable {book : OrderBook}

/-- Resting orders whose stamps ascend have entries whose stamps ascend. -/
theorem stampsAscend_of_plain (ok : CoreOk book) (ascend : book.plain.StampsAscend) :
    StampsAscend book := by
  intro first second live live' less
  refine ascend _ ((mem_allResting_iff ok).mpr ⟨first, live, rfl⟩) _
    ((mem_allResting_iff ok).mpr ⟨second, live', rfl⟩) ?_
  simpa [Entry.rested, ok.sequence_eq live, ok.sequence_eq live'] using less

/-- Expiry always succeeds and leaves a well-formed book without some of the due orders. -/
theorem expire_spec (ok : BookOk book) (now : ℚ) : ∃ book' gone,
    book.expire now = .ok (book', expiredCalls gone) ∧ BookOk book' ∧ Later book book' ∧
      book'.expiredTotal = book.expiredTotal + gone.length ∧
      ExpiryAt now book.plain gone book'.plain := by
  -- An age limit of zero switches expiry off.
  by_cases disabled : book.config.maxAgeSeconds = 0
  · refine ⟨book, [], ?_, ok, .refl book, rfl, by simp, by simp, .nil, fun _ => rfl, ?_, ?_⟩
    · rw [OrderBook.expire, if_pos disabled]; rfl
    · simp [PlainBook.keep]
    · exact fun aged => absurd disabled aged
  · obtain ⟨book', calls, gone, ran, done⟩ :=
      @expireLoop_spec (book.config.cutoff now) book.arrivals book ok.core ok.arrivals disabled
    refine ⟨book', gone.map fun ref => (book.heap ref).rested, ?_, ⟨done.core, done.arrivals⟩,
      done.later, by rw [done.total, List.length_map], fun rested member => ?_,
      fun rested member => ?_, ?_, fun zero => absurd zero disabled, ?_,
      fun _ ascend rested member => ?_⟩
    · rw [OrderBook.expire, if_neg disabled, ran, done.calls_eq]
      simp [expiredCalls, Entry.rested]
    · obtain ⟨ref, inside, rfl⟩ := List.mem_map.mp member
      exact (mem_allResting_iff ok.core).mpr ⟨ref, (done.old ref inside).1, rfl⟩
    · obtain ⟨ref, inside, rfl⟩ := List.mem_map.mp member
      exact (done.old ref inside).2
    · refine List.pairwise_map.mpr (done.ordered.imp_of_mem fun inside inside' less => ?_)
      show (book.heap _).sequence < (book.heap _).sequence
      rwa [ok.core.sequence_eq (done.old _ inside).1, ok.core.sequence_eq (done.old _ inside').1]
    · -- The locations of the removed entries are their sequence numbers.
      have locations : (gone.map fun ref => (book.heap ref).rested).map Rested.sequence = gone := by
        rw [List.map_map]
        refine (List.map_congr_left fun ref inside => ?_).trans (List.map_id gone)
        exact ok.core.sequence_eq (done.old ref inside).1
      rw [done.plain, locations]
    · obtain ⟨ref, live, rfl⟩ := (mem_allResting_iff done.core).mp member
      exact done.thorough (stampsAscend_of_plain ok.core ascend) ref live

end Expiry

section Reads

variable {heap : Heap} {bound : Nat} {side : OrderSide} {s : Side}

/-- Visiting levels by their keys never misses one. -/
theorem SideOk.walk_eq {α : Type} (ok : SideOk heap bound side s) (visit : Int → Level → List α) :
    ∀ keys, (∀ key ∈ keys, key ∈ s.keys) →
      s.walk visit keys =
        .ok (keys.flatMap fun key => visit (side.key key) (s.levelAt (side.key key))) := by
  intro keys
  -- Every key that is walked has its level, so that no step raises.
  induction keys with
  | nil => intro _; rfl
  | cons key rest ih =>
    intro listed
    obtain ⟨level, found⟩ := ok.level_of_key (listed key (by simp))
    have later := ih fun other member => listed other (by simp [member])
    have here : s.level (side.key key) = .ok level := SideOk.level_eq found
    simp only [Side.walk, here, later, Bind.bind, Except.bind, Pure.pure, Except.pure,
      List.flatMap_cons, Side.price, ok.side_eq, SideOk.levelAt_eq found]

/-- The live entries are read in priority order. -/
theorem SideOk.liveEntries_eq (ok : SideOk heap bound side s) :
    s.liveEntries heap = .ok (s.liveRefs heap) := by
  rw [Side.liveEntries, ok.walk_eq _ s.keys fun _ => id]
  simp only [Side.liveRefs, liveQueue, ok.side_eq]

/-- The first level stands at the price of the first order. -/
theorem priceLevels_head (resting : List Rested) :
    (priceLevels resting).head?.map (·.price) = resting.head?.map (·.order.price) := by
  -- The first order opens the first level, or joins one of its own price.
  cases resting with
  | nil => rfl
  | cons first rest =>
    simp only [priceLevels]
    cases priceLevels rest with
    | nil => rfl
    | cons level later =>
      by_cases same : level.price = first.order.price <;> simp [same]

/-- A run of orders at one price makes one level of its own. -/
theorem priceLevels_block {block rest : List Rested} (price : Int) (nonempty : block ≠ [])
    (priced : ∀ rested ∈ block, rested.order.price = price)
    (apart : ∀ rested, rest.head? = some rested → rested.order.price ≠ price) :
    priceLevels (block ++ rest) =
      ⟨price, supply Rested.remainingQuantity block⟩ :: priceLevels rest := by
  induction block with
  | nil => exact absurd rfl nonempty
  | cons first more ih =>
    have here := priced first (by simp)
    cases more with
    | nil =>
      -- The level behind the run starts at another price.
      have front := priceLevels_head rest
      cases levels : priceLevels rest with
      | nil => simp [priceLevels, levels, supply, here]
      | cons level later =>
        have differs : level.price ≠ first.order.price := by
          rw [levels] at front
          obtain ⟨rested, first_rest, same⟩ := Option.map_eq_some_iff.mp front.symm
          have priced : rested.order.price = level.price := same
          exact here ▸ priced ▸ apart rested first_rest
        simp [priceLevels, levels, supply, here, here ▸ differs]
    | cons second others =>
      have later := ih (by simp) fun rested member => priced rested (by simp [member])
      rw [List.cons_append, priceLevels, later]
      simp only [here, if_true, supply, List.map_cons, List.sum_cons]

/-- The levels of a side with their running totals are the price levels of its live orders. -/
theorem SideOk.bookLevels_eq (ok : SideOk heap bound side s) :
    s.bookLevels = .ok (priceLevels ((s.liveRefs heap).map fun ref => (heap ref).rested)) := by
  rw [Side.bookLevels, ok.walk_eq _ s.keys fun _ => id]
  congr 1
  simp only [Side.liveRefs, ok.side_eq, List.map_flatMap]
  -- Each key contributes one block, and the next block stands at another price.
  have grouped : ∀ keys : List Int, (∀ key ∈ keys, key ∈ s.keys) → keys.Pairwise (· < ·) →
      (keys.flatMap fun key => [(⟨side.key key, (s.levelAt (side.key key)).quantity⟩ : BookLevel)]) =
      priceLevels (keys.flatMap fun key =>
        (liveQueue heap (s.levelAt (side.key key)).queue).map fun ref => (heap ref).rested) := by
    intro keys
    induction keys with
    | nil => intro _ _; rfl
    | cons key rest ih =>
      intro listed sorted
      have order := List.pairwise_cons.mp sorted
      have blocks : ∀ other ∈ key :: rest, ∃ level, s.levelAt (side.key other) = level ∧
          LevelOk heap bound side (side.key other) level := fun other member => by
        obtain ⟨level, found⟩ := ok.level_of_key (listed other member)
        exact ⟨level, SideOk.levelAt_eq found, ok.levels_ok _ _ found⟩
      -- The first block is one level, whose quantity is the sum of its live orders.
      obtain ⟨level, at_key, level_ok⟩ := blocks key (by simp)
      rw [List.flatMap_cons, List.flatMap_cons, ih (fun other member => listed other (by simp [member]))
        order.2, priceLevels_block (side.key key)]
      · rw [at_key, level_ok.quantity_eq]
        simp only [quantityOf, supply, List.map_map, List.singleton_append]
        rfl
      · rw [at_key]
        simpa using SideOk.liveQueue_ne_nil level_ok
      · intro rested member
        rw [at_key] at member
        obtain ⟨ref, live, rfl⟩ := List.mem_map.mp member
        exact (level_ok.priced ref (List.mem_of_mem_filter live)).1
      · intro rested first
        -- The keys ascend, and so the next block has another price.
        obtain ⟨other, inside, member⟩ := List.mem_flatMap.mp (List.mem_of_head? first)
        obtain ⟨level', at_other, level_ok'⟩ := blocks other (by simp [inside])
        rw [at_other] at member
        obtain ⟨ref, live, rfl⟩ := List.mem_map.mp member
        have priced := (level_ok'.priced ref (List.mem_of_mem_filter live)).1
        show (heap ref).order.price ≠ _
        rw [priced, ne_eq, OrderSide.key_inj]
        exact (order.1 other inside).ne'
  exact grouped s.keys (fun _ => id) ok.keys_sorted

end Reads

section Perform

variable {book : OrderBook}

/-- A submit for another symbol is refused before anything expires. -/
def BookOp.expiresAt (symbol : String) : BookOp → Option ℚ
  | .submit order now _ => if order.symbol = symbol then some now else none
  | op => op.reading

/-- The expiry that precedes an operation, when there is one. -/
def ExpiryOf (op : BookOp) (before : PlainBook) (gone : List Rested) (after : PlainBook) : Prop :=
  match op.expiresAt before.config.symbol with
  | some now => ExpiryAt now before gone after
  | none => gone = [] ∧ after = before

/-- Everything one operation does: some orders expire, and the rest is as on the plain book. -/
structure Performed (book : OrderBook) (op : BookOp) (book' : OrderBook) (reply : BookReply)
    (calls : List Callback) (gone : List Rested) (expired : PlainBook) : Prop where
  ok : BookOk book'
  expiry : ExpiryOf op book.plain gone expired
  plain_eq : book'.plain = (expired.act op).1
  reply_eq : reply = (expired.act op).2
  calls_eq : calls = expiredCalls gone ++ expired.callsOf op
  total_eq : book'.expiredTotal = book.expiredTotal + gone.length

/-- An identifier is unindexed when no resting order carries it. -/
theorem unindexed_iff (ok : CoreOk book) {orderId : UUID} : book.index.get? orderId = none ↔
    ∀ rested ∈ book.plain.allResting, rested.order.orderId ≠ orderId := by
  have found := find?_plain ok orderId
  -- The index and the search through the orders at rest find the same.
  constructor
  · intro absent
    rw [absent, Option.map_none, PlainBook.find?, List.find?_eq_none] at found
    exact fun rested member => by simpa using found rested member
  · intro differs
    have nothing : book.plain.find? orderId = none :=
      List.find?_eq_none.mpr fun rested member => by simpa using differs rested member
    rw [nothing] at found
    exact Option.map_eq_none_iff.mp found.symm

/-- Cleaning a side on the way to its best order leaves the plain book alone. -/
theorem bestPrice_spec (ok : BookOk book) (side : OrderSide) : ∃ t front,
    (book.sides side).best book.heap = .ok (t, front) ∧ BookOk (book.setSide side t) ∧
      (book.setSide side t).plain = book.plain ∧
      front.map (fun ref => (book.heap ref).order.price) =
        (book.plain.resting side).head?.map fun rested => rested.order.price := by
  -- Cleaning changes no order at rest, and the first of them has the best price.
  obtain ⟨t, found, t_ok, t_live, _⟩ := (ok.core.sides_ok side).best_spec
  have later : Later book (book.setSide side t) := touch_later (.refl ..)
  refine ⟨t, _, found, ⟨touch_core ok.core (.refl ..) t_ok t_live, later.arrivals ok.arrivals⟩,
    (touch_plain ok.core (.refl ..) t_live).trans (setResting_self ..), ?_⟩
  simp only [OrderBook.plain, List.head?_map, Option.map_map]
  rfl

/-- An order of another symbol is refused before anything else. -/
theorem submit_foreign_spec (ok : BookOk book) (order : Order) (now restAt : ℚ)
    (foreign : order.symbol ≠ book.config.symbol) :
    ∃ reply, book.perform (.submit order now restAt) = .ok (book, reply, []) ∧
      Performed book (.submit order now restAt) book reply [] [] book.plain := by
  have refused : order.symbol ≠ book.symbol := foreign
  -- An order that is refused makes nothing expire.
  have silent : BookOp.expiresAt book.plain.config.symbol (.submit order now restAt) = none :=
    if_neg foreign
  refine ⟨_, ?_, ok, ?_, ?_, rfl, ?_, rfl⟩
  · simp only [OrderBook.perform, OrderBook.submit, if_pos refused, Bind.bind, Except.bind,
      Pure.pure, Except.pure, Except.map, Answer.reply, BookReply.ofResult, PlainBook.act]
    rw [if_pos (show order.symbol ≠ book.plain.config.symbol from foreign)]
    rfl
  · rw [ExpiryOf, silent]
    exact ⟨rfl, rfl⟩
  · simp only [PlainBook.act]
    rw [if_pos (show order.symbol ≠ book.plain.config.symbol from foreign)]
  · simp only [PlainBook.callsOf]
    rw [if_pos (show order.symbol ≠ book.plain.config.symbol from foreign)]
    rfl

/-- An order of the book's symbol is placed once the old ones have expired. -/
theorem submit_own_spec (ok : BookOk book) (order : Order) (now restAt : ℚ)
    (own : order.symbol = book.config.symbol) (fresh : book.index.get? order.orderId = none) :
    ∃ book' reply calls gone expired,
      book.perform (.submit order now restAt) = .ok (book', reply, calls) ∧
      Performed book (.submit order now restAt) book' reply calls gone expired := by
  obtain ⟨expired, gone, ran, expired_ok, later, total, done⟩ := expire_spec ok now
  obtain ⟨book', placed, book_ok, total', plain⟩ :=
    place_spec expired_ok order restAt (later.unindexed _ fresh)
  -- Expiry leaves the symbol of the book.
  have named : ¬ order.symbol ≠ expired.plain.config.symbol := by
    show ¬ order.symbol ≠ expired.config.symbol
    rw [later.config]
    exact not_not_intro own
  have due : BookOp.expiresAt book.plain.config.symbol (.submit order now restAt) = some now :=
    if_pos own
  refine ⟨book', _, expiredCalls gone ++ expired.plain.callsOf (.submit order now restAt), gone,
    expired.plain, ?_, book_ok, ?_, ?_, rfl, rfl, total'.trans total⟩
  · simp only [OrderBook.perform, OrderBook.submit,
      if_neg (show ¬ order.symbol ≠ book.symbol from not_not_intro own), ran, placed,
      Bind.bind, Except.bind, Pure.pure, Except.pure, Except.map, Answer.reply,
      BookReply.ofResult, PlainBook.act, if_neg named, PlainBook.callsOf]
  · rw [ExpiryOf, due]
    exact done
  · simp only [PlainBook.act, if_neg named, plain]

/-- No operation with a new identifier fails inside the book, and each does its plain counterpart. -/
theorem perform_spec (ok : BookOk book) (op : BookOp)
    (fresh : ∀ orderId ∈ op.newIds, book.index.get? orderId = none) :
    ∃ book' reply calls gone expired, book.perform op = .ok (book', reply, calls) ∧
      Performed book op book' reply calls gone expired := by
  -- Every operation but reading the tape starts with expiry.
  have expiry := fun now => expire_spec ok now
  cases op with
  | submit order now restAt =>
    by_cases own : order.symbol = book.config.symbol
    · exact submit_own_spec ok order now restAt own (fresh order.orderId (by simp [BookOp.newIds]))
    · obtain ⟨reply, refused, performed⟩ := submit_foreign_spec ok order now restAt own
      exact ⟨book, reply, [], [], book.plain, refused, performed⟩
  | cancel orderId now =>
    obtain ⟨expired, gone, ran, expired_ok, _, total, done⟩ := expiry now
    obtain ⟨book', taken, core, later, arrivals, total', plain⟩ := takeOut_spec expired_ok.core orderId
    refine ⟨book', _, expiredCalls gone, gone, expired.plain, ?_,
      ⟨core, arrivals ▸ later.arrivals expired_ok.arrivals⟩, done, plain, rfl,
      (List.append_nil _).symm, total'.trans total⟩
    simp only [OrderBook.perform, OrderBook.cancel, ran, taken, Bind.bind, Except.bind, Pure.pure,
      Except.pure, Except.map, Answer.reply, PlainBook.act]
  | getOpenOrder orderId now =>
    obtain ⟨expired, gone, ran, expired_ok, _, total, done⟩ := expiry now
    refine ⟨expired, _, expiredCalls gone, gone, expired.plain, ?_, expired_ok, done, rfl, rfl,
      (List.append_nil _).symm, total⟩
    simp only [OrderBook.perform, OrderBook.getOpenOrder, ran, Bind.bind, Except.bind, Pure.pure,
      Except.pure, Except.map, Answer.reply, BookReply.ofResult, PlainBook.act,
      find?_plain expired_ok.core, Option.map_map]
    rfl
  | openOrders side now =>
    obtain ⟨expired, gone, ran, expired_ok, _, total, done⟩ := expiry now
    refine ⟨expired, _, expiredCalls gone, gone, expired.plain, ?_, expired_ok, done, rfl, rfl,
      (List.append_nil _).symm, total⟩
    simp only [OrderBook.perform, OrderBook.openOrders, ran,
      (expired_ok.core.sides_ok side).liveEntries_eq, Bind.bind, Except.bind, Pure.pure,
      Except.pure, Except.map, Answer.reply, BookReply.ofResult, PlainBook.act, OrderBook.plain,
      List.map_map]
    rfl
  | snapshot now =>
    obtain ⟨expired, gone, ran, expired_ok, _, total, done⟩ := expiry now
    refine ⟨expired, _, expiredCalls gone, gone, expired.plain, ?_, expired_ok, done, rfl, rfl,
      (List.append_nil _).symm, total⟩
    simp only [OrderBook.perform, OrderBook.snapshot, ran,
      (expired_ok.core.sides_ok _).bookLevels_eq, Bind.bind, Except.bind, Pure.pure, Except.pure,
      Except.map, Answer.reply, BookReply.ofResult, PlainBook.act]
    rfl
  | totalQuantity side now =>
    obtain ⟨expired, gone, ran, expired_ok, _, total, done⟩ := expiry now
    refine ⟨expired, _, expiredCalls gone, gone, expired.plain, ?_, expired_ok, done, rfl, rfl,
      (List.append_nil _).symm, total⟩
    simp only [OrderBook.perform, OrderBook.totalQuantity, ran,
      (expired_ok.core.sides_ok side).total_eq_live, Bind.bind, Except.bind, Pure.pure,
      Except.pure, Except.map, Answer.reply, BookReply.ofResult, PlainBook.act, OrderBook.plain,
      supply, quantityOf, List.map_map]
    rfl
  | bestPrice side now =>
    obtain ⟨expired, gone, ran, expired_ok, _, total, done⟩ := expiry now
    -- Asking for the best price may drop dead entries in front of it.
    obtain ⟨t, front, found, t_ok, plain, price⟩ := bestPrice_spec expired_ok side
    refine ⟨expired.setSide side t, _, expiredCalls gone, gone, expired.plain, ?_, t_ok, done, plain,
      rfl, (List.append_nil _).symm, total⟩
    simp only [OrderBook.perform, OrderBook.bestPrice, ran, found, Bind.bind, Except.bind, Pure.pure,
      Except.pure, Except.map, Answer.reply, BookReply.ofResult, PlainBook.act, ← price]
    rfl
  | recentTrades limit =>
    exact ⟨book, _, [], [], book.plain, rfl, ok, ⟨rfl, rfl⟩, rfl, rfl, rfl, rfl⟩

end Perform

end StockMarket
