import StockMarket.Orderbook.BookLaws

/-! Matching and resting an order do to the book what they do to the plain book. -/

namespace StockMarket

section Touch

variable {book : OrderBook} {side : OrderSide} {s : Side} {heap' : Heap}

/-- The book with one side replaced and possibly one of its entries reduced. -/
def OrderBook.touch (book : OrderBook) (side : OrderSide) (s : Side) (heap' : Heap) : OrderBook :=
  { book.setSide side s with heap := heap' }

/-- A heap in which only remaining quantities on one side may differ. -/
structure Reduced (heap heap' : Heap) (side : OrderSide) : Prop where
  fields : ∀ ref, (heap' ref).order = (heap ref).order ∧ (heap' ref).restedAt = (heap ref).restedAt ∧
    (heap' ref).alive = (heap ref).alive
  away : ∀ ref, (heap ref).order.side ≠ side → heap' ref = heap ref

/-- An untouched heap. -/
theorem Reduced.refl (heap : Heap) (side : OrderSide) : Reduced heap heap side :=
  ⟨fun _ => ⟨rfl, rfl, rfl⟩, fun _ _ => rfl⟩

/-- Lowering one remaining quantity is such a change. -/
theorem Reduced.store {heap : Heap} {ref : Nat} (remaining : Int)
    (sided : (heap ref).order.side = side) :
    Reduced heap (heap.store ref { heap ref with remainingQuantity := remaining }) side where
  fields other := by
    by_cases same : other = ref
    · subst same; simp
    · simp [Heap.store_other same]
  away other differs := Heap.store_other fun same => differs (same ▸ sided)

/-- A taken maker changes its own side only. -/
theorem touch_sides (other : OrderSide) :
    (book.touch side s heap').sides other = if other = side then s else book.sides other := by
  simp only [OrderBook.touch, OrderBook.setSide, Function.update_apply]

/-- The live entries are the same after a touch. -/
theorem touch_live_iff (reduced : Reduced book.heap heap' side) {ref : Nat} :
    (book.touch side s heap').Live ref ↔ book.Live ref := by
  simp only [OrderBook.Live, OrderBook.touch, (reduced.fields ref).2.2]
  rfl

/-- A book whose maker is taken is later. -/
theorem touch_later (reduced : Reduced book.heap heap' side) :
    Later book (book.touch side s heap') where
  config := rfl
  sequence := rfl
  fields ref := ⟨(reduced.fields ref).1, (reduced.fields ref).2.1⟩
  alive ref still := by
    simp only [OrderBook.touch] at still
    rwa [(reduced.fields ref).2.2] at still
  unindexed _ absent := absent

/-- A touched side with the same live entries keeps the book well formed. -/
theorem touch_core (ok : CoreOk book) (reduced : Reduced book.heap heap' side)
    (s_ok : SideOk heap' book.sequence side s)
    (s_live : s.liveRefs heap' = (book.sides side).liveRefs book.heap) :
    CoreOk (book.touch side s heap') := by
  -- The other side has none of the entries that were written.
  have away : ∀ other, other ≠ side → ∀ ref, ref ≤ book.sequence →
      (book.heap ref).order.side = other → heap' ref = book.heap ref :=
    fun other differs ref _ sided => reduced.away ref fun same => differs (by rw [← sided, same])
  refine ⟨fun other => ?_, fun ref live => ?_, fun orderId ref => ?_⟩
  · rw [touch_sides]
    split
    · rename_i same; exact same ▸ s_ok
    · rename_i differs
      exact (ok.sides_ok other).frame (le_refl _) (away other differs)
  · have listed := ok.live_listed ref ((touch_live_iff reduced).mp live)
    have order : ((book.touch side s heap').heap ref).order = (book.heap ref).order :=
      (reduced.fields ref).1
    rw [order, touch_sides]
    split
    · rename_i same
      show ref ∈ s.liveRefs heap'
      rw [s_live]
      exact same ▸ listed
    · rename_i differs
      show ref ∈ (book.sides _).liveRefs heap'
      rwa [(ok.sides_ok _).liveRefs_frame (away _ differs)]
  · rw [touch_live_iff reduced]
    have order : ((book.touch side s heap').heap ref).order = (book.heap ref).order :=
      (reduced.fields ref).1
    rw [order]
    exact ok.index_iff orderId ref

/-- The plain book changes on the touched side only. -/
theorem touch_plain (ok : CoreOk book) (reduced : Reduced book.heap heap' side)
    (s_live : s.liveRefs heap' = (book.sides side).liveRefs book.heap) :
    (book.touch side s heap').plain = book.plain.setResting side
      (((book.sides side).liveRefs book.heap).map fun ref => (heap' ref).rested) := by
  simp only [OrderBook.plain, PlainBook.setResting, PlainBook.mk.injEq]
  refine ⟨rfl, funext fun other => ?_, rfl, rfl⟩
  rw [touch_sides, Function.update_apply]
  split
  · show (s.liveRefs heap').map _ = _
    rw [s_live]
    rfl
  · rename_i differs
    have away : ∀ ref, ref ≤ book.sequence → (book.heap ref).order.side = other →
        heap' ref = book.heap ref :=
      fun ref _ sided => reduced.away ref fun same => differs (by rw [← sided, same])
    show ((book.sides other).liveRefs heap').map _ = _
    rw [(ok.sides_ok other).liveRefs_frame away]
    -- The entries of the other side are unchanged.
    apply List.map_congr_left
    intro ref member
    show (heap' ref).rested = _
    rw [away ref ((ok.mem_liveRefs_iff.mp member).1.2.1) (ok.mem_liveRefs_iff.mp member).2]

/-- Rewriting a side to what it already is changes nothing. -/
theorem setResting_self (plain : PlainBook) (side : OrderSide) :
    plain.setResting side (plain.resting side) = plain := by
  simp [PlainBook.setResting]

/-- The last rewrite of a side is the one that counts. -/
@[simp] theorem setResting_setResting (plain : PlainBook) (side : OrderSide)
    (first second : List Rested) :
    (plain.setResting side first).setResting side second = plain.setResting side second := by
  simp [PlainBook.setResting]

/-- The rewritten side reads back. -/
@[simp] theorem setResting_resting_self (plain : PlainBook) (side : OrderSide)
    (resting : List Rested) : (plain.setResting side resting).resting side = resting := by
  simp [PlainBook.setResting]

end Touch

section Front

variable {book : OrderBook} {order : Order} {ref : Nat} {rest : List Nat}

/-- The orders of a side read in the order of its live locations. -/
theorem plain_front {side : OrderSide} (live : (book.sides side).liveRefs book.heap = ref :: rest) :
    book.plain.resting side =
      (book.heap ref).rested :: rest.map fun other => (book.heap other).rested := by
  simp [OrderBook.plain, live]

/-- An order within reach is the first of those within reach. -/
theorem reached_cons {first : Rested} {later : List Rested} {plain : PlainBook}
    (resting : plain.resting order.side.opposite = first :: later)
    (reach : crosses order first.order = true) :
    plain.reached order = first :: later.takeWhile fun rested => crosses order rested.order := by
  simp [PlainBook.reached, resting, reach]

/-- The orders out of reach come behind it. -/
theorem beyond_cons {first : Rested} {later : List Rested} {plain : PlainBook}
    (resting : plain.resting order.side.opposite = first :: later)
    (reach : crosses order first.order = true) :
    plain.beyond order = later.dropWhile fun rested => crosses order rested.order := by
  simp [PlainBook.beyond, resting, reach]

/-- Without the front location the later ones are left. -/
theorem filter_front {side : OrderSide} (ok : CoreOk book)
    (live : (book.sides side).liveRefs book.heap = ref :: rest) :
    ((book.sides side).liveRefs book.heap).filter (· ≠ ref) = rest := by
  -- A reference is listed once, so that the front one is not among the later ones.
  have nodup := (ok.sides_ok side).liveRefs_nodup
  rw [live, List.nodup_cons] at nodup
  rw [live, List.filter_cons_of_neg (by simp)]
  exact List.filter_eq_self.mpr fun other member => by
    simpa using fun same : other = ref => nodup.1 (same ▸ member)

/-- Without the front order of a side the plain book has the later ones. -/
theorem keep_front {side : OrderSide} (ok : CoreOk book)
    (live : (book.sides side).liveRefs book.heap = ref :: rest) :
    (book.plain.keep fun rested => rested.sequence ≠ ref) =
      book.plain.setResting side (rest.map fun other => (book.heap other).rested) := by
  have listed : ref ∈ (book.sides side).liveRefs book.heap := by simp [live]
  obtain ⟨live_ref, sided⟩ := ok.mem_liveRefs_iff.mp listed
  have nodup := (ok.sides_ok side).liveRefs_nodup
  rw [live, List.nodup_cons] at nodup
  simp only [PlainBook.keep, PlainBook.setResting, PlainBook.mk.injEq, true_and, and_true]
  funext other_side
  rw [Function.update_apply]
  split
  · -- On its own side the location that leaves is that of the front.
    rename_i same
    rw [same, plain_front live, List.filter_cons_of_neg
      (by simp [Entry.rested, ok.sequence_eq live_ref])]
    refine List.filter_eq_self.mpr fun rested member => ?_
    obtain ⟨other, inside, rfl⟩ := List.mem_map.mp member
    have member : other ∈ (book.sides side).liveRefs book.heap :=
      live ▸ List.mem_cons_of_mem ref inside
    simpa [Entry.rested, ok.sequence_eq (ok.mem_liveRefs_iff.mp member).1] using
      fun same : other = ref => nodup.1 (same ▸ inside)
  · -- The location that leaves belongs to one side only.
    rename_i differs
    refine List.filter_eq_self.mpr fun rested member => ?_
    obtain ⟨other, other_live, other_side, rfl⟩ := (mem_plain_iff ok).mp member
    simpa [Entry.rested, ok.sequence_eq other_live] using
      fun same => differs (by rw [← other_side, ← sided, same])

/-- When the front order is out of reach, so are all others. -/
theorem reached_eq_nil (unreached : ∀ ref ∈
      ((book.sides order.side.opposite).liveRefs book.heap).head?,
      ¬ crosses order (book.heap ref).order = true) : book.plain.reached order = [] := by
  cases live : (book.sides order.side.opposite).liveRefs book.heap with
  | nil => simp [PlainBook.reached, OrderBook.plain, live]
  | cons ref rest =>
    -- The orders in reach come first, and the first one is not in reach.
    have apart := unreached ref (by rw [live]; rfl)
    simp [PlainBook.reached, OrderBook.plain, live, Entry.rested, apart]

/-- Writing the entry in front leaves the orders behind it. -/
theorem later_untouched {side : OrderSide} {entry : Entry} (ok : CoreOk book)
    (live : (book.sides side).liveRefs book.heap = ref :: rest) :
    rest.map (fun other => (book.heap.store ref entry other).rested) =
      rest.map fun other => (book.heap other).rested := by
  have nodup := (ok.sides_ok side).liveRefs_nodup
  rw [live, List.nodup_cons] at nodup
  refine List.map_congr_left fun other member => ?_
  rw [Heap.store_other fun same : other = ref => nodup.1 (same ▸ member)]

/-- Without the front order in reach, those behind it are in reach next. -/
theorem next_reached {plain next : PlainBook} {first : Rested} {later : List Rested}
    (resting : plain.resting order.side.opposite = first :: later)
    (reach : crosses order first.order = true)
    (popped : next = plain.setResting order.side.opposite later) :
    next.reached order = later.takeWhile (fun rested => crosses order rested.order) ∧
      next.beyond order = plain.beyond order := by
  -- What is beyond was behind the front before.
  subst popped
  constructor
  · simp [PlainBook.reached]
  · rw [beyond_cons resting reach]
    simp [PlainBook.beyond]

end Front

section Iterating

variable {order : Order} {book : OrderBook} {fuel : Nat} {remaining : Int}

/-- What an iteration of the matching loop does while there is a quantity left to match. -/
inductive Iteration (order : Order) (fuel : Nat) (book : OrderBook) (remaining : Int) : Prop
  /-- Nothing is within reach, and only the best level has been cleaned. -/
  | stopped (t : Side) (t_ok : SideOk book.heap book.sequence order.side.opposite t)
      (t_live : t.liveRefs book.heap = (book.sides order.side.opposite).liveRefs book.heap)
      (found : (book.sides order.side.opposite).best book.heap =
        .ok (t, ((book.sides order.side.opposite).liveRefs book.heap).head?))
      (unreached : ∀ ref ∈ ((book.sides order.side.opposite).liveRefs book.heap).head?,
        ¬ crosses order (book.heap ref).order = true)
      (ran : OrderBook.matchLoop order (fuel + 1) book remaining =
        .ok (book.setSide order.side.opposite t, remaining, [], []))
  /-- The front order outlasts the incoming one. -/
  | partly (ref : Nat) (rest : List Nat) (t u : Side)
      (live : (book.sides order.side.opposite).liveRefs book.heap = ref :: rest)
      (reach : crosses order (book.heap ref).order = true)
      (fewer : remaining < (book.heap ref).remainingQuantity)
      (found : (book.sides order.side.opposite).best book.heap = .ok (t, some ref))
      (cleaned : SideOk.Cleaned book.heap (book.sides order.side.opposite) t ref)
      (filled : t.fillBest book.heap ref remaining = .ok (book.heap.store ref { book.heap ref with
        remainingQuantity := (book.heap ref).remainingQuantity - remaining }, u, false))
      (u_ok : SideOk (book.heap.store ref { book.heap ref with
        remainingQuantity := (book.heap ref).remainingQuantity - remaining }) book.sequence
        order.side.opposite u)
      (u_live : u.liveRefs (book.heap.store ref { book.heap ref with
        remainingQuantity := (book.heap ref).remainingQuantity - remaining }) =
        (book.sides order.side.opposite).liveRefs book.heap)
      (ran : OrderBook.matchLoop order (fuel + 1) book remaining =
        (OrderBook.matchLoop order fuel (book.touch order.side.opposite u (book.heap.store ref
          { book.heap ref with
            remainingQuantity := (book.heap ref).remainingQuantity - remaining })) 0).map
          fun (last, left, trades, calls) =>
            (last, left, tradeAgainst book.symbol order (book.heap ref).order remaining :: trades,
              calls))
  /-- The front order is filled and leaves, and the loop goes on with what is left. -/
  | filled (ref : Nat) (rest : List Nat) (t u : Side)
      (live : (book.sides order.side.opposite).liveRefs book.heap = ref :: rest)
      (reach : crosses order (book.heap ref).order = true)
      (enough : (book.heap ref).remainingQuantity ≤ remaining)
      (found : (book.sides order.side.opposite).best book.heap = .ok (t, some ref))
      (cleaned : SideOk.Cleaned book.heap (book.sides order.side.opposite) t ref)
      (filled : t.fillBest book.heap ref (book.heap ref).remainingQuantity =
        .ok (book.heap.store ref { book.heap ref with remainingQuantity := 0, alive := false }, u,
          true))
      (u_ok : SideOk (book.heap.store ref { book.heap ref with
        remainingQuantity := 0, alive := false }) book.sequence order.side.opposite u)
      (u_live : u.liveRefs (book.heap.store ref { book.heap ref with
        remainingQuantity := 0, alive := false }) = rest)
      (ran : OrderBook.matchLoop order (fuel + 1) book remaining =
        (OrderBook.matchLoop order fuel (book.kill ref { book.heap ref with
          remainingQuantity := 0, alive := false } u)
          (remaining - (book.heap ref).remainingQuantity)).map fun (last, left, trades, calls) =>
            (last, left, tradeAgainst book.symbol order (book.heap ref).order
              (book.heap ref).remainingQuantity :: trades,
              .close (book.heap ref).order.orderId .filled :: calls))

/-- Without a quantity left to match the loop ends at once. -/
theorem matchLoop_zero (order : Order) (fuel : Nat) (book : OrderBook) :
    OrderBook.matchLoop order (fuel + 1) book 0 = .ok (book, 0, [], []) := by
  rw [OrderBook.matchLoop, if_pos rfl]

/-- While there is a quantity left to match, an iteration has one of three outcomes. -/
theorem matchLoop_iteration (ok : CoreOk book) (left : remaining ≠ 0) :
    Iteration order fuel book remaining := by
  -- Looking for the best order cleans its level.
  obtain ⟨t, found, t_ok, t_live, t_cleaned⟩ := (ok.sides_ok order.side.opposite).best_spec
  set cleaned : OrderBook := book.setSide order.side.opposite t with cleaned_eq
  have cleaned_side : cleaned.sides order.side.opposite = t := Function.update_self ..
  -- The loop stops on an empty side, and on a best order that does not cross.
  cases live : (book.sides order.side.opposite).liveRefs book.heap with
  | nil =>
    refine .stopped t t_ok t_live found (fun ref member => ?_) ?_
    · rw [live] at member
      cases member
    · rw [live] at found
      simp only [OrderBook.matchLoop, if_neg left, found, List.head?_nil, Bind.bind, Except.bind,
        Pure.pure, Except.pure]
  | cons ref rest =>
    have front : ((book.sides order.side.opposite).liveRefs book.heap).head? = some ref := by
      rw [live]; rfl
    have found' := front ▸ found
    by_cases reach : crosses order (book.heap ref).order = true
    swap
    · -- The best price is out of reach.
      refine .stopped t t_ok t_live found (fun other member => ?_) ?_
      · obtain rfl := Option.some_inj.mp (front.symm.trans member)
        exact reach
      · have unreached : ¬ crosses order (cleaned.heap ref).order = true := reach
        simp only [OrderBook.matchLoop, if_neg left, found', Bind.bind, Except.bind, Pure.pure,
          Except.pure]
        rw [← cleaned_eq, if_pos unreached]
    have listed : ref ∈ t.liveRefs book.heap := by simp [t_live, live]
    have reach' : ¬ ¬ crosses order (cleaned.heap ref).order = true := not_not_intro reach
    -- Whether the loop goes on depends on which of the two orders outlasts the other.
    by_cases fewer : remaining < (book.heap ref).remainingQuantity
    · obtain ⟨u, filled, u_ok, u_live⟩ := t_ok.fillBest_partial listed fewer
      refine .partly ref rest t u live reach fewer found' (t_cleaned ref front) filled u_ok
        (u_live.trans t_live) ?_
      have least : min remaining (cleaned.heap ref).remainingQuantity = remaining :=
        min_eq_left (le_of_lt fewer)
      have filled' : t.fillBest cleaned.heap ref remaining = _ := filled
      rw [OrderBook.matchLoop, if_neg left]
      simp only [found', Bind.bind, Except.bind, Pure.pure, Except.pure, ← cleaned_eq]
      rw [if_neg reach', least, cleaned_side]
      simp only [filled', Bool.false_eq_true, if_false, sub_self]
      simp only [cleaned_eq, OrderBook.touch, OrderBook.setSide, Function.update_idem]
      rfl
    · obtain ⟨u, filled, u_ok, u_live⟩ := t_ok.fillBest_full listed (t_cleaned ref front).front
      refine .filled ref rest t u live reach (not_lt.mp fewer) found' (t_cleaned ref front) filled
        u_ok (u_live.trans (t_live ▸ filter_front ok live)) ?_
      have listed' : ref ∈ (book.sides order.side.opposite).liveRefs book.heap := t_live ▸ listed
      have sided := (ok.mem_liveRefs_iff.mp listed').2
      have least : min remaining (cleaned.heap ref).remainingQuantity =
          (book.heap ref).remainingQuantity := min_eq_right (not_lt.mp fewer)
      have filled' : t.fillBest cleaned.heap ref (book.heap ref).remainingQuantity = _ := filled
      rw [OrderBook.matchLoop, if_neg left]
      simp only [found', Bind.bind, Except.bind, Pure.pure, Except.pure, ← cleaned_eq]
      rw [if_neg reach', least, cleaned_side]
      simp only [filled', if_true, OrderBook.close, Heap.store_self]
      simp only [cleaned_eq, OrderBook.kill, OrderBook.setSide, Function.update_idem, sided]
      rfl

end Iterating

/-- The matching loop takes an order's quantity from the front of the opposite side. -/
theorem matchLoop_spec (order : Order) : ∀ (fuel : Nat) (book : OrderBook) (remaining : Int),
    CoreOk book → 0 ≤ remaining → remaining < fuel →
    let taken := consume Rested.remainingQuantity Rested.reduce remaining (book.plain.reached order)
    ∃ book', OrderBook.matchLoop order fuel book remaining = .ok (book', taken.left,
        taken.fills.map (fun fill => tradeAgainst book.symbol order fill.1.order fill.2),
        PlainBook.filledCalls taken.fills) ∧
      CoreOk book' ∧ Later book book' ∧ book'.arrivals = book.arrivals ∧
      book'.expiredTotal = book.expiredTotal ∧
      book'.plain = book.plain.setResting order.side.opposite
        (taken.kept ++ book.plain.beyond order) := by
  -- Every iteration that goes on has filled the front order, which leaves less to match.
  intro fuel
  induction fuel with
  | zero => intro book remaining _ nonneg bounded; omega
  | succ fuel ih =>
    intro book remaining ok nonneg bounded
    have whole : book.plain.reached order ++ book.plain.beyond order =
        book.plain.resting order.side.opposite := List.takeWhile_append_dropWhile
    by_cases zero : remaining = 0
    · subst zero
      refine ⟨book, ?_, ok, .refl book, rfl, rfl, ?_⟩
      · simp [matchLoop_zero, PlainBook.filledCalls]
      · simp only [consume_zero, whole, setResting_self]
    cases (matchLoop_iteration ok zero : Iteration order fuel book remaining) with
    | stopped t t_ok t_live found unreached ran =>
      -- The plain book does not change, and none of its orders are within reach.
      have none_reached := reached_eq_nil unreached
      have same_plain := touch_plain ok (.refl ..) t_live
      rw [none_reached, List.nil_append] at whole
      refine ⟨_, ?_, touch_core ok (.refl ..) t_ok t_live, touch_later (.refl ..), rfl, rfl, ?_⟩
      · rw [none_reached]
        exact ran
      · rw [none_reached, whole]
        exact same_plain
    | partly ref rest t u live reach fewer _ _ _ u_ok u_live ran =>
      have first := plain_front live
      have listed : ref ∈ (book.sides order.side.opposite).liveRefs book.heap := by simp [live]
      have reduced : Reduced book.heap (book.heap.store ref { book.heap ref with
          remainingQuantity := (book.heap ref).remainingQuantity - remaining })
          order.side.opposite := .store _ (ok.mem_liveRefs_iff.mp listed).2
      have fewer' : remaining < (Entry.rested (book.heap ref)).remainingQuantity := fewer
      refine ⟨_, ?_, touch_core ok reduced u_ok u_live, touch_later reduced, rfl, rfl, ?_⟩
      · obtain ⟨less, rfl⟩ : ∃ less, fuel = less + 1 := ⟨fuel - 1, by omega⟩
        rw [ran, matchLoop_zero, reached_cons first reach]
        simp only [Except.map, consume, if_neg zero, if_pos fewer', PlainBook.filledCalls,
          List.filter_cons, decide_eq_true_eq, if_neg fewer'.ne, List.filter_nil, List.map_nil,
          List.map_cons]
        rfl
      · rw [touch_plain ok reduced u_live, reached_cons first reach, beyond_cons first reach]
        -- Only the entry in front has been written.
        simp only [consume, if_neg zero, if_pos fewer', live, List.map_cons, Heap.store_self,
          later_untouched ok live, List.cons_append, List.takeWhile_append_dropWhile]
        rfl
    | filled ref rest t u live reach enough _ _ _ u_ok u_live ran =>
      have first := plain_front live
      have listed : ref ∈ (book.sides order.side.opposite).liveRefs book.heap := by simp [live]
      obtain ⟨live_ref, sided⟩ := ok.mem_liveRefs_iff.mp listed
      have u_live' := u_live.trans (filter_front ok live).symm
      rw [← sided] at u_ok u_live'
      have next_core : CoreOk (book.kill ref { book.heap ref with
        remainingQuantity := 0, alive := false } u) := kill_core ok live_ref rfl rfl u_ok u_live'
      have next_later : Later book (book.kill ref { book.heap ref with
        remainingQuantity := 0, alive := false } u) := kill_later rfl rfl rfl
      have popped := (kill_plain ok u_live').trans (keep_front ok live)
      set next := book.kill ref { book.heap ref with remainingQuantity := 0, alive := false } u
        with next_eq
      have positive := ok.remaining_pos live_ref
      obtain ⟨book', went, core, later, arrivals, total, plain⟩ :=
        ih next (remaining - (book.heap ref).remainingQuantity) next_core (by omega) (by omega)
      -- The orders in reach of the next iteration are those behind the front.
      obtain ⟨behind, beyond⟩ := next_reached first reach popped
      have unfewer : ¬ remaining < (book.heap ref).remainingQuantity := not_lt.mpr enough
      have amount : (Entry.rested (book.heap ref)).remainingQuantity =
          (book.heap ref).remainingQuantity := rfl
      refine ⟨book', ?_, core, next_later.trans later, arrivals, total, ?_⟩
      · rw [ran, went, behind, reached_cons first reach]
        simp only [Except.map, consume, if_neg zero, amount, if_neg unfewer, PlainBook.filledCalls,
          List.filter_cons, decide_true, if_true, List.map_cons]
        rfl
      · rw [plain, behind, beyond, popped, setResting_setResting, reached_cons first reach]
        simp only [consume, if_neg zero, amount, if_neg unfewer]

section Rest

/-- The book after an order has come to rest. -/
abbrev OrderBook.resting (book : OrderBook) (order : Order) (remaining : Int) (restAt : ℚ) :
    OrderBook := (book.rest order remaining restAt).1

variable {book : OrderBook} {order : Order} {remaining : Int} {restAt : ℚ}

/-- The new entry is stored at the next location. -/
theorem resting_heap_self : (book.resting order remaining restAt).heap (book.sequence + 1) =
    ⟨order, remaining, book.sequence + 1, book.plain.stamp restAt, true⟩ :=
  Heap.store_self ..

/-- The other locations are as they were. -/
theorem resting_heap_before {other : Nat} (bounded : other ≤ book.sequence) :
    (book.resting order remaining restAt).heap other = book.heap other :=
  Heap.store_other (by omega)

/-- The new entry is live, along with those that were. -/
theorem resting_live {other : Nat} : (book.resting order remaining restAt).Live other ↔
    book.Live other ∨ other = book.sequence + 1 := by
  have sequence : (book.resting order remaining restAt).sequence = book.sequence + 1 := rfl
  simp only [OrderBook.Live, sequence]
  constructor
  · rintro ⟨low, high, alive⟩
    -- The entry at the next location is the one that has just been written.
    by_cases same : other = book.sequence + 1
    · exact .inr same
    · rw [resting_heap_before (by omega)] at alive
      exact .inl ⟨low, by omega, alive⟩
  · rintro (⟨low, high, alive⟩ | rfl)
    · exact ⟨low, by omega, by rwa [resting_heap_before high]⟩
    · exact ⟨by omega, by omega, by rw [resting_heap_self]⟩

/-- The side of the order gains it, and the other side is as it was. -/
theorem resting_sides (side : OrderSide) : (book.resting order remaining restAt).sides side =
    if side = order.side then (book.sides order.side).add
      (book.resting order remaining restAt).heap (book.sequence + 1)
    else book.sides side := by
  simp only [OrderBook.resting, OrderBook.rest, OrderBook.setSide, Function.update_apply]

/-- The entries of a side read the same in the new heap. -/
theorem resting_liveRefs_before (ok : CoreOk book) (side : OrderSide) :
    (book.sides side).liveRefs (book.resting order remaining restAt).heap =
      (book.sides side).liveRefs book.heap :=
  (ok.sides_ok side).liveRefs_frame fun _ bounded _ => resting_heap_before bounded

/-- The side of the order is well formed with it, and lists it behind those that it ranks behind. -/
theorem resting_added (ok : CoreOk book) (positive : 1 ≤ remaining) :
    SideOk (book.resting order remaining restAt).heap (book.sequence + 1) order.side
        ((book.sides order.side).add (book.resting order remaining restAt).heap
          (book.sequence + 1)) ∧
      ((book.sides order.side).add (book.resting order remaining restAt).heap
          (book.sequence + 1)).liveRefs (book.resting order remaining restAt).heap =
        insertAfter (fun other =>
            order.side.key ((book.resting order remaining restAt).heap other).order.price ≤
              order.side.key order.price) (book.sequence + 1)
          ((book.sides order.side).liveRefs book.heap) := by
  -- The side sees the old heap up to the old sequence number, and the new entry behind it.
  have framed : SideOk (book.resting order remaining restAt).heap book.sequence order.side
      (book.sides order.side) :=
    (ok.sides_ok order.side).frame (le_refl _) fun _ bounded _ => resting_heap_before bounded
  have self := @resting_heap_self book order remaining restAt
  obtain ⟨added_ok, added_live⟩ := @SideOk.add_spec (book.resting order remaining restAt).heap
    book.sequence order.side (book.sides order.side) (book.sequence + 1) framed
    (fun other bounded => by omega) (by omega) (by omega) (by rw [self]) (by rw [self])
    (by rw [self]) (by rw [self]; exact positive)
  rw [resting_liveRefs_before ok] at added_live
  simp only [self] at added_live
  exact ⟨added_ok, added_live⟩

/-- The index names the new entry, along with those that it named. -/
theorem resting_index (ok : CoreOk book) (fresh : book.index.get? order.orderId = none)
    (orderId : UUID) (ref : Nat) :
    (book.resting order remaining restAt).index.get? orderId = some ref ↔
      (book.resting order remaining restAt).Live ref ∧
        ((book.resting order remaining restAt).heap ref).order.orderId = orderId := by
  have index : (book.resting order remaining restAt).index =
      book.index.set order.orderId (book.sequence + 1) := rfl
  rw [index, Dict.get?_set, resting_live]
  split
  · -- The identifier of the new order names the new entry.
    rename_i same
    subst same
    constructor
    · intro found
      obtain rfl := Option.some.inj found
      exact ⟨.inr rfl, by rw [resting_heap_self]⟩
    · rintro ⟨live | rfl, named⟩
      · -- No live entry had the identifier before.
        rw [resting_heap_before live.2.1] at named
        have indexed := (ok.index_iff _ ref).mpr ⟨live, named⟩
        rw [fresh] at indexed
        cases indexed
      · rfl
  · -- Any other identifier names what it has named before.
    rename_i differs
    rw [ok.index_iff]
    constructor
    · rintro ⟨live, named⟩
      exact ⟨.inl live, by rwa [resting_heap_before live.2.1]⟩
    · rintro ⟨live | rfl, named⟩
      · exact ⟨live, by rwa [resting_heap_before live.2.1] at named⟩
      · rw [resting_heap_self] at named
        exact absurd named.symm differs

/-- Sides, lists of live entries, and the index fit together with the new entry. -/
theorem resting_core (ok : CoreOk book) (positive : 1 ≤ remaining)
    (fresh : book.index.get? order.orderId = none) :
    CoreOk (book.resting order remaining restAt) := by
  obtain ⟨added_ok, added_live⟩ := @resting_added book order remaining restAt ok positive
  refine ⟨fun side => ?_, fun other live => ?_, resting_index ok fresh⟩
  · rw [resting_sides]
    split
    · rename_i same
      exact same ▸ added_ok
    · exact (ok.sides_ok side).frame (Nat.le_succ _) fun _ bounded _ => resting_heap_before bounded
  · rw [resting_sides]
    rcases resting_live.mp live with live' | rfl
    · -- What was listed on its side before still is.
      have listed := ok.live_listed other live'
      rw [resting_heap_before live'.2.1]
      split
      · rename_i same
        rw [added_live, mem_insertAfter]
        exact .inr (same ▸ listed)
      · rwa [resting_liveRefs_before ok]
    · rw [resting_heap_self, if_pos rfl, added_live, mem_insertAfter]
      exact .inl rfl

/-- The new entry arrives last, if arrivals are kept at all. -/
theorem resting_arrivals (ok : ArrivalsOk book book.arrivals) :
    ArrivalsOk (book.resting order remaining restAt)
      (book.resting order remaining restAt).arrivals := by
  have arrivals : (book.resting order remaining restAt).arrivals =
      if book.config.maxAgeSeconds = 0 then book.arrivals
      else book.arrivals ++ [book.sequence + 1] := rfl
  have sequence : (book.resting order remaining restAt).sequence = book.sequence + 1 := rfl
  rw [arrivals]
  refine ⟨fun other member => ?_, ?_, fun aged other live => ?_⟩
  · rw [sequence]
    split at member
    · have bounds := ok.located other member
      omega
    · -- An arrival is an earlier one or the new entry.
      rcases List.mem_append.mp member with earlier | last
      · have bounds := ok.located other earlier
        omega
      · rw [List.mem_singleton.mp last]
        omega
  · split
    · exact ok.ordered
    · rw [List.pairwise_append]
      refine ⟨ok.ordered, List.pairwise_singleton .., fun other member last same => ?_⟩
      rw [List.mem_singleton.mp same]
      have bounds := ok.located other member
      omega
  · -- Arrivals are kept only where orders can expire.
    have aged' : book.config.maxAgeSeconds ≠ 0 := aged
    rw [if_neg aged', List.mem_append, List.mem_singleton]
    exact (resting_live.mp live).imp (ok.cover aged' other) id

/-- The orders at rest are those that were, with the new one behind those that it ranks behind. -/
theorem resting_plain (ok : CoreOk book) (positive : 1 ≤ remaining) :
    (book.resting order remaining restAt).plain =
      book.plain.rest order remaining (book.plain.stamp restAt) := by
  have added_live := (@resting_added book order remaining restAt ok positive).2
  -- The entries that were at rest read the same.
  have unchanged (side : OrderSide) : ((book.sides side).liveRefs book.heap).map (fun other =>
      ((book.resting order remaining restAt).heap other).rested) =
        ((book.sides side).liveRefs book.heap).map fun other => (book.heap other).rested :=
    List.map_congr_left fun other member => by
      rw [resting_heap_before (ok.mem_liveRefs_iff.mp member).1.2.1]
  simp only [OrderBook.plain, PlainBook.rest, PlainBook.setResting, PlainBook.mk.injEq]
  refine ⟨rfl, funext fun side => ?_, rfl, rfl⟩
  rw [resting_sides, Function.update_apply]
  split
  · -- Priority among the listed orders reads the same on both levels.
    have moved := @map_insertAfter Nat Rested (fun other =>
        order.side.key ((book.resting order remaining restAt).heap other).order.price ≤
          order.side.key order.price)
      (fun rested => order.side.key rested.order.price ≤ order.side.key order.price)
      (fun other => ((book.resting order remaining restAt).heap other).rested) (book.sequence + 1)
      ((book.sides order.side).liveRefs book.heap) fun _ _ => rfl
    rw [added_live]
    refine moved.trans ?_
    rw [unchanged, resting_heap_self]
    rfl
  · rw [resting_liveRefs_before ok, unchanged]

/-- Resting an order with a new identifier keeps the book well formed. -/
theorem rest_spec (ok : BookOk book) (order : Order) {remaining : Int} (positive : 1 ≤ remaining)
    (restAt : ℚ) (fresh : book.index.get? order.orderId = none) :
    BookOk (book.rest order remaining restAt).1 ∧
      (book.rest order remaining restAt).1.plain =
        book.plain.rest order remaining (book.plain.stamp restAt) :=
  ⟨⟨resting_core ok.core positive fresh, resting_arrivals ok.arrivals⟩,
    resting_plain ok.core positive⟩

end Rest

end StockMarket
