import Mathlib.Data.List.Induction
import StockMarket.Library.Outcome
import StockMarket.Orderbook.ReferenceLaws

/-! Which operations keep cancelled entries from piling up behind the live ones of a level. -/

namespace StockMarket

/-- A queue with few dead entries, or with no more dead than live ones. -/
def QueueCompacted (heap : Heap) (queue : List Nat) : Prop :=
  ((queue.filter fun ref => !(heap ref).alive).length : Int) ≤ compactMinDead ∨
    (queue.filter fun ref => !(heap ref).alive).length ≤ (liveQueue heap queue).length

/-- No level of a book holds many dead entries and more dead than live ones. -/
def OrderBook.Compacted (book : OrderBook) : Prop :=
  ∀ side price level, (book.sides side).levels.get? price = some level →
    QueueCompacted book.heap level.queue

/-- What the counters of a level say about its dead entries. -/
def Level.Tidy (level : Level) : Prop :=
  level.dead ≤ compactMinDead ∨ level.dead * 2 ≤ level.queue.length

/-- Every level of a side is tidy. -/
def Side.Tidy (s : Side) : Prop := ∀ price level, s.levels.get? price = some level → level.Tidy

/-- Both sides are tidy. -/
def OrderBook.Tidy (book : OrderBook) : Prop := ∀ side, (book.sides side).Tidy

/--
Wherever a quantity runs out between two orders of one level, what is left queued is compacted.

The later order stays, and so does what is queued behind the earlier one, but for the dead
entries that are skipped when the later order is partly filled.
-/
def FillsTidily (heap : Heap) (s : Side) (order : Order) (quantity : Int) : Prop :=
  ∀ ahead ref next later level passed gap rest,
    s.liveRefs heap = ahead ++ ref :: next :: later →
    s.levels.get? (heap next).order.price = some level →
    level.queue = passed ++ ref :: (gap ++ next :: rest) →
    crosses order (heap next).order →
    quantityOf heap (ahead ++ [ref]) ≤ quantity →
    quantity < quantityOf heap (ahead ++ [ref, next]) →
    QueueCompacted heap
      ((if quantityOf heap (ahead ++ [ref]) = quantity then gap else []) ++ next :: rest)

/-- A submit for the book's own symbol stops tidily once the orders that are due have expired. -/
def OrderBook.StopsTidily (book : OrderBook) : BookOp → Prop
  | .submit order now _ => order.symbol = book.symbol →
    ∀ expired calls, book.expire now = .ok (expired, calls) →
      FillsTidily expired.heap (expired.sides order.side.opposite) order order.quantity
  | _ => True

section Counters

variable {heap heap' : Heap} {bound : Nat} {side : OrderSide} {s t : Side} {ref : Nat} {price : Int}
  {level : Level}

/-- The counters of a well-formed level count its queue. -/
theorem LevelOk.tidy_iff (ok : LevelOk heap bound side price level) :
    level.Tidy ↔ QueueCompacted heap level.queue := by
  have counted := SideOk.live_add_dead heap level.queue
  have dead := ok.dead_eq
  -- What is queued is live or dead, so the two conditions are the same arithmetic.
  unfold Level.Tidy QueueCompacted
  omega

/-- Storing a tidy level keeps a side tidy. -/
theorem Side.Tidy.stored (price : Int) (tidy : s.Tidy) (level_tidy : level.Tidy)
    (levels : ∀ other, t.levels.get? other =
      if other = price then some level else s.levels.get? other) : t.Tidy := by
  -- The level is the one that was stored, or one from before.
  intro other stored found
  rw [levels] at found
  split at found
  · exact Option.some_inj.mp found ▸ level_tidy
  · exact tidy other stored found

/-- Dropping a level keeps a side tidy, whatever was stored for it. -/
theorem Side.Tidy.dropped (price : Int) (tidy : s.Tidy)
    (levels : ∀ other, t.levels.get? other = if other = price then none else s.levels.get? other) :
    t.Tidy := by
  -- What is stored afterwards was stored before.
  intro other stored found
  rw [levels] at found
  split at found
  · cases found
  · exact tidy other stored found

/-- Dropping a level erases it and no other one. -/
theorem dropLevel_levels (ran : s.dropLevel price = .ok t) : t.levels = s.levels.erase price := by
  -- Dropping a level takes its key off the heap as well, or faults.
  obtain ⟨_, _, ran⟩ := Outcome.bind_eq_ok ran
  simp only [Pure.pure, Except.pure] at ran
  split at ran
  · cases ran
    rfl
  · cases ran

/-- Reading a level finds what is stored for its price. -/
theorem level_found (ran : s.level price = .ok level) : s.levels.get? price = some level := by
  -- A price without a level is a fault.
  unfold Side.level at ran
  split at ran
  · cases ran
    assumption
  · cases ran

/-- A newcomer makes no level less tidy. -/
theorem Side.Tidy.add (tidy : s.Tidy) : (s.add heap ref).Tidy := by
  -- A price without a level gets a new one, in which nothing is dead.
  cases found : s.levels.get? (heap ref).order.price with
  | none =>
    have opened : (Level.mk [ref] (heap ref).remainingQuantity 0).Tidy := by
      refine .inl ?_
      show (0 : Int) ≤ compactMinDead
      decide
    refine tidy.stored (heap ref).order.price opened fun other => ?_
    simp only [Side.add, Side.openLevel, found, Dict.get?_set, Level.empty]
    split <;> simp
  | some level =>
    -- The queue grows by one, and the dead entries stay as they are.
    have before := tidy _ level found
    have joined : (Level.mk (level.queue ++ [ref])
        (level.quantity + (heap ref).remainingQuantity) level.dead).Tidy := by
      refine before.imp id fun more => ?_
      simp only [List.length_append, List.length_singleton]
      omega
    refine tidy.stored (heap ref).order.price joined fun other => ?_
    simp only [Side.add, Side.openLevel, found, Dict.get?_set]

/-- Removal either leaves a tidy level or compacts it. -/
theorem Side.Tidy.remove (tidy : s.Tidy) (ran : s.remove heap ref = .ok (heap', t)) : t.Tidy := by
  obtain ⟨level, _, ran⟩ := Outcome.bind_eq_ok ran
  simp only [Bind.bind, Pure.pure, Except.pure] at ran
  split at ran
  · -- The level was emptied, and so it is dropped.
    obtain ⟨dropped, drops, ran⟩ := Outcome.bind_eq_ok ran
    cases ran
    refine tidy.dropped (heap ref).order.price fun other => ?_
    rw [dropLevel_levels drops, Dict.get?_erase, Dict.get?_set]
    split <;> rfl
  · -- The level that is left is stored under the price of the removed order.
    have stored : ∀ left : Level, left.Tidy → ∀ other : Int,
        (((s.levels.set (heap ref).order.price { level with
            quantity := level.quantity - (heap ref).remainingQuantity }).set
          (heap ref).order.price left).get? other =
        if other = (heap ref).order.price then some left else s.levels.get? other) := by
      intro left _ other
      rw [Dict.get?_set, Dict.get?_set]
      split <;> rfl
    -- There are too many dead entries, and so the queue is compacted.
    by_cases crowded : compactMinDead < level.dead + 1 ∧
        (level.queue.length : Int) < (level.dead + 1) * 2
    · rw [if_pos crowded] at ran
      cases ran
      have none_dead : (compact (heap.store ref { heap ref with alive := false })
          ⟨level.queue, level.quantity - (heap ref).remainingQuantity, level.dead + 1⟩).Tidy := by
        refine .inl ?_
        show (0 : Int) ≤ compactMinDead
        decide
      exact tidy.stored (heap ref).order.price none_dead (stored _ none_dead)
    · rw [if_neg crowded] at ran
      cases ran
      -- The dead entries are few enough to be left in the queue.
      have sparse : (Level.mk level.queue (level.quantity - (heap ref).remainingQuantity)
          (level.dead + 1)).Tidy := by
        show level.dead + 1 ≤ compactMinDead ∨ (level.dead + 1) * 2 ≤ (level.queue.length : Int)
        omega
      exact tidy.stored (heap ref).order.price sparse (stored _ sparse)

/-- What skipping dead entries off the front of a queue does to its counters. -/
theorem skipDead_counts (heap : Heap) (queue : List Nat) (dead : Int) : ∃ gone : Nat,
    (Side.skipDead heap queue dead).2 = dead - gone ∧
      (Side.skipDead heap queue dead).1.length + gone = queue.length := by
  rw [SideOk.skipDead_eq]
  -- The dead entries at the front and the rest make up the queue.
  refine ⟨_, rfl, ?_⟩
  have whole := congrArg List.length
    (List.takeWhile_append_dropWhile (p := fun ref => !(heap ref).alive) (l := queue))
  rw [List.length_append] at whole
  show (queue.dropWhile _).length + _ = _
  omega

/-- Dropping dead entries off the front makes no level less tidy. -/
theorem Side.Tidy.bestLoop {front : Option Nat} : ∀ (fuel : Nat) (s : Side), s.Tidy →
    Side.bestLoop heap fuel s = .ok (t, front) → t.Tidy := by
  intro fuel
  induction fuel with
  | zero => intro s _ ran; cases ran
  | succ fuel ih =>
    intro s tidy ran
    unfold Side.bestLoop at ran
    split at ran
    · cases ran
      exact tidy
    · rename_i key _ _
      obtain ⟨level, found, ran⟩ := Outcome.bind_eq_ok ran
      -- Skipping shortens the queue and lowers its dead count by the same number.
      obtain ⟨gone, dead, length⟩ := skipDead_counts heap level.queue level.dead
      cases skipped : Side.skipDead heap level.queue level.dead with
      | mk queue dead' =>
      rw [skipped] at ran dead length
      simp only [Bind.bind, Pure.pure, Except.pure] at ran dead length
      -- As many entries leave the queue as leave the count of the dead.
      have cleaned : (Level.mk queue level.quantity dead').Tidy := by
        have before := tidy _ level (level_found found)
        unfold Level.Tidy at before ⊢
        simp only at before ⊢
        omega
      have tidy' : (Side.mk s.side s.keys (s.levels.set (s.price key)
          ⟨queue, level.quantity, dead'⟩) s.totalQuantity).Tidy :=
        tidy.stored (s.price key) cleaned fun other => Dict.get?_set ..
      cases queue with
      -- The queue has a live order, which is the best one.
      | cons ref rest =>
        cases ran
        exact tidy'
      -- Nothing in the queue is live, so the level is dropped and the next one is tried.
      | nil =>
        obtain ⟨dropped, drops, ran⟩ := Outcome.bind_eq_ok ran
        refine ih dropped (tidy'.dropped (s.price key) fun other => ?_) ran
        rw [dropLevel_levels drops, Dict.get?_erase]

/-- Looking for the best order makes no level less tidy. -/
theorem Side.Tidy.best {front : Option Nat} (tidy : s.Tidy)
    (ran : s.best heap = .ok (t, front)) : t.Tidy :=
  Side.Tidy.bestLoop _ s tidy ran

end Counters

section Book

variable {book book' : OrderBook}

/-- Replacing one side by a tidy one keeps a book tidy. -/
theorem OrderBook.Tidy.setSide {side : OrderSide} {s : Side} (tidy : book.Tidy) (side_tidy : s.Tidy) :
    (book.setSide side s).Tidy := by
  -- The side is the new one, or it is left alone.
  intro other
  simp only [OrderBook.setSide, Function.update_apply]
  split
  · exact side_tidy
  · exact tidy other

/-- Expiry only removes orders, which keeps every level tidy. -/
theorem OrderBook.Tidy.expireLoop {deadline : ℚ} : ∀ (arrivals : List Nat) (book : OrderBook)
    (calls : List Callback), book.Tidy →
    OrderBook.expireLoop deadline arrivals book = .ok (book', calls) → book'.Tidy := by
  intro arrivals
  induction arrivals with
  | nil =>
    intro book calls tidy ran
    cases ran
    exact tidy
  | cons ref rest ih =>
    intro book calls tidy ran
    unfold OrderBook.expireLoop at ran
    split at ran
    · cases ran
      exact tidy
    · -- A dead arrival is passed over; a live one that is due is removed.
      split at ran
      · exact ih book calls tidy ran
      · obtain ⟨⟨heap, s⟩, removed, ran⟩ := Outcome.bind_eq_ok ran
        obtain ⟨⟨last, later⟩, walked, ran⟩ := Outcome.bind_eq_ok ran
        cases ran
        have kept : (book.setSide (book.heap ref).order.side s).Tidy :=
          tidy.setSide ((tidy _).remove removed)
        refine ih _ later ?_ walked
        exact kept

/-- The expiry at the start of a call keeps every level tidy. -/
theorem OrderBook.Tidy.expire {now : ℚ} {calls : List Callback} (tidy : book.Tidy)
    (ran : book.expire now = .ok (book', calls)) : book'.Tidy := by
  -- Without a maximum age nothing expires.
  unfold OrderBook.expire at ran
  split at ran
  · cases ran
    exact tidy
  · exact OrderBook.Tidy.expireLoop _ book calls tidy ran

/-- A cancel keeps every level tidy. -/
theorem OrderBook.Tidy.takeOut {orderId : UUID} {result : Except BookError OpenOrder}
    (tidy : book.Tidy) (ran : book.takeOut orderId = .ok (book', result)) : book'.Tidy := by
  -- An unknown order raises, and the book stays as it was.
  unfold OrderBook.takeOut at ran
  split at ran
  · cases ran
    exact tidy
  · obtain ⟨⟨heap, s⟩, removed, ran⟩ := Outcome.bind_eq_ok ran
    cases ran
    exact tidy.setSide ((tidy _).remove removed)

/-- An order that comes to rest keeps every level tidy. -/
theorem OrderBook.Tidy.rest (tidy : book.Tidy) (order : Order) (remaining : Int) (restAt : ℚ) :
    (book.rest order remaining restAt).1.Tidy :=
  tidy.setSide (tidy order.side).add

end Book

section Filling

variable {heap heap' : Heap} {bound : Nat} {side : OrderSide} {s t u : Side} {ref : Nat}
  {order : Order} {remaining : Int}

/-- An order that comes before another stands at no worse a price. -/
theorem Before.key_le {first second : Nat} (before : Before heap side first second) :
    side.key (heap first).order.price ≤ side.key (heap second).order.price :=
  before.elim le_of_lt fun tied => by rw [tied.1]

/-- Whether an order crosses another depends on the price of the other. -/
theorem crosses_congr {incoming first second : Order} (same : first.price = second.price) :
    crosses incoming first = crosses incoming second := by
  simp only [crosses, same]

/-- Only the liveness of the queued entries matters. -/
theorem QueueCompacted.congr {queue : List Nat}
    (same : ∀ ref ∈ queue, (heap' ref).alive = (heap ref).alive) :
    QueueCompacted heap' queue ↔ QueueCompacted heap queue := by
  -- The entries are filtered by their liveness, which is the same in both heaps.
  have live : liveQueue heap' queue = liveQueue heap queue := List.filter_congr same
  have dead : (queue.filter fun ref => !(heap' ref).alive) =
      queue.filter fun ref => !(heap ref).alive :=
    List.filter_congr fun ref member => by rw [same ref member]
  rw [QueueCompacted, QueueCompacted, live, dead]

/-- A side whose best level has lost filled orders, and may be left with too many dead entries. -/
structure Stopping (heap : Heap) (s : Side) (order : Order) (remaining : Int) (ref : Nat) : Prop where
  others : ∀ price level, price ≠ (heap ref).order.price → s.levels.get? price = some level →
    level.Tidy
  reach : crosses order (heap ref).order
  left : ∀ level gap rest, s.levels.get? (heap ref).order.price = some level →
    level.queue = gap ++ ref :: rest → remaining < (heap ref).remainingQuantity →
    QueueCompacted heap ((if remaining = 0 then gap else []) ++ ref :: rest)

/-- A side on which the quantity has run out is tidy. -/
theorem Stopping.exhausted (stopping : Stopping heap s order 0 ref) (ok : SideOk heap bound side s)
    (member : ref ∈ s.liveRefs heap) : s.Tidy := by
  intro price level found
  by_cases same : price = (heap ref).order.price
  · -- The best order stands in the level of its price.
    obtain ⟨_, stored, found', queued⟩ := ok.mem_liveRefs.mp member
    obtain rfl : stored = level := Option.some_inj.mp (found'.symm.trans (same ▸ found))
    obtain ⟨gap, rest, split⟩ := List.append_of_mem queued
    have positive := (ok.liveRefs_spec member).2.2.2.2.2
    have compacted := stopping.left stored gap rest found' split (by omega)
    rw [if_pos rfl, ← split] at compacted
    exact ((ok.levels_ok price stored found).tidy_iff).mpr compacted
  · exact stopping.others price level same found

/-- Filling part of the front order changes no queue and no count of dead entries. -/
theorem fillBest_partial_levels {quantity : Int} {level : Level}
    (found : s.levels.get? (heap ref).order.price = some level)
    (ran : s.fillBest heap ref quantity = .ok (heap', t, false)) : ∀ other,
      t.levels.get? other = if other = (heap ref).order.price then
        some { level with quantity := level.quantity - quantity } else s.levels.get? other := by
  intro other
  simp only [Side.fillBest, SideOk.level_eq found, Bind.bind, Except.bind, Pure.pure,
    Except.pure] at ran
  -- Only the quantity of the level is replaced.
  split at ran
  · cases ran
    exact Dict.get?_set ..
  · split at ran
    · cases ran
    · split at ran
      · split at ran <;> cases ran
      · cases ran

/-- Filling the front order pops it off its queue, or drops its level. -/
theorem fillBest_full_levels {quantity : Int} {level : Level} {rest : List Nat}
    (found : s.levels.get? (heap ref).order.price = some level) (queue : level.queue = ref :: rest)
    (ran : s.fillBest heap ref quantity = .ok (heap', t, true)) : ∃ left : Option Level,
      (∀ other, t.levels.get? other =
        if other = (heap ref).order.price then left else s.levels.get? other) ∧
      ∀ level', left = some level' → level'.queue = rest ∧ level'.dead = level.dead := by
  simp only [Side.fillBest, SideOk.level_eq found, Bind.bind, Except.bind, Pure.pure,
    Except.pure, queue] at ran
  split at ran
  · cases ran
  · split at ran
    · -- The level has lost its last order, and so it is dropped.
      split at ran
      · cases ran
      · rename_i dropped drops
        cases ran
        refine ⟨none, fun other => ?_, fun level' left => by cases left⟩
        rw [dropLevel_levels drops, Dict.get?_erase, Dict.get?_set, Dict.get?_set]
        split <;> rfl
    · -- The level has other orders, and keeps them behind the one that was filled.
      cases ran
      refine ⟨some ⟨rest, level.quantity - quantity, level.dead⟩, fun other => ?_,
        fun level' left => ?_⟩
      · rw [Dict.get?_set, Dict.get?_set]
        split <;> rfl
      · cases left
        exact ⟨rfl, rfl⟩

/-- Levels that keep their queues and their dead entries stay tidy, and others may be replaced. -/
theorem Side.Tidy.requantified {level : Level} {quantity : Int} (tidy : s.Tidy)
    (found : s.levels.get? (heap ref).order.price = some level)
    (levels : ∀ other, t.levels.get? other = if other = (heap ref).order.price then
      some { level with quantity := quantity } else s.levels.get? other) : t.Tidy :=
  have kept : (Level.mk level.queue quantity level.dead).Tidy := tidy _ level found
  tidy.stored (heap ref).order.price kept levels

/-- What is left of a partly filled level is what the condition on the fills is about. -/
theorem Stopping.partly (stopping : Stopping heap s order remaining ref)
    (cleaned : SideOk.Cleaned heap s t ref) (left : remaining ≠ 0)
    (fewer : remaining < (heap ref).remainingQuantity)
    (filled : t.fillBest heap ref remaining = .ok (heap', u, false))
    (ok : SideOk heap' bound side u) (alive : ∀ other, (heap' other).alive = (heap other).alive) :
    u.Tidy := by
  obtain ⟨level, gone, rest, dead, found, split, levels⟩ := cleaned
  have front := (levels _).trans (if_pos rfl)
  -- The fill leaves the queue as cleaning left it.
  have levels' := fillBest_partial_levels front filled
  have compacted := stopping.left level gone rest found split fewer
  rw [if_neg left, List.nil_append] at compacted
  intro price stored found'
  have level_ok := ok.levels_ok price stored found'
  rw [levels'] at found'
  -- Only the level of the front order is about to be judged.
  split at found'
  · cases found'
    exact level_ok.tidy_iff.mpr ((QueueCompacted.congr fun other _ => alive other).mpr compacted)
  · rename_i differs
    rw [levels, if_neg differs] at found'
    exact stopping.others price stored differs found'

/-- The front order of a side is filled completely, and the rest of the side is what it was. -/
structure FrontFilled (heap : Heap) (s : Side) (ref : Nat) (later : List Nat) (heap' : Heap)
    (bound : Nat) (side : OrderSide) (u : Side) : Prop where
  ok : SideOk heap bound side s
  live : s.liveRefs heap = ref :: later
  cleaned : ∃ t, SideOk.Cleaned heap s t ref ∧
    t.fillBest heap ref (heap ref).remainingQuantity = .ok (heap', u, true)
  ok' : SideOk heap' bound side u
  live' : u.liveRefs heap' = later
  same : ∀ other, other ≠ ref → heap' other = heap other

/-- A level after the fill is an old one, or what was queued behind the filled order. -/
theorem FrontFilled.level_of {later : List Nat} {price : Int} {level : Level}
    (filled : FrontFilled heap s ref later heap' bound side u)
    (found : u.levels.get? price = some level) : ∃ before gone,
      s.levels.get? price = some before ∧ before.queue = gone ++ level.queue ∧
        ref ∉ level.queue ∧ (price = (heap ref).order.price → ∃ passed, gone = passed ++ [ref]) ∧
        (price ≠ (heap ref).order.price → before = level) := by
  -- Cleaning drops the dead front of the level; filling takes the live one after it.
  obtain ⟨t, ⟨level', gone, rest, dead, found', split, levels⟩, fills⟩ := filled.cleaned
  have front := (levels _).trans (if_pos rfl)
  obtain ⟨left, levels', kept⟩ := fillBest_full_levels front rfl fills
  rw [levels'] at found
  -- The level is the one that was filled, and has lost its front.
  split at found
  · rename_i same
    have queue := (kept level found).1
    have nodup := SideOk.queue_nodup (filled.ok.levels_ok _ level' found')
    rw [split, List.nodup_append'] at nodup
    refine ⟨level', gone ++ [ref], same ▸ found', by simp [split, queue], ?_, fun _ => ⟨gone, rfl⟩,
      fun differs => absurd same differs⟩
    rw [queue]
    exact (List.nodup_cons.mp nodup.2.1).1
  · -- Any other level is what it was.
    rename_i differs
    rw [levels, if_neg differs] at found
    refine ⟨level, [], found, rfl, fun queued => ?_, fun same => absurd same differs, fun _ => rfl⟩
    exact differs ((filled.ok.levels_ok price level found).priced ref queued).1.symm

/-- What a level keeps of its queue is as compacted as it was before the fill. -/
theorem FrontFilled.compacted_iff {later front behind kept : List Nat}
    (filled : FrontFilled heap s ref later heap' bound side u) (absent : ref ∉ front ++ behind)
    (inside : kept ⊆ front) : QueueCompacted heap' (kept ++ behind) ↔
      QueueCompacted heap (kept ++ behind) := by
  -- Only the filled order has changed, and it is not in the rest of the queue.
  refine QueueCompacted.congr fun other member => ?_
  have listed : other ∈ front ++ behind :=
    (List.mem_append.mp member).elim (fun early => List.mem_append_left _ (inside early))
      (List.mem_append_right _)
  rw [filled.same other fun same => absent (same ▸ listed)]

/-- The condition on the fills goes on to hold for the quantity that is left. -/
theorem FrontFilled.fillsTidily {later : List Nat}
    (filled : FrontFilled heap s ref later heap' bound side u)
    (fills : FillsTidily heap s order remaining) :
    FillsTidily heap' u order (remaining - (heap ref).remainingQuantity) := by
  intro ahead first next rest level passed gap behind live found queue reach least more
  -- The first live order is the filled one, and the later ones have not changed.
  have nodup := filled.ok.liveRefs_nodup
  rw [filled.live] at nodup
  have split : later = ahead ++ first :: next :: rest := filled.live'.symm.trans live
  have apart : ∀ other ∈ later, heap' other = heap other := fun other member =>
    filled.same other fun same => (List.nodup_cons.mp nodup).1 (same ▸ member)
  have next_same := apart next (split ▸ by simp)
  -- Sums over the old side count the filled order in front.
  have sum_of : ∀ refs, (∀ other ∈ refs, other ∈ later) →
      quantityOf heap (ref :: refs) = (heap ref).remainingQuantity + quantityOf heap' refs := by
    intro refs inside
    have kept : quantityOf heap' refs = quantityOf heap refs :=
      quantityOf_congr fun other member => by rw [apart other (inside other member)]
    rw [kept]
    simp [quantityOf]
  have first_sum := sum_of (ahead ++ [first])
    (split ▸ (((List.nil_sublist _).cons_cons first).append_left ahead).subset)
  have both_sum := sum_of (ahead ++ [first, next])
    (split ▸ ((((List.nil_sublist _).cons_cons next).cons_cons first).append_left ahead).subset)
  rw [next_same] at found reach
  -- The level of the next order had the same rest of its queue before the fill.
  obtain ⟨before, gone, found', split', absent, _⟩ := filled.level_of found
  have told := fills (ref :: ahead) first next rest before (gone ++ passed) gap behind
    (by rw [filled.live, split]; rfl) found' (by rw [split', queue, List.append_assoc]) reach
    (by rw [List.cons_append, first_sum]; omega) (by rw [List.cons_append, both_sum]; omega)
  rw [List.cons_append, first_sum] at told
  have exactly : (heap ref).remainingQuantity + quantityOf heap' (ahead ++ [first]) = remaining ↔
      quantityOf heap' (ahead ++ [first]) = remaining - (heap ref).remainingQuantity := by omega
  simp only [exactly] at told
  have whole : level.queue = (passed ++ first :: gap) ++ next :: behind := by
    rw [queue, List.append_assoc]
    rfl
  refine (filled.compacted_iff (whole ▸ absent) ?_).mpr told
  split
  · exact fun _ member => List.mem_append_right _ (List.mem_cons_of_mem _ member)
  · exact List.nil_subset _

/-- After the front order is filled, its level is gone or is the one where the fills may stop. -/
theorem FrontFilled.tidy_or_stopping {later : List Nat}
    (filled : FrontFilled heap s ref later heap' bound side u)
    (fills : FillsTidily heap s order remaining) (reach : crosses order (heap ref).order)
    (enough : (heap ref).remainingQuantity ≤ remaining)
    (others : ∀ price level, price ≠ (heap ref).order.price → s.levels.get? price = some level →
      level.Tidy) : u.Tidy ∨ ∃ next rest, later = next :: rest ∧
        Stopping heap' u order (remaining - (heap ref).remainingQuantity) next := by
  -- Levels at other prices are those from before the fill.
  have old : ∀ price level, price ≠ (heap ref).order.price → u.levels.get? price = some level →
      level.Tidy := fun price level differs found => by
    obtain ⟨before, _, found', _, _, _, same⟩ := filled.level_of found
    exact same differs ▸ others price before differs found'
  cases stays : u.levels.get? (heap ref).order.price with
  -- The level of the filled order is gone, so only the others are left.
  | none =>
    refine .inl fun price level found => old price level (fun same => ?_) found
    rw [same, stays] at found
    cases found
  | some level =>
    right
    -- The level still has a live order, so the next best one stands at the same price.
    have level_ok := filled.ok'.levels_ok _ level stays
    obtain ⟨other, queued⟩ := List.exists_mem_of_ne_nil _ (SideOk.liveQueue_ne_nil level_ok)
    obtain ⟨inside, alive⟩ := List.mem_filter.mp queued
    have priced := (level_ok.priced other inside).1
    have listed : other ∈ later := by
      rw [← filled.live', filled.ok'.mem_liveRefs]
      exact ⟨alive, level, priced ▸ stays, inside⟩
    have sorted := filled.ok.liveRefs_sorted
    have nodup := filled.ok.liveRefs_nodup
    rw [filled.live] at sorted nodup
    have apart : ∀ other ∈ later, heap' other = heap other := fun other member =>
      filled.same other fun same => (List.nodup_cons.mp nodup).1 (same ▸ member)
    cases later with
    | nil => cases listed
    | cons next rest =>
      have behind := (List.pairwise_cons.mp sorted).1 next List.mem_cons_self
      -- The next order stands between the first one and the rest of its level.
      have same_price : (heap next).order.price = (heap ref).order.price := by
        have low := behind.key_le
        have high : side.key (heap next).order.price ≤ side.key (heap other).order.price := by
          rcases List.mem_cons.mp listed with rfl | later
          · exact le_refl _
          · exact ((List.pairwise_cons.mp (List.pairwise_cons.mp sorted).2).1 other later).key_le
        rw [← apart other listed, priced] at high
        exact OrderSide.key_inj.mp (le_antisymm high low)
      have next_same := apart next List.mem_cons_self
      refine ⟨next, rest, rfl, fun price level differs found => old price level ?_ found, ?_,
        fun level' gap tail found split fewer => ?_⟩
      · rwa [next_same, same_price] at differs
      · rw [next_same, crosses_congr same_price]
        exact reach
      · rw [next_same, same_price] at found
        rw [next_same] at fewer
        obtain ⟨before, gone, found', split', absent, popped, _⟩ := filled.level_of found
        obtain ⟨passed, rfl⟩ := popped rfl
        have told := fills [] ref next rest before passed gap tail filled.live
          (same_price.symm ▸ found') (by rw [split', split]; simp)
          (by rw [crosses_congr same_price]; exact reach) (by simpa [quantityOf] using enough)
          (by simp only [quantityOf, List.nil_append, List.map_cons, List.map_nil, List.sum_cons,
            List.sum_nil]; omega)
        -- Nothing remains exactly when the first order holds all that was wanted.
        have exactly : quantityOf heap ([] ++ [ref]) = remaining ↔
            remaining - (heap ref).remainingQuantity = 0 := by
          simp only [quantityOf, List.nil_append, List.map_cons, List.map_nil, List.sum_cons,
            List.sum_nil]
          omega
        simp only [exactly] at told
        refine (filled.compacted_iff (split ▸ absent) ?_).mpr told
        split
        · exact List.Subset.refl _
        · exact List.nil_subset _

end Filling

/-- A side that may be matched against: it is tidy, or its best level is being filled. -/
def Matching (heap : Heap) (s : Side) (order : Order) (remaining : Int) : Prop :=
  s.Tidy ∨ ∃ ref later, s.liveRefs heap = ref :: later ∧ Stopping heap s order remaining ref

/-- A side that is being matched against is tidy, or its front order is where the fills may stop. -/
theorem Matching.front {order : Order} {ref : Nat} {later : List Nat}
    (matching : Matching heap s order remaining) (live : s.liveRefs heap = ref :: later) :
    s.Tidy ∨ Stopping heap s order remaining ref :=
  matching.imp id fun ⟨other, rest, same, stopping⟩ => by
    obtain ⟨rfl, _⟩ := List.cons.inj (live.symm.trans same)
    exact stopping

/-- A book is tidy when both sides of an incoming order are. -/
theorem OrderBook.Tidy.of_sides {order : Order} {book last : OrderBook}
    (own : (book.sides order.side).Tidy) (same : last.sides order.side = book.sides order.side)
    (other : (last.sides order.side.opposite).Tidy) : last.Tidy := by
  intro side
  rcases eq_or_ne side order.side with rfl | differs
  · exact same ▸ own
  · -- There are two sides, so the other one is the opposite.
    have opposite : side = order.side.opposite := by
      cases side <;> cases order_side : order.side <;> simp_all [OrderSide.opposite]
    exact opposite ▸ other

/-- Lowering a remaining quantity changes no entry's liveness. -/
theorem store_remaining_alive (heap : Heap) (ref : Nat) (remaining : Int) (other : Nat) :
    (heap.store ref { heap ref with remainingQuantity := remaining } other).alive =
      (heap other).alive := by
  -- Only the named entry is stored, and its liveness is kept.
  by_cases same : other = ref
  · rw [same, Heap.store_self]
  · rw [Heap.store_other same]

/-- Matching leaves a tidy book as long as its fills stop tidily. -/
theorem matchLoop_tidy {order : Order} {book' : OrderBook} {left : Int} : ∀ (fuel : Nat)
    (book : OrderBook) (remaining : Int) (trades : List Trade) (calls : List Callback),
    CoreOk book → (book.sides order.side).Tidy →
    Matching book.heap (book.sides order.side.opposite) order remaining →
    FillsTidily book.heap (book.sides order.side.opposite) order remaining → 0 ≤ remaining →
    OrderBook.matchLoop order fuel book remaining = .ok (book', left, trades, calls) →
    book'.Tidy := by
  -- Only the side that is matched against changes, and it is tidy or about to stop.
  intro fuel
  induction fuel with
  | zero => intro book remaining trades calls _ _ _ _ _ ran; cases ran
  | succ fuel ih =>
    intro book remaining trades calls ok own matching fills nonneg ran
    -- The two sides of the order are not the same.
    have differs : order.side ≠ order.side.opposite := by cases order.side <;> decide
    by_cases zero : remaining = 0
    · -- The fills have stopped, so the condition on them says how the level was left.
      subst zero
      rw [matchLoop_zero] at ran
      cases ran
      refine .of_sides own rfl ?_
      rcases matching with tidy | ⟨ref, later, live, stopping⟩
      · exact tidy
      · exact stopping.exhausted (ok.sides_ok _) (live ▸ List.mem_cons_self)
    cases (matchLoop_iteration ok zero : Iteration order fuel book remaining) with
    | stopped t _ _ found unreached stopped =>
      -- The best price is out of reach, so no order at it was filled.
      obtain ⟨rfl, _⟩ := Prod.mk.inj (Except.ok.inj (ran.symm.trans stopped))
      refine .of_sides own (Function.update_of_ne differs ..) ?_
      have tidy := matching.resolve_right fun ⟨ref, later, live, stopping⟩ =>
        unreached ref (by rw [live]; rfl) stopping.reach
      show (Function.update book.sides order.side.opposite t order.side.opposite).Tidy
      rw [Function.update_self]
      exact tidy.best found
    | partly ref rest t u live reach fewer found cleaned filled u_ok _ went =>
      obtain ⟨⟨last, _⟩, loop, pair⟩ := Outcome.map_eq_ok (went.symm.trans ran)
      -- The incoming order is used up, so the loop ends with this fill.
      cases fuel with
      | zero => cases loop
      | succ fuel =>
        rw [matchLoop_zero] at loop
        cases loop
        obtain ⟨rfl, _⟩ := Prod.mk.inj pair
        refine .of_sides own (Function.update_of_ne differs ..) ?_
        rw [touch_sides, if_pos rfl]
        -- A tidy level stays tidy, as neither its queue nor its count of dead entries changes.
        rcases matching.front live with tidy | stopping
        · obtain ⟨level, _, _, _, _, _, levels⟩ := cleaned
          have front := (levels _).trans (if_pos rfl)
          exact (tidy.best found).requantified front (fillBest_partial_levels front filled)
        · exact stopping.partly cleaned zero fewer filled u_ok
            (store_remaining_alive book.heap ref _)
    | filled ref rest t u live reach enough found cleaned filled u_ok u_live went =>
      obtain ⟨⟨last, _, rest_trades, rest_calls⟩, loop, pair⟩ :=
        Outcome.map_eq_ok (went.symm.trans ran)
      cases pair
      -- The filled order was live on the side that is matched against.
      have listed : ref ∈ (book.sides order.side.opposite).liveRefs book.heap := by simp [live]
      obtain ⟨live_ref, sided⟩ := ok.mem_liveRefs_iff.mp listed
      have fill : FrontFilled book.heap (book.sides order.side.opposite) ref rest
          (book.heap.store ref { book.heap ref with remainingQuantity := 0, alive := false })
          book.sequence order.side.opposite u :=
        ⟨ok.sides_ok _, live, ⟨t, cleaned, filled⟩, u_ok, u_live,
          fun other differs => Heap.store_other differs⟩
      have u_live' := u_live.trans (filter_front ok live).symm
      rw [← sided] at u_ok u_live'
      have next_core : CoreOk (book.kill ref { book.heap ref with
        remainingQuantity := 0, alive := false } u) := kill_core ok live_ref rfl rfl u_ok u_live'
      set next := book.kill ref { book.heap ref with remainingQuantity := 0, alive := false } u
        with next_eq
      have next_side : next.sides order.side.opposite = u := by
        rw [next_eq, kill_sides, if_pos sided.symm]
      -- The order's own side is not touched by the fill.
      have next_own : next.sides order.side = book.sides order.side := by
        rw [next_eq, kill_sides, if_neg (sided ▸ differs)]
      -- At other prices the levels are tidy, whether the fills have begun or not.
      have others : ∀ price level, price ≠ (book.heap ref).order.price →
          (book.sides order.side.opposite).levels.get? price = some level → level.Tidy :=
        fun price level differs found => (matching.front live).elim
          (fun tidy => tidy price level found)
          fun stopping => stopping.others price level differs found
      refine ih next _ rest_trades rest_calls next_core (next_own ▸ own) ?_
        (next_side ▸ fill.fillsTidily fills) (by omega) loop
      rw [next_side]
      refine (fill.tidy_or_stopping fills reach enough others).imp id ?_
      rintro ⟨other, later, split, stopping⟩
      exact ⟨other, later, u_live.trans split, stopping⟩

section Operations

variable {book book' : OrderBook}

/-- Placing an order leaves a tidy book as long as its fills stop tidily. -/
theorem place_tidy {order : Order} {restAt : ℚ} {result : MatchResult} {calls : List Callback}
    (ok : CoreOk book) (tidy : book.Tidy)
    (fills : FillsTidily book.heap (book.sides order.side.opposite) order order.quantity)
    (ran : book.place order restAt = .ok (book', result, calls)) : book'.Tidy := by
  obtain ⟨⟨matched, remaining, trades, filled⟩, loop, ran⟩ := Outcome.bind_eq_ok ran
  -- The loop starts on a tidy book, and its fills stop tidily.
  have matched_tidy := matchLoop_tidy _ book order.quantity trades filled ok (tidy _)
    (.inl (tidy _)) fills order.quantity_pos.le loop
  simp only [Pure.pure, Except.pure] at ran
  split at ran
  · cases ran
    exact matched_tidy.rest order remaining restAt
  · cases ran
    exact matched_tidy

/-- No operation but a submit, and no submit whose fills stop tidily, leaves an untidy level. -/
theorem perform_tidy {op : BookOp} {reply : BookReply} {calls : List Callback} (ok : BookOk book)
    (tidy : book.Tidy) (stops : book.StopsTidily op)
    (ran : book.perform op = .ok (book', reply, calls)) : book'.Tidy := by
  -- Every operation but reading the tape starts with expiry.
  have expired_tidy : ∀ {now expired called}, book.expire now = .ok (expired, called) →
      expired.Tidy := fun done => tidy.expire done
  -- The reply is made from an answer, whose book is the one that is left.
  have answered : ∀ {α : Type} {kind : α → BookReply} {call : Except Fault (Answer α)},
      (∀ answer, call = .ok answer → answer.book.Tidy) →
      call.map (·.reply kind) = .ok (book', reply, calls) → book'.Tidy := fun good ended => by
    obtain ⟨answer, called, made⟩ := Outcome.map_eq_ok ended
    cases made
    exact good answer called
  cases op with
  | submit order now restAt =>
    refine answered (fun answer called => ?_) ran
    simp only [OrderBook.submit] at called
    split at called
    · -- An order for another symbol is refused before anything expires.
      cases called
      exact tidy
    · rename_i own
      obtain ⟨⟨expired, gone⟩, expires, called⟩ := Outcome.bind_eq_ok called
      obtain ⟨⟨placed, result, made⟩, places, called⟩ := Outcome.bind_eq_ok called
      cases called
      -- Expiry succeeds on a book in order, and leaves one in order.
      obtain ⟨book'', gone', expires', expired_ok, _⟩ := expire_spec ok now
      obtain ⟨rfl, rfl⟩ := Prod.mk.inj (Except.ok.inj (expires'.symm.trans expires))
      exact place_tidy expired_ok.core (expired_tidy expires)
        (stops (not_not.mp own) _ _ expires) places
  -- A cancel expires first, and then compacts the queue that it touches.
  | cancel orderId now =>
    refine answered (fun answer called => ?_) ran
    obtain ⟨⟨expired, gone⟩, expires, called⟩ := Outcome.bind_eq_ok called
    obtain ⟨⟨taken, result⟩, takes, called⟩ := Outcome.bind_eq_ok called
    cases called
    exact (expired_tidy expires).takeOut takes
  | getOpenOrder orderId now =>
    refine answered (fun answer called => ?_) ran
    obtain ⟨⟨expired, gone⟩, expires, called⟩ := Outcome.bind_eq_ok called
    cases called
    exact expired_tidy expires
  | openOrders side now =>
    refine answered (fun answer called => ?_) ran
    obtain ⟨⟨expired, gone⟩, expires, called⟩ := Outcome.bind_eq_ok called
    obtain ⟨live, _, called⟩ := Outcome.bind_eq_ok called
    cases called
    exact expired_tidy expires
  | snapshot now =>
    refine answered (fun answer called => ?_) ran
    obtain ⟨⟨expired, gone⟩, expires, called⟩ := Outcome.bind_eq_ok called
    obtain ⟨bids, _, called⟩ := Outcome.bind_eq_ok called
    obtain ⟨asks, _, called⟩ := Outcome.bind_eq_ok called
    cases called
    exact expired_tidy expires
  | totalQuantity side now =>
    refine answered (fun answer called => ?_) ran
    obtain ⟨⟨expired, gone⟩, expires, called⟩ := Outcome.bind_eq_ok called
    cases called
    exact expired_tidy expires
  | bestPrice side now =>
    refine answered (fun answer called => ?_) ran
    obtain ⟨⟨expired, gone⟩, expires, called⟩ := Outcome.bind_eq_ok called
    obtain ⟨⟨cleaned, front⟩, finds, called⟩ := Outcome.bind_eq_ok called
    cases called
    -- Finding the best order cleans the side up, which keeps it tidy.
    exact (expired_tidy expires).setSide ((expired_tidy expires side).best finds)
  | recentTrades limit =>
    cases ran
    exact tidy

/-- The counters of a well-formed book tell whether its levels are compacted. -/
theorem tidy_iff_compacted (ok : CoreOk book) : book.Tidy ↔ book.Compacted := by
  unfold OrderBook.Tidy Side.Tidy OrderBook.Compacted
  refine forall_congr' fun side => forall_congr' fun price => forall_congr' fun level =>
    forall_congr' fun found => ?_
  exact ((ok.sides_ok side).levels_ok price level found).tidy_iff

end Operations

/-- As long as every submit stops tidily, no level piles up dead entries. -/
theorem run_compacted (config : BookConfig) (ops : List BookOp)
    (distinct : (ops.flatMap BookOp.newIds).Nodup)
    (stops : ∀ before op after book told, ops = before ++ op :: after →
      Machine.run OrderBook.perform (OrderBook.new config) before = .ok (book, told) →
      book.StopsTidily op) :
    ∃ book outputs, Machine.run OrderBook.perform (OrderBook.new config) ops = .ok (book, outputs) ∧
      book.Compacted := by
  suffices reached : ∃ book outputs,
      Machine.run OrderBook.perform (OrderBook.new config) ops = .ok (book, outputs) ∧
        BookOk book ∧ book.Tidy by
    obtain ⟨book, outputs, ran, ok, tidy⟩ := reached
    exact ⟨book, outputs, ran, (tidy_iff_compacted ok.core).mp tidy⟩
  -- The induction is on the last operation, which starts where the run before it ends.
  induction ops using List.reverseRecOn with
  | nil =>
    -- A new book has no levels at all.
    refine ⟨_, [], rfl, new_ok config, fun side price level found => ?_⟩
    simp [OrderBook.new, Side.new] at found
  | append_singleton before op ih =>
    have earlier : (before.flatMap BookOp.newIds).Nodup := by
      rw [List.flatMap_append] at distinct
      exact distinct.of_append_left
    -- The earlier operations are a run of their own, which also stops tidily.
    obtain ⟨book, told, ran, ok, tidy⟩ := ih earlier fun first other after middle said split =>
      stops first other (after ++ [op]) middle said (by rw [split]; simp)
    obtain ⟨book', told', ran', ready, _⟩ := run_ready config before [op] distinct
    obtain ⟨rfl, rfl⟩ := Prod.mk.inj (Except.ok.inj (ran.symm.trans ran'))
    obtain ⟨next, reply, calls, _, _, stepped, done, _⟩ := ready.step
    refine ⟨next, told ++ [(reply, calls)], ?_, done.ok, ?_⟩
    · rw [Machine.run_append_ok ran, Machine.run_cons stepped]
      rfl
    · exact perform_tidy ok tidy (stops before op [] book told rfl ran) stepped

/-- Where few orders have come to rest, every submit stops tidily. -/
theorem stopsTidily_of_few {book : OrderBook} (ok : BookOk book)
    (few : (book.sequence : Int) ≤ compactMinDead) (op : BookOp) : book.StopsTidily op := by
  cases op with
  | submit order now restAt =>
    intro _ expired calls expires ahead ref next later level passed gap behind _ found split _ _ _
    obtain ⟨expired', gone, expires', expired_ok, moved, _⟩ := expire_spec ok now
    obtain ⟨rfl, _⟩ := Prod.mk.inj (Except.ok.inj (expires'.symm.trans expires))
    have level_ok := (expired_ok.core.sides_ok _).levels_ok _ level found
    -- A queue lists distinct locations, of which there are few.
    have short : level.queue.length ≤ book.sequence := by
      have within : level.queue ⊆ List.range' 1 book.sequence := fun other member => by
        have located := level_ok.located other member
        rw [moved.sequence] at located
        rw [List.mem_range'_1]
        omega
      have counted := (List.subperm_of_subset (SideOk.queue_nodup level_ok) within).length_le
      rwa [List.length_range'] at counted
    have left := List.length_filter_le (fun other => !(expired'.heap other).alive)
      ((if quantityOf expired'.heap (ahead ++ [ref]) = order.quantity then gap else []) ++
        next :: behind)
    -- What is left of the queue is not longer than the queue was.
    have kept : ((if quantityOf expired'.heap (ahead ++ [ref]) = order.quantity then gap else []) ++
        next :: behind).length ≤ level.queue.length := by
      rw [split]
      split <;> simp <;> omega
    exact .inl (by omega)
  | _ => trivial

/-- The sellers of one share each, at one price. -/
def unitOffer (orderId : UUID) : Order :=
  { fiveOffered with quantity := 1, orderId := orderId, quantity_pos := Int.one_pos }

/-- A buyer of one share at that price. -/
def unitWanted : Order :=
  { unitOffer 1000 with userId := "taker", side := .buy, userId_present := twoWanted.userId_present }

/-- Two orders are cancelled behind the first one, which is then filled. -/
def cancelsBehind : List BookOp :=
  (List.range 3).map (fun orderId => .submit (unitOffer orderId) 0 0) ++
    [.cancel 2 0, .cancel 1 0, .submit unitWanted 0 0]

/-- Orders cancelled behind live ones, whose queue is rebuilt. -/
theorem run_compacted_lasting : ∃ book outputs,
    Machine.run OrderBook.perform (OrderBook.new lastingBook) cancelsBehind = .ok (book, outputs) ∧
      book.Compacted := by
  refine run_compacted lastingBook cancelsBehind (by decide)
    fun before op after book told split ran => ?_
  obtain ⟨book', told', ran', ready, _⟩ := run_ready lastingBook before (op :: after)
    (split ▸ by decide)
  obtain ⟨rfl, rfl⟩ := Prod.mk.inj (Except.ok.inj (ran.symm.trans ran'))
  refine stopsTidily_of_few ready.ok ?_ op
  -- Wherever the run is stopped, few orders have come to rest.
  have numbered : ∀ count < 6,
      (Machine.run OrderBook.perform (OrderBook.new lastingBook) (cancelsBehind.take count)).map
        (fun reached => decide ((reached.1.sequence : Int) ≤ compactMinDead)) = .ok true := by
    decide +kernel
  have front : before = cancelsBehind.take before.length := by rw [split, List.take_left]
  have few := numbered before.length (by
    have lengths := congrArg List.length split
    simp [cancelsBehind] at lengths
    omega)
  rw [← front, ran] at few
  exact of_decide_eq_true (Except.ok.inj few)

/-- Half of the orders of a level are cancelled, from the back, before one of the others is filled. -/
def halfCanceled : List BookOp :=
  (List.range 130).map (fun orderId => .submit (unitOffer orderId) 0 0) ++
    (List.range 65).map (fun orderId => .cancel (129 - orderId) 0) ++ [.submit unitWanted 0 0]

/-- A fill leaves more than the tolerated number of dead entries, and more dead than live ones. -/
theorem halfCanceled_uncompacted : ∃ book outputs,
    Machine.run OrderBook.perform (OrderBook.new lastingBook) halfCanceled = .ok (book, outputs) ∧
      ¬ book.Compacted := by
  have evaluated : (Machine.run OrderBook.perform (OrderBook.new lastingBook) halfCanceled).map
      (fun reached => ((reached.1.sides .sell).levels.get? 70000).map fun level =>
        ((level.queue.filter fun ref => !(reached.1.heap ref).alive).length,
          (liveQueue reached.1.heap level.queue).length)) = .ok (some (65, 64)) := by
    decide +kernel
  obtain ⟨⟨book, outputs⟩, ran, counted⟩ := Outcome.map_eq_ok evaluated
  refine ⟨book, outputs, ran, fun compacted => ?_⟩
  -- The level that is found has the counts that were evaluated.
  obtain ⟨level, found, counts⟩ := Option.map_eq_some_iff.mp counted
  obtain ⟨dead, live⟩ := Prod.mk.inj counts
  have bounded := compacted .sell 70000 level found
  unfold QueueCompacted at bounded
  rw [dead, live] at bounded
  exact absurd bounded (by decide)

end StockMarket
