import StockMarket.Orderbook.Book

/-! What the redundant structures of one side say about the orders resting on it. -/

namespace StockMarket

/-- The live part of a queue. -/
def liveQueue (heap : Heap) (queue : List Nat) : List Nat := queue.filter fun ref => (heap ref).alive

/-- The remaining quantity behind a list of references. -/
def quantityOf (heap : Heap) (refs : List Nat) : Int :=
  (refs.map fun ref => (heap ref).remainingQuantity).sum

/-- One level holds entries of its own price and side, and its counters agree with them. -/
structure LevelOk (heap : Heap) (bound : Nat) (side : OrderSide) (price : Int) (level : Level) :
    Prop where
  ordered : level.queue.Pairwise (· < ·)
  located : ∀ ref ∈ level.queue, 1 ≤ ref ∧ ref ≤ bound ∧ (heap ref).sequence = ref
  priced : ∀ ref ∈ level.queue, (heap ref).order.price = price ∧ (heap ref).order.side = side
  positive : ∀ ref ∈ level.queue, (heap ref).alive → 1 ≤ (heap ref).remainingQuantity
  quantity_eq : level.quantity = quantityOf heap (liveQueue heap level.queue)
  quantity_pos : 1 ≤ level.quantity
  dead_eq : level.dead = (level.queue.filter fun ref => !(heap ref).alive).length

/-- The level at a price, empty when there is none. -/
def Side.levelAt (s : Side) (price : Int) : Level := (s.levels.get? price).getD .empty

/-- One side keeps its keys sorted and in step with its levels and its total. -/
structure SideOk (heap : Heap) (bound : Nat) (side : OrderSide) (s : Side) : Prop where
  side_eq : s.side = side
  keys_sorted : s.keys.Pairwise (· < ·)
  keys_levels : ∀ price, side.key price ∈ s.keys ↔ ∃ level, s.levels.get? price = some level
  levels_ok : ∀ price level, s.levels.get? price = some level → LevelOk heap bound side price level
  total_eq : s.totalQuantity = (s.keys.map fun key => (s.levelAt (side.key key)).quantity).sum

/-- References to the live entries of a side, best price first and oldest first. -/
def Side.liveRefs (s : Side) (heap : Heap) : List Nat :=
  s.keys.flatMap fun key => liveQueue heap (s.levelAt (s.side.key key)).queue

/-- Negating twice gives the price back. -/
@[simp] theorem OrderSide.key_key (side : OrderSide) (price : Int) :
    side.key (side.key price) = price := by
  cases side <;> simp [OrderSide.key]

/-- Distinct prices have distinct keys. -/
@[simp] theorem OrderSide.key_inj {side : OrderSide} {first second : Int} :
    side.key first = side.key second ↔ first = second := by
  cases side <;> simp [OrderSide.key]

/-- Priority between resting orders: the better price first, then the earlier arrival. -/
def Before (heap : Heap) (side : OrderSide) (first second : Nat) : Prop :=
  side.key (heap first).order.price < side.key (heap second).order.price ∨
    ((heap first).order.price = (heap second).order.price ∧ first < second)

/-- No entry precedes itself. -/
instance (heap : Heap) (side : OrderSide) : Std.Irrefl (Before heap side) where
  irrefl ref before := by simp [Before] at before

/-- No two entries precede each other. -/
instance (heap : Heap) (side : OrderSide) : Std.Antisymm (Before heap side) where
  antisymm first second forth back := by
    rcases forth with forth | ⟨same, forth⟩ <;> rcases back with back | ⟨same', back⟩
    · omega
    · rw [same'] at forth; omega
    · rw [same] at back; omega
    · omega

/-- Priority is transitive. -/
theorem Before.trans {heap : Heap} {side : OrderSide} {first second third : Nat}
    (forth : Before heap side first second) (on : Before heap side second third) :
    Before heap side first third := by
  -- The better price decides, and for the same price the lower number.
  rcases forth with forth | ⟨same, forth⟩ <;> rcases on with on | ⟨same', on⟩
  · exact .inl (lt_trans forth on)
  · exact .inl (same' ▸ forth)
  · exact .inl (same ▸ on)
  · exact .inr ⟨same.trans same', lt_trans forth on⟩

/-- Priority looks only at the orders behind the references. -/
theorem Before.congr {heap heap' : Heap} {side : OrderSide}
    (same : ∀ ref, (heap' ref).order = (heap ref).order) : Before heap' side = Before heap side := by
  funext first second
  simp only [Before, same]

section Heap

/-- A written location reads back as what was written. -/
@[simp] theorem Heap.store_self (heap : Heap) (ref : Nat) (entry : Entry) :
    heap.store ref entry ref = entry := Function.update_self ..

/-- Writing one location leaves the others alone. -/
theorem Heap.store_other {heap : Heap} {ref other : Nat} {entry : Entry} (differs : other ≠ ref) :
    heap.store ref entry other = heap other := Function.update_of_ne differs ..

/-- Lists read alike by two heaps have the same live entries. -/
theorem liveQueue_congr {heap heap' : Heap} {queue : List Nat}
    (same : ∀ ref ∈ queue, heap' ref = heap ref) : liveQueue heap' queue = liveQueue heap queue :=
  List.filter_congr fun ref member => by rw [same ref member]

/-- Lists read alike by two heaps carry the same quantity. -/
theorem quantityOf_congr {heap heap' : Heap} {refs : List Nat}
    (same : ∀ ref ∈ refs, (heap' ref).remainingQuantity = (heap ref).remainingQuantity) :
    quantityOf heap' refs = quantityOf heap refs := by
  simp only [quantityOf]
  rw [List.map_congr_left same]

/-- A concatenation carries the sum of the quantities of its parts. -/
theorem quantityOf_flatMap {κ : Type} (heap : Heap) (keys : List κ) (part : κ → List Nat) :
    quantityOf heap (keys.flatMap part) = (keys.map fun key => quantityOf heap (part key)).sum := by
  induction keys with
  | nil => rfl
  | cons key rest ih =>
    simp only [quantityOf] at ih ⊢
    simp [ih]

/-- Only queued entries matter to a level. -/
theorem LevelOk.frame {heap heap' : Heap} {bound bound' : Nat} {side : OrderSide} {price : Int}
    {level : Level} (ok : LevelOk heap bound side price level) (grown : bound ≤ bound')
    (same : ∀ ref ∈ level.queue, heap' ref = heap ref) : LevelOk heap' bound' side price level := by
  -- The queue is the same one, and so are the entries that it names.
  have live : liveQueue heap' level.queue = liveQueue heap level.queue := liveQueue_congr same
  refine ⟨ok.ordered, ?_, ?_, ?_, ?_, ok.quantity_pos, ?_⟩
  · intro ref member
    obtain ⟨low, high, named⟩ := ok.located ref member
    exact ⟨low, by omega, by rw [same ref member]; exact named⟩
  · intro ref member
    rw [same ref member]
    exact ok.priced ref member
  · intro ref member
    rw [same ref member]
    exact ok.positive ref member
  · rw [live, ok.quantity_eq]
    refine (quantityOf_congr fun ref member => ?_).symm
    rw [same ref (List.mem_of_mem_filter member)]
  · rw [ok.dead_eq]
    congr 2
    exact (List.filter_congr fun ref member => by rw [same ref member]).symm

end Heap

namespace SideOk

variable {heap heap' : Heap} {bound : Nat} {side : OrderSide} {s s' : Side}

/-- A level found by its price is the level at that price. -/
theorem levelAt_eq {price : Int} {level : Level} (found : s.levels.get? price = some level) :
    s.levelAt price = level := by simp [Side.levelAt, found]

/-- Reading a stored level succeeds. -/
theorem level_eq {price : Int} {level : Level} (found : s.levels.get? price = some level) :
    s.level price = .ok level := by simp [Side.level, found]

/-- Every key has a level behind it. -/
theorem level_of_key (ok : SideOk heap bound side s) {key : Int} (member : key ∈ s.keys) :
    ∃ level, s.levels.get? (side.key key) = some level :=
  (ok.keys_levels (side.key key)).mp (by simpa using member)

/-- The live references of a side are the live entries of its queues. -/
theorem mem_liveRefs (ok : SideOk heap bound side s) {ref : Nat} :
    ref ∈ s.liveRefs heap ↔ (heap ref).alive ∧
      ∃ level, s.levels.get? (heap ref).order.price = some level ∧ ref ∈ level.queue := by
  -- A queued entry sits in the level of its own price, whose key is listed.
  simp only [Side.liveRefs, liveQueue, List.mem_flatMap, List.mem_filter, ok.side_eq]
  constructor
  · rintro ⟨key, listed, queued, alive⟩
    obtain ⟨level, found⟩ := ok.level_of_key listed
    rw [levelAt_eq found] at queued
    have priced := ((ok.levels_ok _ _ found).priced ref queued).1
    exact ⟨alive, level, by rw [priced]; exact found, queued⟩
  · rintro ⟨alive, level, found, queued⟩
    exact ⟨side.key (heap ref).order.price, (ok.keys_levels _).mpr ⟨level, found⟩,
      by simpa [levelAt_eq found] using queued, alive⟩

/-- What a side knows about each of its live entries. -/
theorem liveRefs_spec (ok : SideOk heap bound side s) {ref : Nat} (member : ref ∈ s.liveRefs heap) :
    1 ≤ ref ∧ ref ≤ bound ∧ (heap ref).sequence = ref ∧ (heap ref).order.side = side ∧
      (heap ref).alive ∧ 1 ≤ (heap ref).remainingQuantity := by
  obtain ⟨alive, level, found, queued⟩ := ok.mem_liveRefs.mp member
  have level_ok := ok.levels_ok _ _ found
  obtain ⟨low, high, named⟩ := level_ok.located ref queued
  exact ⟨low, high, named, (level_ok.priced ref queued).2, alive, level_ok.positive ref queued alive⟩

/-- The live references stand in priority order. -/
theorem liveRefs_sorted (ok : SideOk heap bound side s) :
    (s.liveRefs heap).Pairwise (Before heap side) := by
  -- Inside a level the references ascend, and between levels the keys do.
  rw [Side.liveRefs, List.pairwise_flatMap]
  constructor
  · intro key listed
    obtain ⟨level, found⟩ := ok.level_of_key listed
    rw [ok.side_eq, levelAt_eq found]
    have level_ok := ok.levels_ok _ _ found
    refine (level_ok.ordered.filter _).imp_of_mem ?_
    intro first second inFirst inSecond ascending
    have first_priced := (level_ok.priced first (List.mem_of_mem_filter inFirst)).1
    have second_priced := (level_ok.priced second (List.mem_of_mem_filter inSecond)).1
    exact .inr ⟨first_priced.trans second_priced.symm, ascending⟩
  · -- The first level has the lower key, and so have its references.
    refine ok.keys_sorted.imp_of_mem ?_
    intro key later listed listed' ascending first inFirst second inSecond
    obtain ⟨level, found⟩ := ok.level_of_key listed
    obtain ⟨level', found'⟩ := ok.level_of_key listed'
    rw [ok.side_eq, levelAt_eq found] at inFirst
    rw [ok.side_eq, levelAt_eq found'] at inSecond
    have first_priced := ((ok.levels_ok _ _ found).priced first (List.mem_of_mem_filter inFirst)).1
    have second_priced :=
      ((ok.levels_ok _ _ found').priced second (List.mem_of_mem_filter inSecond)).1
    refine .inl ?_
    rw [first_priced, second_priced]
    simpa using ascending

/-- Each live reference is listed once. -/
theorem liveRefs_nodup (ok : SideOk heap bound side s) : (s.liveRefs heap).Nodup := by
  refine ok.liveRefs_sorted.imp ?_
  intro first second before same
  subst same
  exact Std.Irrefl.irrefl (r := Before heap side) first before

/-- A list in priority order with the same members is the list of live references. -/
theorem liveRefs_eq (ok : SideOk heap bound side s) {list : List Nat}
    (sorted : list.Pairwise (Before heap side))
    (members : ∀ ref, ref ∈ list ↔ (heap ref).alive ∧
      ∃ level, s.levels.get? (heap ref).order.price = some level ∧ ref ∈ level.queue) :
    s.liveRefs heap = list :=
  ok.liveRefs_sorted.eq_of_mem_iff sorted fun ref => by rw [ok.mem_liveRefs, members ref]

/-- Every level has a live entry. -/
theorem liveQueue_ne_nil {price : Int} {level : Level} (ok : LevelOk heap bound side price level) :
    liveQueue heap level.queue ≠ [] := by
  intro empty
  have positive := ok.quantity_pos
  rw [ok.quantity_eq, empty] at positive
  simp [quantityOf] at positive

/-- A side's total is the remaining quantity of its live entries. -/
theorem total_eq_live (ok : SideOk heap bound side s) :
    s.totalQuantity = quantityOf heap (s.liveRefs heap) := by
  rw [ok.total_eq, Side.liveRefs, ok.side_eq]
  rw [quantityOf_flatMap]
  congr 1
  apply List.map_congr_left
  intro key listed
  obtain ⟨level, found⟩ := ok.level_of_key listed
  rw [levelAt_eq found, (ok.levels_ok _ _ found).quantity_eq]

/-- A side does not look at entries outside its queues. -/
theorem frame {bound' : Nat} (ok : SideOk heap bound side s) (grown : bound ≤ bound')
    (same : ∀ ref, ref ≤ bound → (heap ref).order.side = side → heap' ref = heap ref) :
    SideOk heap' bound' side s where
  side_eq := ok.side_eq
  keys_sorted := ok.keys_sorted
  keys_levels := ok.keys_levels
  levels_ok price level found := by
    have level_ok := ok.levels_ok price level found
    exact level_ok.frame grown fun ref queued =>
      same ref (level_ok.located ref queued).2.1 (level_ok.priced ref queued).2
  total_eq := ok.total_eq

/-- A side that no write touches keeps its live references. -/
theorem liveRefs_frame (ok : SideOk heap bound side s)
    (same : ∀ ref, ref ≤ bound → (heap ref).order.side = side → heap' ref = heap ref) :
    s.liveRefs heap' = s.liveRefs heap := by
  simp only [Side.liveRefs, ok.side_eq]
  apply List.flatMap_congr
  intro key listed
  obtain ⟨level, found⟩ := ok.level_of_key listed
  have level_ok := ok.levels_ok _ _ found
  rw [levelAt_eq found]
  -- A queue of this side names entries of this side only.
  exact liveQueue_congr fun ref queued =>
    same ref (level_ok.located ref queued).2.1 (level_ok.priced ref queued).2

end SideOk

end StockMarket
