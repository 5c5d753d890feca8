import Mathlib.Algebra.Order.BigOperators.Group.List
import Mathlib.Data.List.TakeWhile
import StockMarket.Orderbook.Representation

/-! Each operation on one side keeps it well formed and changes its live entries as intended. -/

namespace StockMarket

namespace SideOk

variable {heap heap' : Heap} {bound : Nat} {side : OrderSide} {s s' : Side} {price : Int}
  {level level' : Level}

/-- Entries away from one price of a side read alike in both heaps. -/
def AwayFrom (heap heap' : Heap) (bound : Nat) (side : OrderSide) (price : Int) : Prop :=
  -- The written entries all belong to the one level that is being changed.
  ∀ ref, ref ≤ bound → (heap ref).order.side = side → (heap ref).order.price ≠ price →
    heap' ref = heap ref

/-- The levels that a write away from them leaves alone are still well formed. -/
theorem level_away (ok : SideOk heap bound side s) (away : AwayFrom heap heap' bound side price)
    {other : Int} (differs : other ≠ price) (found : s.levels.get? other = some level) :
    LevelOk heap' bound side other level := by
  have level_ok := ok.levels_ok other level found
  refine level_ok.frame (le_refl _) fun ref queued => ?_
  obtain ⟨priced, sided⟩ := level_ok.priced ref queued
  exact away ref (level_ok.located ref queued).2.1 sided (priced ▸ differs)

/-- Replacing one level by a well-formed one, with the total following, keeps the side well formed. -/
theorem put (ok : SideOk heap bound side s) (away : AwayFrom heap heap' bound side price)
    (found : s.levels.get? price = some level) (fresh : LevelOk heap' bound side price level')
    (side_eq : s'.side = s.side) (keys : s'.keys = s.keys)
    (levels : ∀ other, s'.levels.get? other =
      if other = price then some level' else s.levels.get? other)
    (total : s'.totalQuantity = s.totalQuantity - level.quantity + level'.quantity) :
    SideOk heap' bound side s' where
  side_eq := side_eq.trans ok.side_eq
  keys_sorted := keys ▸ ok.keys_sorted
  keys_levels other := by
    rw [keys, levels]
    split
    · rename_i same
      subst same
      simpa using (ok.keys_levels other).mpr ⟨level, found⟩
    · exact ok.keys_levels other
  levels_ok other stored stored_eq := by
    rw [levels] at stored_eq
    split at stored_eq
    · rename_i same
      subst same
      exact Option.some.inj stored_eq ▸ fresh
    · rename_i differs
      exact ok.level_away away differs stored_eq
  total_eq := by
    -- Only the summand of the replaced level changes.
    have present := (ok.keys_levels price).mpr ⟨level, found⟩
    have sums := sum_map_update (fun key => (s.levelAt (side.key key)).quantity)
      (fun key => (s'.levelAt (side.key key)).quantity)
      (ok.keys_sorted.imp ne_of_lt) present (by
        intro key _ differs
        have away : side.key key ≠ price := fun same => differs (by rw [← same]; simp)
        simp [Side.levelAt, levels, away])
    have before : (s.levelAt (side.key (side.key price))).quantity = level.quantity := by
      simp [Side.levelAt, found]
    have after : (s'.levelAt (side.key (side.key price))).quantity = level'.quantity := by
      simp [Side.levelAt, levels]
    rw [keys, sums, ← ok.total_eq, total, before, after]

/-- Deleting a level together with its key, with the total following, keeps the side well formed. -/
theorem drop (ok : SideOk heap bound side s) (away : AwayFrom heap heap' bound side price)
    (found : s.levels.get? price = some level) (side_eq : s'.side = s.side)
    (keys : s'.keys = s.keys.filter (· ≠ side.key price))
    (levels : ∀ other, s'.levels.get? other =
      if other = price then none else s.levels.get? other)
    (total : s'.totalQuantity = s.totalQuantity - level.quantity) :
    SideOk heap' bound side s' where
  side_eq := side_eq.trans ok.side_eq
  -- The other keys stay in their order.
  keys_sorted := keys ▸ ok.keys_sorted.filter _
  keys_levels other := by
    rw [keys, levels, List.mem_filter]
    split
    · rename_i same; simp [same]
    · rename_i differs
      simpa [differs] using ok.keys_levels other
  levels_ok other stored stored_eq := by
    rw [levels] at stored_eq
    split at stored_eq
    · cases stored_eq
    · rename_i differs
      exact ok.level_away away differs stored_eq
  total_eq := by
    -- The key of the level is one of those that make up the total.
    have present := (ok.keys_levels price).mpr ⟨level, found⟩
    have sums := sum_map_drop (fun key => (s.levelAt (side.key key)).quantity)
      (ok.keys_sorted.imp ne_of_lt) present
    have before : (s.levelAt (side.key (side.key price))).quantity = level.quantity := by
      simp [Side.levelAt, found]
    -- The levels of all other keys hold what they held.
    have kept : s'.keys.map (fun key => (s'.levelAt (side.key key)).quantity) =
        (s.keys.filter (· ≠ side.key price)).map
          fun key => (s.levelAt (side.key key)).quantity := by
      rw [keys]
      apply List.map_congr_left
      intro key member
      have differs : side.key key ≠ price := by
        intro same
        have : key = side.key price := by rw [← same]; simp
        simp [this] at member
      simp [Side.levelAt, levels, differs]
    rw [kept, sums, ← ok.total_eq, total, before]

/-- Opening a level at a new price, with the total following, keeps the side well formed. -/
theorem opened (ok : SideOk heap bound side s) (away : AwayFrom heap heap' bound side price)
    (absent : s.levels.get? price = none) (fresh : LevelOk heap' bound side price level')
    (side_eq : s'.side = s.side) (keys : s'.keys = insort s.keys (side.key price))
    (levels : ∀ other, s'.levels.get? other =
      if other = price then some level' else s.levels.get? other)
    (total : s'.totalQuantity = s.totalQuantity + level'.quantity) :
    SideOk heap' bound side s' := by
  -- A price without a level has no key either.
  have unlisted : side.key price ∉ s.keys := by
    intro listed
    obtain ⟨level, found⟩ := (ok.keys_levels price).mp listed
    simp [absent] at found
  -- The new key is listed in its place, and every other level is as before.
  refine ⟨side_eq.trans ok.side_eq, keys ▸ insort_sorted ok.keys_sorted unlisted, ?_, ?_, ?_⟩
  · intro other
    rw [keys, levels, mem_insort]
    split
    · rename_i same; simp [same]
    · rename_i differs
      simpa [differs] using ok.keys_levels other
  · intro other stored stored_eq
    rw [levels] at stored_eq
    split at stored_eq
    · rename_i same
      subst same
      exact Option.some.inj stored_eq ▸ fresh
    · rename_i differs
      exact ok.level_away away differs stored_eq
  · -- The new key contributes its own level, and the other keys contribute what they did.
    have sums := (((insertAfter_perm (· ≤ side.key price) (side.key price) s.keys)).map
      fun key => (s'.levelAt (side.key key)).quantity).sum_eq
    have kept : s.keys.map (fun key => (s'.levelAt (side.key key)).quantity) =
        s.keys.map fun key => (s.levelAt (side.key key)).quantity := by
      apply List.map_congr_left
      intro key member
      have differs : side.key key ≠ price := by
        intro same
        exact unlisted (by rw [← same]; simpa using member)
      simp [Side.levelAt, levels, differs]
    have after : (s'.levelAt (side.key (side.key price))).quantity = level'.quantity := by
      simp [Side.levelAt, levels]
    rw [keys, insort, sums, List.map_cons, List.sum_cons, kept, ← ok.total_eq, total, after]
    omega

/-- Deleting a level finds both its entry and its key. -/
theorem dropLevel_eq (t : Side) (price : Int) (sorted : t.keys.Pairwise (· < ·))
    (listed : t.key price ∈ t.keys) (found : t.levels.get? price = some level) :
    -- The key is found where bisection looks for it.
    t.dropLevel price = .ok { t with
      levels := t.levels.erase price
      keys := t.keys.filter (· ≠ t.key price) } := by
  have index := bisectLeft_lt_length listed
  -- Bisection finds the key, and the key is listed once.
  have erased := eraseIdx_bisectLeft sorted listed
  simp only [Side.dropLevel, level_eq found, Bind.bind, Except.bind, Pure.pure, Except.pure]
  refine (if_pos index).trans ?_
  rw [← erased]
  rfl

/-- Dead entries at the front are exactly what skipping removes. -/
theorem skipDead_eq (heap : Heap) (queue : List Nat) (dead : Int) :
    Side.skipDead heap queue dead =
      (queue.dropWhile fun ref => !(heap ref).alive,
        dead - (queue.takeWhile fun ref => !(heap ref).alive).length) := by
  induction queue generalizing dead with
  | nil => simp [Side.skipDead]
  | cons ref rest ih =>
    -- A live entry ends the run of dead ones.
    by_cases alive : (heap ref).alive = true
    · simp [Side.skipDead, alive]
    · simp only [Side.skipDead, alive, ih]
      simp [alive]
      omega

/-- Skipping keeps a level well formed, and it still has the same live entries. -/
theorem skipped (ok : LevelOk heap bound side price level) :
    LevelOk heap bound side price { level with
      queue := level.queue.dropWhile fun ref => !(heap ref).alive
      dead := level.dead - (level.queue.takeWhile fun ref => !(heap ref).alive).length } ∧
    liveQueue heap (level.queue.dropWhile fun ref => !(heap ref).alive) =
      liveQueue heap level.queue := by
  -- The queue is a dead run followed by what skipping keeps.
  have split := List.takeWhile_append_dropWhile (p := fun ref => !(heap ref).alive)
    (l := level.queue)
  have run : ∀ ref ∈ level.queue.takeWhile (fun ref => !(heap ref).alive), (heap ref).alive = false :=
    fun ref member => by simpa using List.mem_takeWhile_imp member
  have no_live : liveQueue heap (level.queue.takeWhile fun ref => !(heap ref).alive) = [] :=
    List.filter_eq_nil_iff.mpr fun ref member => by simp [run ref member]
  have live : liveQueue heap (level.queue.dropWhile fun ref => !(heap ref).alive) =
      liveQueue heap level.queue := by
    conv_rhs => rw [← split]
    rw [liveQueue, liveQueue, List.filter_append]
    rw [liveQueue] at no_live
    rw [no_live, List.nil_append]
  -- Skipping leaves a tail of the queue.
  have kept : (level.queue.dropWhile fun ref => !(heap ref).alive).Sublist level.queue :=
    List.dropWhile_sublist _
  refine ⟨⟨ok.ordered.sublist kept, fun ref member => ok.located ref (kept.subset member),
    fun ref member => ok.priced ref (kept.subset member),
    fun ref member => ok.positive ref (kept.subset member), ?_, ok.quantity_pos, ?_⟩, live⟩
  · exact live ▸ ok.quantity_eq
  · -- Everything that is skipped counts as dead.
    have all_dead : (level.queue.takeWhile fun ref => !(heap ref).alive).filter
        (fun ref => !(heap ref).alive) = level.queue.takeWhile fun ref => !(heap ref).alive :=
      List.filter_eq_self.mpr fun ref member => by simp [run ref member]
    have counted : (level.queue.filter fun ref => !(heap ref).alive).length =
        (level.queue.takeWhile fun ref => !(heap ref).alive).length +
          ((level.queue.dropWhile fun ref => !(heap ref).alive).filter
            fun ref => !(heap ref).alive).length := by
      conv_lhs => rw [← split]
      rw [List.filter_append, List.length_append, all_dead]
    show level.dead - _ = _
    rw [ok.dead_eq, counted]
    push_cast
    omega

/-- Popping one dead entry off the front keeps a level well formed. -/
theorem skipped_one {ref : Nat} {rest : List Nat} (ok : LevelOk heap bound side price level)
    (queue : level.queue = ref :: rest) (dead : (heap ref).alive = false) :
    LevelOk heap bound side price { level with queue := rest, dead := level.dead - 1 } := by
  have kept : rest.Sublist level.queue := queue ▸ List.sublist_cons_self ref rest
  -- The dead entry is not one of the live ones.
  have live : liveQueue heap level.queue = liveQueue heap rest := by
    simp [queue, liveQueue, dead]
  refine ⟨ok.ordered.sublist kept, fun other member => ok.located other (kept.subset member),
    fun other member => ok.priced other (kept.subset member),
    fun other member => ok.positive other (kept.subset member), ?_, ok.quantity_pos, ?_⟩
  · exact live ▸ ok.quantity_eq
  · show level.dead - 1 = _
    rw [ok.dead_eq, queue]
    simp [dead]

/-- The entry heads the queue of its own price. -/
def Front (heap : Heap) (s : Side) (ref : Nat) : Prop :=
  -- Only such an entry can be popped once it is filled.
  ∃ level rest, s.levels.get? (heap ref).order.price = some level ∧ level.queue = ref :: rest

/-- Only the level of an entry changed, by losing what was queued in front of the entry. -/
def Cleaned (heap : Heap) (s t : Side) (ref : Nat) : Prop :=
  ∃ level gone rest dead, s.levels.get? (heap ref).order.price = some level ∧
    level.queue = gone ++ ref :: rest ∧ ∀ other, t.levels.get? other =
      if other = (heap ref).order.price then some ⟨ref :: rest, level.quantity, dead⟩
      else s.levels.get? other

/-- An entry with nothing in front of it heads its queue. -/
theorem Cleaned.front {t : Side} {ref : Nat} (cleaned : Cleaned heap s t ref) :
    Front heap t ref := by
  obtain ⟨level, _, rest, dead, _, _, levels⟩ := cleaned
  exact ⟨_, rest, (levels _).trans (if_pos rfl), rfl⟩

/-- The best order is the first live one, and finding it only cleans its level. -/
theorem best_spec (ok : SideOk heap bound side s) :
    ∃ t, s.best heap = .ok (t, (s.liveRefs heap).head?) ∧ SideOk heap bound side t ∧
      t.liveRefs heap = s.liveRefs heap ∧
      ∀ ref, (s.liveRefs heap).head? = some ref → Cleaned heap s t ref := by
  -- Every level has a live entry, so the first key already answers.
  cases keys : s.keys with
  | nil =>
    -- A side without keys has no order.
    have none_live : s.liveRefs heap = [] := by simp [Side.liveRefs, keys]
    exact ⟨s, by simp [Side.best, Side.bestLoop, keys, none_live], ok, rfl, by simp [none_live]⟩
  | cons key rest =>
    -- The first key has a level, whose queue holds a live entry.
    obtain ⟨level, found⟩ := ok.level_of_key (keys ▸ List.mem_cons_self : key ∈ s.keys)
    have level_ok := ok.levels_ok _ _ found
    obtain ⟨clean, live⟩ := skipped level_ok
    -- What skipping keeps starts with a live entry.
    have nonempty := liveQueue_ne_nil level_ok
    rw [← live] at nonempty
    cases kept : level.queue.dropWhile (fun ref => !(heap ref).alive) with
    | nil => simp [kept, liveQueue] at nonempty
    | cons ref tail =>
      have alive : (heap ref).alive = true := by
        have head := List.head?_dropWhile_not (fun ref => !(heap ref).alive) level.queue
        simpa [kept] using head
      rw [kept] at live clean
      -- The first live entry of the best level is the best order of the side.
      have front : (s.liveRefs heap).head? = some ref := by
        have first : s.liveRefs heap = liveQueue heap level.queue ++
            rest.flatMap fun key => liveQueue heap (s.levelAt (s.side.key key)).queue := by
          simp [Side.liveRefs, keys, ok.side_eq, levelAt_eq found]
        rw [first, ← live]
        simp [liveQueue, alive]
      have cleaned := clean
      set level' : Level := { level with
        queue := ref :: tail
        dead := level.dead - (level.queue.takeWhile fun ref => !(heap ref).alive).length } with level'_eq
      -- Only the queue of the best level and its count of the dead are new.
      let t : Side := { s with levels := s.levels.set (side.key key) level' }
      have t_ok : SideOk heap bound side t := by
        have away : AwayFrom heap heap bound side (side.key key) := fun _ _ _ _ => rfl
        refine ok.put away found cleaned rfl rfl ?_ ?_
        · intro other; exact Dict.get?_set ..
        · show s.totalQuantity = _
          simp [level'_eq]
      have priced := (cleaned.priced ref (by simp [level'_eq])).1
      refine ⟨t, ?_, t_ok, ?_, ?_⟩
      · rw [front]
        simp only [Side.best, Side.bestLoop, keys, Side.price, ok.side_eq, level_eq found,
          skipDead_eq, kept, Bind.bind, Except.bind, Pure.pure, Except.pure]
        simp only [t, level'_eq, keys, ok.side_eq]
      · -- The cleaned level has the live entries it had before.
        refine t_ok.liveRefs_eq ok.liveRefs_sorted fun other => ?_
        rw [ok.mem_liveRefs]
        refine and_congr_right fun other_alive => ?_
        simp only [t, Dict.get?_set]
        split
        · rename_i same
          rw [same, found]
          have both : other ∈ liveQueue heap (ref :: tail) ↔ other ∈ liveQueue heap level.queue := by
            rw [live]
          simpa [liveQueue, other_alive, level'_eq] using both.symm
        · rfl
      · -- What was in front of the entry in its queue was dead.
        intro other head
        rw [front, Option.some.injEq] at head
        subst head
        refine ⟨level, level.queue.takeWhile fun ref => !(heap ref).alive, tail, level'.dead,
          priced ▸ found, ?_, fun other => ?_⟩
        · rw [← kept, List.takeWhile_append_dropWhile]
        · rw [priced]
          exact Dict.get?_set ..

section Kill

variable {ref : Nat} {entry : Entry}

/-- Killing an entry removes exactly it from the live part of a queue. -/
theorem liveQueue_kill (queue : List Nat) (dead : entry.alive = false) :
    liveQueue (heap.store ref entry) queue = (liveQueue heap queue).filter (· ≠ ref) := by
  rw [liveQueue, liveQueue, List.filter_filter]
  apply List.filter_congr
  intro other _
  -- The killed entry is dead now, and all others are as they were.
  by_cases same : other = ref
  · simp [same, dead]
  · simp [same, Heap.store_other same]

/-- Leaving one live entry out of a queue leaves its remaining quantity out of the sum. -/
theorem quantityOf_without {queue : List Nat} (nodup : queue.Nodup) (queued : ref ∈ queue)
    (alive : (heap ref).alive) : quantityOf heap ((liveQueue heap queue).filter (· ≠ ref)) =
      quantityOf heap (liveQueue heap queue) - (heap ref).remainingQuantity :=
  sum_map_drop (fun other => (heap other).remainingQuantity) (nodup.filter _)
    (List.mem_filter.mpr ⟨queued, alive⟩)

/-- Killing an entry takes its remaining quantity out of its queue. -/
theorem quantityOf_kill {queue : List Nat} (nodup : queue.Nodup) (queued : ref ∈ queue)
    (alive : (heap ref).alive) (dead : entry.alive = false) :
    quantityOf (heap.store ref entry) (liveQueue (heap.store ref entry) queue) =
      quantityOf heap (liveQueue heap queue) - (heap ref).remainingQuantity := by
  rw [liveQueue_kill queue dead]
  -- The other entries carry what they did.
  have away : quantityOf (heap.store ref entry) ((liveQueue heap queue).filter (· ≠ ref)) =
      quantityOf heap ((liveQueue heap queue).filter (· ≠ ref)) := by
    apply quantityOf_congr
    intro other member
    rw [Heap.store_other (by simpa using (List.mem_filter.mp member).2)]
  rw [away, quantityOf_without nodup queued alive]

/-- Live and dead entries make up a queue. -/
theorem live_add_dead (heap : Heap) (queue : List Nat) :
    (liveQueue heap queue).length + (queue.filter fun ref => !(heap ref).alive).length =
      queue.length :=
  (List.length_eq_length_filter_add fun ref => (heap ref).alive).symm

/-- Killing an entry in a queue makes one more dead entry. -/
theorem dead_kill {queue : List Nat} (nodup : queue.Nodup) (queued : ref ∈ queue)
    (alive : (heap ref).alive) (dead : entry.alive = false) :
    (queue.filter fun other => !(heap.store ref entry other).alive).length =
      (queue.filter fun other => !(heap other).alive).length + 1 := by
  -- The live entries are one fewer, and the length of the queue is the same.
  have before := live_add_dead heap queue
  have after := live_add_dead (heap.store ref entry) queue
  have member : ref ∈ liveQueue heap queue := List.mem_filter.mpr ⟨queued, alive⟩
  have shorter : (liveQueue (heap.store ref entry) queue).length + 1 =
      (liveQueue heap queue).length := by
    have live_nodup : (liveQueue heap queue).Nodup := nodup.filter _
    rw [liveQueue_kill queue dead, filter_ne_eq_erase live_nodup, List.length_erase_of_mem member]
    have := List.length_pos_of_mem member
    omega
  omega

/-- The live references of a side lose exactly the killed one. -/
theorem liveRefs_kill (ok : SideOk heap bound side s) (ok' : SideOk (heap.store ref entry) bound side s')
    (dead : entry.alive = false) (order : entry.order = (heap ref).order)
    (found : s.levels.get? (heap ref).order.price = some level) {now : Option Level}
    (levels : ∀ other, s'.levels.get? other =
      if other = (heap ref).order.price then now else s.levels.get? other)
    (queues : ∀ other, other ≠ ref → (heap other).alive →
      ((∃ level', now = some level' ∧ other ∈ level'.queue) ↔ other ∈ level.queue)) :
    s'.liveRefs (heap.store ref entry) = (s.liveRefs heap).filter (· ≠ ref) := by
  -- Killing an entry changes neither its order nor its number.
  have same_order : ∀ other, (heap.store ref entry other).order = (heap other).order := by
    intro other
    by_cases same : other = ref
    · subst same; simpa using order
    · rw [Heap.store_other same]
  refine ok'.liveRefs_eq ?_ fun other => ?_
  · rw [Before.congr same_order]
    exact ok.liveRefs_sorted.filter _
  · rw [List.mem_filter, ok.mem_liveRefs, same_order]
    -- The killed entry is listed no more, and the others where they were.
    by_cases same : other = ref
    · simp [same, dead]
    · rw [Heap.store_other same, levels]
      by_cases alive : (heap other).alive = true
      · split
        · rename_i priced
          rw [priced, found]
          simpa [same, alive] using (queues other same alive).symm
        · simp [same]
      · simp [alive]

/-- Writes to an entry happen inside the level of its own price. -/
theorem away_store (priced : (heap ref).order.price = price) :
    AwayFrom heap (heap.store ref entry) bound side price := by
  intro other _ _ differs
  exact Heap.store_other fun same => differs (same ▸ priced)

/-- The live entries other than one never carry a negative quantity. -/
theorem quantityOf_nonneg (ok : LevelOk heap bound side price level) (kept : Nat → Bool) :
    0 ≤ quantityOf heap ((liveQueue heap level.queue).filter kept) := by
  refine List.sum_nonneg ?_
  intro quantity member
  -- Every other live entry carries at least one share.
  obtain ⟨other, inside, rfl⟩ := List.mem_map.mp member
  have live := List.mem_filter.mp (List.mem_of_mem_filter inside)
  have := ok.positive other live.1 live.2
  omega

/-- A level that loses its only live quantity has no live entry left. -/
theorem no_live_left (ok : LevelOk heap bound side price level) (kept : Nat → Bool)
    (zero : quantityOf heap ((liveQueue heap level.queue).filter kept) = 0) :
    (liveQueue heap level.queue).filter kept = [] := by
  cases list : (liveQueue heap level.queue).filter kept with
  | nil => rfl
  -- A first entry would carry something, and the sum would not be zero.
  | cons first rest =>
    exfalso
    have members : ∀ other ∈ (liveQueue heap level.queue).filter kept,
        1 ≤ (heap other).remainingQuantity := fun other member => by
      have live := List.mem_filter.mp (List.mem_of_mem_filter member)
      exact ok.positive other live.1 live.2
    have head := members first (by simp [list])
    -- The other entries carry nothing negative.
    have others : 0 ≤ quantityOf heap rest := by
      refine List.sum_nonneg ?_
      intro quantity member
      obtain ⟨other, inside, rfl⟩ := List.mem_map.mp member
      have := members other (by simp [list, inside])
      omega
    rw [list] at zero
    simp only [quantityOf, List.map_cons, List.sum_cons] at zero others
    omega

/-- Rebuilding a queue without its dead entries keeps a level well formed. -/
theorem compacted (ok : LevelOk heap bound side price level) :
    LevelOk heap bound side price (Side.compact heap level) := by
  -- The compacted queue is a part of the old one.
  have kept : (level.queue.filter fun ref => (heap ref).alive).Sublist level.queue :=
    List.filter_sublist
  refine ⟨ok.ordered.sublist kept, fun ref member => ok.located ref (kept.subset member),
    fun ref member => ok.priced ref (kept.subset member),
    fun ref member => ok.positive ref (kept.subset member), ?_, ok.quantity_pos, ?_⟩
  · simp [Side.compact, liveQueue, ok.quantity_eq]
  · simp [Side.compact, List.filter_filter]

/-- A queued entry is listed once. -/
theorem queue_nodup (ok : LevelOk heap bound side price level) : level.queue.Nodup :=
  ok.ordered.imp ne_of_lt

/-- Killing a queued entry keeps its level well formed while quantity is left. -/
theorem killed (entry : Entry) (ok : LevelOk heap bound side price level) (queued : ref ∈ level.queue)
    (alive : (heap ref).alive) (dead : entry.alive = false) (order : entry.order = (heap ref).order)
    (sequence : entry.sequence = (heap ref).sequence)
    (left : level.quantity - (heap ref).remainingQuantity ≠ 0) :
    LevelOk (heap.store ref entry) bound side price { level with
      quantity := level.quantity - (heap ref).remainingQuantity
      dead := level.dead + 1 } := by
  -- The entry is queued once, so that it leaves the sum once.
  have nodup := queue_nodup ok
  -- Order and number of an entry survive its death.
  have fields : ∀ other, (heap.store ref entry other).order = (heap other).order ∧
      (heap.store ref entry other).sequence = (heap other).sequence := by
    intro other
    by_cases same : other = ref
    · subst same; simp [order, sequence]
    · simp [Heap.store_other same]
  have without := quantityOf_without nodup queued alive
  have nonneg := quantityOf_nonneg ok (· ≠ ref)
  have quantity := ok.quantity_eq
  refine ⟨ok.ordered, ?_, ?_, ?_, ?_, ?_, ?_⟩
  · intro other member
    rw [(fields other).2]
    exact ok.located other member
  · intro other member
    rw [(fields other).1]
    exact ok.priced other member
  · -- Entries that are still alive are positive as before.
    intro other member other_alive
    by_cases same : other = ref
    · subst same; simp [dead] at other_alive
    · rw [Heap.store_other same] at other_alive ⊢
      exact ok.positive other member other_alive
  · rw [quantityOf_kill nodup queued alive dead, ← quantity]
  · show 1 ≤ level.quantity - _
    omega
  · show level.dead + 1 = _
    rw [dead_kill nodup queued alive dead, ok.dead_eq]
    push_cast
    rfl

/-- When a level's last live quantity goes, no other live entry was queued in it. -/
theorem alone (ok : LevelOk heap bound side price level) (queued : ref ∈ level.queue)
    (alive : (heap ref).alive) (zero : level.quantity - (heap ref).remainingQuantity = 0)
    {other : Nat} (differs : other ≠ ref) (other_alive : (heap other).alive) :
    other ∉ level.queue := by
  intro member
  -- Nothing is left of the quantity without the entry.
  have none_left := no_live_left ok (· ≠ ref) (by
    rw [quantityOf_without (queue_nodup ok) queued alive, ← ok.quantity_eq]; exact zero)
  have inside : other ∈ (liveQueue heap level.queue).filter (· ≠ ref) :=
    List.mem_filter.mpr ⟨List.mem_filter.mpr ⟨member, other_alive⟩, by simpa using differs⟩
  rw [none_left] at inside
  exact List.not_mem_nil inside

/-- A level goes with its last live entry, and its key with it. -/
theorem level_dropped (entry : Entry) (t : Side) (ok : SideOk heap bound side s)
    (found : s.levels.get? (heap ref).order.price = some level) (queued : ref ∈ level.queue)
    (alive : (heap ref).alive) (dead : entry.alive = false) (order : entry.order = (heap ref).order)
    (zero : level.quantity - (heap ref).remainingQuantity = 0) (side_eq : t.side = s.side)
    (keys : t.keys = s.keys.filter (· ≠ s.key (heap ref).order.price))
    (levels : ∀ other, t.levels.get? other =
      if other = (heap ref).order.price then none else s.levels.get? other)
    (total : t.totalQuantity = s.totalQuantity - (heap ref).remainingQuantity) :
    SideOk (heap.store ref entry) bound side t ∧
      t.liveRefs (heap.store ref entry) = (s.liveRefs heap).filter (· ≠ ref) := by
  have level_ok := ok.levels_ok _ _ found
  have t_ok : SideOk (heap.store ref entry) bound side t :=
    ok.drop (away_store rfl) found side_eq (by simpa [Side.key, ok.side_eq] using keys) levels
      (by omega)
  refine ⟨t_ok, liveRefs_kill ok t_ok dead order found levels fun other differs other_alive => ?_⟩
  -- No other live entry was in the queue of the level.
  simpa using alone level_ok queued alive zero differs other_alive

/-- A level that keeps other live entries stays, with a queue that lists these. -/
theorem level_kept (entry : Entry) (t : Side) (ok : SideOk heap bound side s)
    (found : s.levels.get? (heap ref).order.price = some level)
    (dead : entry.alive = false) (order : entry.order = (heap ref).order) {level' : Level}
    (fresh : LevelOk (heap.store ref entry) bound side (heap ref).order.price level')
    (quantity : level'.quantity = level.quantity - (heap ref).remainingQuantity)
    (queues : ∀ other, other ≠ ref → (heap other).alive →
      (other ∈ level'.queue ↔ other ∈ level.queue)) (side_eq : t.side = s.side)
    (keys : t.keys = s.keys)
    (levels : ∀ other, t.levels.get? other =
      if other = (heap ref).order.price then some level' else s.levels.get? other)
    (total : t.totalQuantity = s.totalQuantity - (heap ref).remainingQuantity) :
    SideOk (heap.store ref entry) bound side t ∧
      t.liveRefs (heap.store ref entry) = (s.liveRefs heap).filter (· ≠ ref) := by
  have t_ok : SideOk (heap.store ref entry) bound side t :=
    ok.put (away_store rfl) found fresh side_eq keys levels (by omega)
  refine ⟨t_ok, liveRefs_kill ok t_ok dead order found levels fun other differs other_alive => ?_⟩
  simpa using queues other differs other_alive

/-- The key of a level is listed, so that dropping the level does not fault. -/
theorem dropLevel_listed (ok : SideOk heap bound side s) {price : Int}
    (found : s.levels.get? price = some level) (t : Side) (side_eq : t.side = s.side)
    (keys : t.keys = s.keys) {last : Level} (stored : t.levels.get? price = some last) :
    t.dropLevel price = .ok { t with
      levels := t.levels.erase price
      keys := t.keys.filter (· ≠ t.key price) } := by
  have listed : t.key price ∈ t.keys := by
    rw [Side.key, side_eq, ok.side_eq, keys]
    exact (ok.keys_levels _).mpr ⟨level, found⟩
  -- The side has the keys of the one before, which are sorted.
  exact dropLevel_eq t price (keys ▸ ok.keys_sorted) listed stored

/-- Removing a live order succeeds and takes exactly that order out of the side. -/
theorem remove_spec (ok : SideOk heap bound side s) (member : ref ∈ s.liveRefs heap) :
    ∃ t, s.remove heap ref = .ok (heap.store ref { heap ref with alive := false }, t) ∧
      SideOk (heap.store ref { heap ref with alive := false }) bound side t ∧
      t.liveRefs (heap.store ref { heap ref with alive := false }) =
        (s.liveRefs heap).filter (· ≠ ref) := by
  obtain ⟨alive, level, found, queued⟩ := ok.mem_liveRefs.mp member
  have level_ok := ok.levels_ok _ _ found
  by_cases zero : level.quantity - (heap ref).remainingQuantity = 0
  · -- The level dies with its last live order.
    let t : Side := { s with
      levels := (s.levels.set (heap ref).order.price { level with
        quantity := level.quantity - (heap ref).remainingQuantity }).erase (heap ref).order.price
      keys := s.keys.filter (· ≠ s.key (heap ref).order.price)
      totalQuantity := s.totalQuantity - (heap ref).remainingQuantity }
    have levels : ∀ other, t.levels.get? other =
        if other = (heap ref).order.price then none else s.levels.get? other := by
      intro other
      simp only [t, Dict.get?_erase, Dict.get?_set]
      split <;> rfl
    have dropped := ok.dropLevel_listed found { s with
      levels := s.levels.set (heap ref).order.price { level with
        quantity := level.quantity - (heap ref).remainingQuantity }
      totalQuantity := s.totalQuantity - (heap ref).remainingQuantity } rfl rfl (by simp; rfl)
    refine ⟨t, ?_, level_dropped { heap ref with alive := false } t ok found queued alive rfl rfl
      zero rfl rfl levels rfl⟩
    simp only [Side.remove, level_eq found, zero, if_true, Bind.bind, Except.bind, Pure.pure,
      Except.pure] at dropped ⊢
    rw [dropped]
    simp only [t, zero]
    rfl
  · -- The level stays, possibly with a rebuilt queue.
    have base := killed { heap ref with alive := false } level_ok queued alive rfl rfl rfl
      zero
    set kept : Level := { level with
      quantity := level.quantity - (heap ref).remainingQuantity
      dead := level.dead + 1 } with kept_eq
    let level' : Level :=
      if compactMinDead < kept.dead ∧ (kept.queue.length : Int) < kept.dead * 2 then
        Side.compact (heap.store ref { heap ref with alive := false }) kept
      else kept
    have fresh : LevelOk (heap.store ref { heap ref with alive := false }) bound side
        (heap ref).order.price level' := by
      -- Compaction keeps a level well formed, and so does leaving it alone.
      simp only [level']
      split
      · exact compacted base
      · exact base
    -- Compaction changes no quantity.
    have quantity : level'.quantity = kept.quantity := by
      simp only [level']; split <;> rfl
    -- A live entry is in the rebuilt queue if it was in the old one.
    have queues : ∀ other, other ≠ ref → (heap other).alive →
        (other ∈ level'.queue ↔ other ∈ level.queue) := by
      intro other differs other_alive
      simp only [level']
      split
      · simp [Side.compact, Heap.store_other differs, other_alive, kept_eq]
      · rfl
    let t : Side := { s with
      levels := (s.levels.set (heap ref).order.price { level with
        quantity := level.quantity - (heap ref).remainingQuantity }).set (heap ref).order.price level'
      totalQuantity := s.totalQuantity - (heap ref).remainingQuantity }
    have levels : ∀ other, t.levels.get? other =
        if other = (heap ref).order.price then some level' else s.levels.get? other := by
      intro other
      simp only [t, Dict.get?_set]
      split <;> rfl
    refine ⟨t, ?_, level_kept { heap ref with alive := false } t ok found rfl rfl fresh quantity
      queues rfl rfl levels rfl⟩
    simp only [Side.remove, level_eq found, if_neg zero, Bind.bind, Except.bind, Pure.pure,
      Except.pure]
    rfl

section Partly

variable {quantity : Int}

/-- Writing what is left of an entry changes nothing else about any entry. -/
theorem lowered_fields (other : Nat) :
    (heap.store ref { heap ref with
        remainingQuantity := (heap ref).remainingQuantity - quantity } other).order =
      (heap other).order ∧
    (heap.store ref { heap ref with
        remainingQuantity := (heap ref).remainingQuantity - quantity } other).sequence =
      (heap other).sequence ∧
    (heap.store ref { heap ref with
        remainingQuantity := (heap ref).remainingQuantity - quantity } other).alive =
      (heap other).alive := by
  -- The entry keeps its other fields, and the other entries are not written.
  by_cases same : other = ref
  · subst same; simp
  · simp [Heap.store_other same]

/-- A level whose front order gives a part of what it holds loses that part. -/
theorem lowered (ok : LevelOk heap bound side price level) (queued : ref ∈ level.queue)
    (alive : (heap ref).alive) (partly : quantity < (heap ref).remainingQuantity) :
    LevelOk (heap.store ref { heap ref with
      remainingQuantity := (heap ref).remainingQuantity - quantity }) bound side price
      { level with quantity := level.quantity - quantity } := by
  have fields := @lowered_fields heap ref quantity
  set entry : Entry := { heap ref with
    remainingQuantity := (heap ref).remainingQuantity - quantity } with entry_eq
  -- The liveness of the entries is kept, and with it the live queue.
  have live : liveQueue (heap.store ref entry) level.queue = liveQueue heap level.queue :=
    List.filter_congr fun other _ => (fields other).2.2
  have live_member : ref ∈ liveQueue heap level.queue := List.mem_filter.mpr ⟨queued, alive⟩
  have sums := sum_map_update (fun other => (heap other).remainingQuantity)
    (fun other => (heap.store ref entry other).remainingQuantity)
    ((queue_nodup ok).filter _) live_member
    fun other _ differs => by rw [Heap.store_other differs]
  have after : quantityOf (heap.store ref entry) (liveQueue heap level.queue) =
      level.quantity - quantity := by
    rw [ok.quantity_eq, quantityOf]
    rw [Heap.store_self] at sums
    simp only [quantityOf, liveQueue]
    rw [sums, entry_eq]
    simp only
    omega
  refine ⟨ok.ordered, ?_, ?_, ?_, ?_, ?_, ?_⟩
  · intro other inside
    rw [(fields other).2.1]
    exact ok.located other inside
  · intro other inside
    rw [(fields other).1]
    exact ok.priced other inside
  · -- The front order keeps what is not taken from it.
    intro other inside other_alive
    by_cases same : other = ref
    · subst same; rw [Heap.store_self, entry_eq]; simp only; omega
    · rw [Heap.store_other same] at other_alive ⊢
      exact ok.positive other inside other_alive
  · rw [live]; exact after.symm
  · -- The other live orders carry at least nothing, and the front one keeps a unit.
    have without := quantityOf_without (queue_nodup ok) queued alive
    have nonneg := quantityOf_nonneg ok (· ≠ ref)
    have quantity_eq := ok.quantity_eq
    show 1 ≤ level.quantity - quantity
    omega
  · show level.dead = _
    rw [ok.dead_eq]
    congr 2
    exact List.filter_congr fun other _ => by rw [(fields other).2.2]

/-- Filling part of the front order only lowers its remaining quantity. -/
theorem fillBest_partial (ok : SideOk heap bound side s) (member : ref ∈ s.liveRefs heap)
    (partly : quantity < (heap ref).remainingQuantity) :
    ∃ t, s.fillBest heap ref quantity = .ok (heap.store ref { heap ref with
        remainingQuantity := (heap ref).remainingQuantity - quantity }, t, false) ∧
      SideOk (heap.store ref { heap ref with
        remainingQuantity := (heap ref).remainingQuantity - quantity }) bound side t ∧
      t.liveRefs (heap.store ref { heap ref with
        remainingQuantity := (heap ref).remainingQuantity - quantity }) = s.liveRefs heap := by
  obtain ⟨alive, level, found, queued⟩ := ok.mem_liveRefs.mp member
  have fresh := lowered (ok.levels_ok _ _ found) queued alive partly
  let t : Side := { s with
    levels := s.levels.set (heap ref).order.price
      { level with quantity := level.quantity - quantity }
    totalQuantity := s.totalQuantity - quantity }
  have t_ok : SideOk (heap.store ref { heap ref with
      remainingQuantity := (heap ref).remainingQuantity - quantity }) bound side t := by
    refine ok.put (away_store rfl) found fresh rfl rfl (fun other => Dict.get?_set ..) ?_
    simp only [t]
    omega
  refine ⟨t, ?_, t_ok, ?_⟩
  · -- Something is left of the order, so that it is not popped.
    have left : (heap ref).remainingQuantity - quantity ≠ 0 := by omega
    simp only [Side.fillBest, level_eq found, Bind.bind, Except.bind, Pure.pure, Except.pure]
    rw [if_pos left]
  · -- The same entries are alive, in the same places.
    refine t_ok.liveRefs_eq ?_ fun other => ?_
    · rw [Before.congr fun other => (lowered_fields other).1]
      exact ok.liveRefs_sorted
    · obtain ⟨order, _, same_alive⟩ := @lowered_fields heap ref quantity other
      rw [ok.mem_liveRefs, same_alive, order]
      refine and_congr_right fun _ => ?_
      simp only [t, Dict.get?_set]
      split
      · rename_i same; simp [same, found]
      · rfl

end Partly

/-- Filling all of the front order takes exactly that order out of the side. -/
theorem fillBest_full (ok : SideOk heap bound side s) (member : ref ∈ s.liveRefs heap)
    (front : Front heap s ref) :
    ∃ t, s.fillBest heap ref (heap ref).remainingQuantity = .ok (heap.store ref { heap ref with
        remainingQuantity := 0, alive := false }, t, true) ∧
      SideOk (heap.store ref { heap ref with remainingQuantity := 0, alive := false })
        bound side t ∧
      t.liveRefs (heap.store ref { heap ref with remainingQuantity := 0, alive := false }) =
        (s.liveRefs heap).filter (· ≠ ref) := by
  obtain ⟨alive, level, found, queued⟩ := ok.mem_liveRefs.mp member
  obtain ⟨level', rest, found', queue⟩ := front
  obtain rfl : level = level' := Option.some.inj (found.symm.trans found')
  have level_ok := ok.levels_ok _ _ found
  set entry : Entry := { heap ref with remainingQuantity := 0, alive := false } with entry_eq
  -- Two writes to one entry leave the second one.
  have written : ((heap.store ref { heap ref with remainingQuantity := 0 }).store ref
      { heap.store ref { heap ref with remainingQuantity := 0 } ref with alive := false }) =
        heap.store ref entry := by
    rw [Heap.store_self]
    exact Function.update_idem ..
  -- The level is written twice: with its new quantity, and with the queue behind its front.
  let popped : Side := { s with
    levels := (s.levels.set (heap ref).order.price { level with
      quantity := level.quantity - (heap ref).remainingQuantity }).set (heap ref).order.price
      { level with queue := rest, quantity := level.quantity - (heap ref).remainingQuantity }
    totalQuantity := s.totalQuantity - (heap ref).remainingQuantity }
  have levels : ∀ other, popped.levels.get? other =
      if other = (heap ref).order.price then
        some { level with queue := rest, quantity := level.quantity - (heap ref).remainingQuantity }
      else s.levels.get? other := by
    intro other
    simp only [popped, Dict.get?_set]
    split <;> rfl
  by_cases zero : level.quantity - (heap ref).remainingQuantity = 0
  · -- The filled order was the last one of its level.
    let t : Side := { popped with
      levels := popped.levels.erase (heap ref).order.price
      keys := s.keys.filter (· ≠ s.key (heap ref).order.price) }
    have erased : ∀ other, t.levels.get? other =
        if other = (heap ref).order.price then none else s.levels.get? other := by
      intro other
      simp only [t, Dict.get?_erase, levels]
      split <;> rfl
    have dropped := ok.dropLevel_listed found popped rfl rfl ((levels _).trans (if_pos rfl))
    refine ⟨t, ?_, level_dropped entry t ok found queued alive rfl rfl zero rfl rfl erased rfl⟩
    simp only [Side.fillBest, level_eq found, sub_self, ne_eq, not_true_eq_false, if_false, queue,
      written, zero, if_true, Bind.bind, Except.bind, Pure.pure, Except.pure, popped] at dropped ⊢
    rw [dropped]
    simp only [t, popped, zero, queue]
    rfl
  · -- Popping the killed front leaves a level without that one dead entry.
    have fresh : LevelOk (heap.store ref entry) bound side (heap ref).order.price { level with
        queue := rest, quantity := level.quantity - (heap ref).remainingQuantity } := by
      have base := killed entry level_ok queued alive rfl rfl rfl zero
      have clean := skipped_one base queue (by simp [entry_eq])
      simpa using clean
    refine ⟨popped, ?_, level_kept entry popped ok found rfl rfl fresh rfl (fun other differs _ => by
      simp [queue, differs]) rfl rfl levels rfl⟩
    simp only [Side.fillBest, level_eq found, sub_self, ne_eq, not_true_eq_false, if_false, queue,
      written, if_neg zero, Bind.bind, Except.bind, Pure.pure, Except.pure]
    simp only [popped, queue]

/-- What an entry has that is newer than all those of a side. -/
structure Newest (heap : Heap) (bound : Nat) (side : OrderSide) (ref : Nat) : Prop where
  newest : ∀ other ≤ bound, other < ref
  within : ref ≤ bound + 1
  low : 1 ≤ ref
  alive : (heap ref).alive
  sequence : (heap ref).sequence = ref
  sided : (heap ref).order.side = side
  positive : 1 ≤ (heap ref).remainingQuantity

/-- A level that is opened for the newest entry. -/
theorem Newest.opens (new : Newest heap bound side ref) :
    LevelOk heap (bound + 1) side (heap ref).order.price
      ⟨[ref], (heap ref).remainingQuantity, 0⟩ := by
  -- The queue is the new entry alone, which is alive.
  have single : liveQueue heap [ref] = [ref] := by simp [liveQueue, new.alive]
  refine ⟨by simp, ?_, ?_, ?_, ?_, new.positive, by simp [new.alive]⟩
  · simp [new.low, new.within, new.sequence]
  · simp [new.sided]
  · simp [new.positive]
  · simp [single, quantityOf]

/-- A level that the newest entry joins at the end of its queue. -/
theorem Newest.joins (new : Newest heap bound side ref) {level : Level}
    (ok : LevelOk heap bound side (heap ref).order.price level) :
    LevelOk heap (bound + 1) side (heap ref).order.price { level with
      queue := level.queue ++ [ref]
      quantity := level.quantity + (heap ref).remainingQuantity } := by
  have single : liveQueue heap [ref] = [ref] := by simp [liveQueue, new.alive]
  rw [liveQueue] at single
  refine ⟨?_, ?_, ?_, ?_, ?_, ?_, ?_⟩
  · simp only [List.pairwise_append, List.mem_singleton]
    -- The new entry has a higher number than all those in the queue.
    exact ⟨ok.ordered, by simp, fun other inside _ same =>
      same ▸ new.newest other (ok.located other inside).2.1⟩
  · simp only [List.mem_append, List.mem_singleton]
    rintro other (inside | rfl)
    · have located := ok.located other inside
      exact ⟨located.1, by omega, located.2.2⟩
    · exact ⟨new.low, new.within, new.sequence⟩
  · simp only [List.mem_append, List.mem_singleton]
    rintro other (inside | rfl)
    · exact ok.priced other inside
    · exact ⟨rfl, new.sided⟩
  · simp only [List.mem_append, List.mem_singleton]
    rintro other (inside | rfl) other_alive
    · exact ok.positive other inside other_alive
    · exact new.positive
  · -- The level gains what the new entry holds.
    simp only [liveQueue, List.filter_append, single, quantityOf, List.map_append,
      List.sum_append, ok.quantity_eq]
    simp
  · have quantity := ok.quantity_pos
    have positive := new.positive
    show 1 ≤ level.quantity + (heap ref).remainingQuantity
    omega
  · simp [ok.dead_eq, new.alive]

/-- Adding the newest entry changes the level of its price alone, which gets it as its last. -/
theorem add_levels (ok : SideOk heap bound side s) (new : Newest heap bound side ref) :
    SideOk heap (bound + 1) side (s.add heap ref) ∧
      ∃ level', (∀ other, other ∈ level'.queue ↔ other = ref ∨
          ∃ level, s.levels.get? (heap ref).order.price = some level ∧ other ∈ level.queue) ∧
        ∀ price, (s.add heap ref).levels.get? price =
          if price = (heap ref).order.price then some level' else s.levels.get? price := by
  have grown : SideOk heap (bound + 1) side s := ok.frame (Nat.le_succ bound) fun _ _ _ => rfl
  have away : AwayFrom heap heap (bound + 1) side (heap ref).order.price := fun _ _ _ _ => rfl
  cases found : s.levels.get? (heap ref).order.price with
  -- The price has no level yet, and a new one is opened for the entry.
  | none =>
    have levels : ∀ price, (s.add heap ref).levels.get? price =
        if price = (heap ref).order.price then some ⟨[ref], (heap ref).remainingQuantity, 0⟩
        else s.levels.get? price := by
      intro price
      simp only [Side.add, Side.openLevel, found, Dict.get?_set, Level.empty]
      split <;> simp
    refine ⟨grown.opened away found new.opens ?_ ?_ levels ?_, _, fun other => by simp, levels⟩
    · simp [Side.add, Side.openLevel, found]
    · simp [Side.add, Side.openLevel, found, Side.key, ok.side_eq]
    · simp [Side.add, Side.openLevel, found]
  -- The entry joins the level of its price.
  | some level =>
    have levels : ∀ price, (s.add heap ref).levels.get? price =
        if price = (heap ref).order.price then some { level with
          queue := level.queue ++ [ref]
          quantity := level.quantity + (heap ref).remainingQuantity }
        else s.levels.get? price := by
      intro price
      simp only [Side.add, Side.openLevel, found, Dict.get?_set]
    refine ⟨grown.put away found (new.joins (ok.levels_ok _ _ found)) ?_ ?_ levels ?_, _,
      fun other => by simp [or_comm], levels⟩
    · simp [Side.add, Side.openLevel, found]
    · simp [Side.add, Side.openLevel, found]
    · simp only [Side.add, Side.openLevel, found]
      omega

/-- Adding the newest entry puts it into a queue, and every other live entry stays where it was. -/
theorem add_queues (ok : SideOk heap bound side s) (new : Newest heap bound side ref) {other : Nat}
    (alive : (heap other).alive) : other ∈ (s.add heap ref).liveRefs heap ↔
      other = ref ∨ other ∈ s.liveRefs heap := by
  obtain ⟨t_ok, level', queued, levels⟩ := ok.add_levels new
  rw [t_ok.mem_liveRefs, ok.mem_liveRefs, levels]
  -- Only the level of the new entry's price has changed.
  by_cases priced : (heap other).order.price = (heap ref).order.price
  · simp [alive, priced, queued]
  · have differs : other ≠ ref := fun same => priced (same ▸ rfl)
    simp [priced, differs]

/-- Adding the newest live entry files it behind the orders at its price or a better one. -/
theorem add_spec (ok : SideOk heap bound side s) (newest : ∀ other ≤ bound, other < ref)
    (within : ref ≤ bound + 1) (low : 1 ≤ ref) (alive : (heap ref).alive)
    (sequence : (heap ref).sequence = ref) (sided : (heap ref).order.side = side)
    (positive : 1 ≤ (heap ref).remainingQuantity) :
    SideOk heap (bound + 1) side (s.add heap ref) ∧
      (s.add heap ref).liveRefs heap = insertAfter
        (fun other => side.key (heap other).order.price ≤ side.key (heap ref).order.price) ref
        (s.liveRefs heap) := by
  have new : Newest heap bound side ref :=
    ⟨newest, within, low, alive, sequence, sided, positive⟩
  have t_ok := (ok.add_levels new).1
  refine ⟨t_ok, t_ok.liveRefs_eq ?_ fun other => ?_⟩
  · refine pairwise_insertAfter (fun _ _ _ => Before.trans) ok.liveRefs_sorted ?_ ?_
    · -- Entries at the price or a better one stay in front.
      intro other inside stays
      have key_le : side.key (heap other).order.price ≤ side.key (heap ref).order.price := by
        simpa using stays
      rcases lt_or_eq_of_le key_le with less | same
      · exact .inl less
      · exact .inr ⟨by simpa using same, newest other (ok.liveRefs_spec inside).2.1⟩
    · -- Entries at a worse price come behind.
      intro other _ leaves
      exact .inl (by simpa using leaves)
  · rw [mem_insertAfter, ← t_ok.mem_liveRefs]
    constructor
    · rintro (rfl | listed)
      · exact (ok.add_queues new alive).mpr (.inl rfl)
      · exact (ok.add_queues new (ok.mem_liveRefs.mp listed).1).mpr (.inr listed)
    · -- What is live afterwards is the new entry or was live before.
      exact fun listed => (ok.add_queues new (t_ok.mem_liveRefs.mp listed).1).mp listed

end Kill

end SideOk

end StockMarket
