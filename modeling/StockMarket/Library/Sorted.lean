import Mathlib.Order.Defs.LinearOrder
import Mathlib.Data.List.Nodup
import Mathlib.Data.List.Sort
import Mathlib.Algebra.BigOperators.Group.List.Basic
import Mathlib.Algebra.Order.Ring.Int

/-! Bisection, insertion into ordered lists, and lists determined by their order. -/

namespace StockMarket

/-- Insert an element after the leading run of elements it has to stay behind. -/
def insertAfter {α : Type} (stays : α → Bool) (new : α) (list : List α) : List α :=
  list.takeWhile stays ++ new :: list.dropWhile stays

/-- Insertion adds exactly the new element. -/
theorem mem_insertAfter {α : Type} {stays : α → Bool} {new other : α} {list : List α} :
    other ∈ insertAfter stays new list ↔ other = new ∨ other ∈ list := by
  -- The two runs around the new element make up the original list.
  have split := List.takeWhile_append_dropWhile (p := stays) (l := list)
  conv_rhs => rw [← split]
  simp only [insertAfter, List.mem_append, List.mem_cons]
  tauto

/-- Insertion is a permutation of putting the new element in front. -/
theorem insertAfter_perm {α : Type} (stays : α → Bool) (new : α) (list : List α) :
    (insertAfter stays new list).Perm (new :: list) := by
  have split := List.takeWhile_append_dropWhile (p := stays) (l := list)
  conv_rhs => rw [← split]
  exact List.perm_middle

/-- Insertion keeps an order in which staying elements precede the new one and others follow. -/
theorem pairwise_insertAfter {α : Type} {before : α → α → Prop} {stays : α → Bool} {new : α}
    {list : List α} (trans : ∀ a b c, before a b → before b c → before a c)
    (ordered : list.Pairwise before) (left : ∀ a ∈ list, stays a → before a new)
    (right : ∀ a ∈ list, ¬ stays a → before new a) :
    (insertAfter stays new list).Pairwise before := by
  -- The first element that does not stay bounds everything behind it.
  induction list with
  | nil => simp [insertAfter]
  | cons head rest ih =>
    have tail := List.pairwise_cons.mp ordered
    by_cases stay : stays head = true
    · have inserted := ih tail.2 (fun a member => left a (by simp [member]))
        (fun a member => right a (by simp [member]))
      have expand : insertAfter stays new (head :: rest) = head :: insertAfter stays new rest := by
        simp [insertAfter, stay]
      rw [expand, List.pairwise_cons]
      refine ⟨?_, inserted⟩
      intro a member
      rcases mem_insertAfter.mp member with same | member
      · exact same ▸ left head (by simp) stay
      · exact tail.1 a member
    · have expand : insertAfter stays new (head :: rest) = new :: head :: rest := by
        simp [insertAfter, stay]
      -- The newcomer goes in front of everything that does not stay.
      have first := right head (by simp) stay
      rw [expand, List.pairwise_cons]
      refine ⟨?_, ordered⟩
      intro a member
      rcases List.mem_cons.mp member with same | member
      · exact same ▸ first
      · exact trans _ _ _ first (tail.1 a member)

/-- Insertion commutes with a map under which the same elements stay. -/
theorem map_insertAfter {α β : Type} (stays : α → Bool) (stays' : β → Bool) (f : α → β) (new : α)
    {list : List α} (same : ∀ a ∈ list, stays' (f a) = stays a) :
    (insertAfter stays new list).map f = insertAfter stays' (f new) (list.map f) := by
  -- The same elements stay in front, before and after the map.
  induction list with
  | nil => rfl
  | cons head rest ih =>
    have later := ih fun a member => same a (by simp [member])
    have here := same head (by simp)
    simp only [insertAfter, List.map_append, List.map_cons] at later ⊢
    by_cases stay : stays head = true <;> simp [stay, here, later]

/-- An element that fails a test which all others pass leaves no trace of its insertion. -/
theorem filter_insertAfter {α : Type} {stays test : α → Bool} {new : α} {list : List α}
    (fails : test new = false) (pass : ∀ a ∈ list, test a = true) :
    (insertAfter stays new list).filter test = list := by
  have whole : list.filter test = list := List.filter_eq_self.mpr pass
  rw [insertAfter, List.filter_append, List.filter_cons, fails]
  rw [if_neg Bool.false_ne_true, ← List.filter_append, List.takeWhile_append_dropWhile, whole]

/-- In an order along which a test can only turn false, its run is everything that passes it. -/
theorem takeWhile_eq_filter {α : Type} {before : α → α → Prop} {test : α → Bool} {list : List α}
    (ordered : list.Pairwise before) (falls : ∀ a b, before a b → test b → test a) :
    list.takeWhile test = list.filter test := by
  induction list with
  | nil => rfl
  | cons head rest ih =>
    have tail := List.pairwise_cons.mp ordered
    by_cases passes : test head = true
    · simp [passes, ih tail.2]
    · -- Nothing behind a failing element passes.
      have none_passes : rest.filter test = [] :=
        List.filter_eq_nil_iff.mpr fun a member accepted =>
          passes (falls head a (tail.1 a member) accepted)
      simp [passes, none_passes]

/-- In such an order, what comes behind the run is everything that does not pass the test. -/
theorem dropWhile_eq_filter {α : Type} {before : α → α → Prop} {test : α → Bool} {list : List α}
    (ordered : list.Pairwise before) (falls : ∀ a b, before a b → test b → test a) :
    list.dropWhile test = list.filter fun a => ¬ test a := by
  induction list with
  | nil => rfl
  | cons head rest ih =>
    have tail := List.pairwise_cons.mp ordered
    by_cases passes : test head = true
    · simpa [passes] using ih tail.2
    · -- Nothing behind a failing element passes.
      have all_fail : rest.filter (fun a => ¬ test a) = rest :=
        List.filter_eq_self.mpr fun a member =>
          decide_eq_true fun accepted => passes (falls head a (tail.1 a member) accepted)
      rw [List.dropWhile_cons_of_neg passes, List.filter_cons, all_fail]
      exact (if_pos (decide_eq_true passes)).symm

/-- An element of a list without duplicates is paired with one element of a list as long. -/
theorem zip_filter_mem {α β : Type} [DecidableEq α] {left : List α} {right : List β} {a : α}
    (distinct : left.Nodup) (lengths : right.length = left.length) (member : a ∈ left) :
    ∃ b, (left.zip right).filter (fun pair => pair.1 = a) = [(a, b)] := by
  -- The element stands at one place only, and is paired with what stands there.
  induction left generalizing right with
  | nil => exact absurd member List.not_mem_nil
  | cons head rest ih =>
    obtain ⟨absent, distinct⟩ := List.nodup_cons.mp distinct
    cases right with
    | nil => cases lengths
    | cons first others =>
      rw [List.zip_cons_cons]
      -- The head is the element, or the element is in the rest.
      by_cases same : head = a
      · subst same
        have none_left : (rest.zip others).filter (fun pair => pair.1 = head) = [] :=
          List.filter_eq_nil_iff.mpr fun pair inside paired =>
            absent (of_decide_eq_true paired ▸ (List.of_mem_zip inside).1)
        exact ⟨first, by rw [List.filter_cons_of_pos (by simp), none_left]⟩
      · rw [List.filter_cons_of_neg (by simp [same])]
        have later := (List.mem_cons.mp member).resolve_left (Ne.symm same)
        exact ih distinct (Nat.succ.inj lengths) later

section Keys

variable {κ : Type} [LinearOrder κ]

/-- The leftmost position at which a key can stand in ascending order. -/
def bisectLeft (keys : List κ) (key : κ) : Nat := (keys.takeWhile (· < key)).length

/-- Insert a key in ascending order, behind the keys equal to it. -/
def insort (keys : List κ) (key : κ) : List κ := insertAfter (· ≤ key) key keys

/-- Inserting a key adds exactly that key. -/
@[simp] theorem mem_insort {keys : List κ} {key other : κ} :
    other ∈ insort keys key ↔ other = key ∨ other ∈ keys := mem_insertAfter

/-- Inserting a new key into strictly ascending keys keeps them strictly ascending. -/
theorem insort_sorted {keys : List κ} {key : κ} (sorted : keys.Pairwise (· < ·))
    (absent : key ∉ keys) : (insort keys key).Pairwise (· < ·) := by
  -- What stays in front is smaller, and what follows is not.
  refine pairwise_insertAfter ?_ sorted ?_ ?_
  · intro a b c
    exact lt_trans
  · intro other member stay
    exact lt_of_le_of_ne (by simpa using stay) (fun same => absent (same ▸ member))
  · intro other _ leaves
    simpa using leaves

/-- Bisection finds the position of a present key. -/
theorem bisectLeft_lt_length {keys : List κ} {key : κ} (present : key ∈ keys) :
    bisectLeft keys key < keys.length := by
  -- The run of smaller keys stops at the key itself at the latest.
  induction keys with
  | nil => simp at present
  | cons head rest ih =>
    by_cases smaller : head < key
    · have tail : key ∈ rest := by
        rcases List.mem_cons.mp present with same | member
        · exact absurd (same ▸ smaller) (lt_irrefl _)
        · exact member
      simpa [bisectLeft, smaller] using ih tail
    · simp [bisectLeft, smaller]

/-- Deleting at the bisected position removes exactly the present key. -/
theorem eraseIdx_bisectLeft {keys : List κ} {key : κ} (sorted : keys.Pairwise (· < ·))
    (present : key ∈ keys) :
    keys.eraseIdx (bisectLeft keys key) = keys.filter (· ≠ key) := by
  induction keys with
  | nil => simp at present
  | cons head rest ih =>
    have tail := List.pairwise_cons.mp sorted
    rcases List.mem_cons.mp present with same | member
    · -- The key stands first, and every later key is larger and stays.
      subst same
      have kept : rest.filter (fun other => decide (other ≠ key)) = rest :=
        List.filter_eq_self.mpr fun other member => by
          simpa using (tail.1 other member).ne'
      simpa [bisectLeft] using kept.symm
    · -- The head is smaller than a key found behind it.
      have smaller := tail.1 key member
      have found := ih tail.2 member
      simp only [bisectLeft] at found
      simp [bisectLeft, smaller, smaller.ne, found]

end Keys

/-- Changing one summand of a sum over distinct indices changes the sum by the difference. -/
theorem sum_map_update {κ : Type} {indices : List κ} (before after : κ → Int) {changed : κ}
    (nodup : indices.Nodup) (present : changed ∈ indices)
    (same : ∀ index ∈ indices, index ≠ changed → after index = before index) :
    (indices.map after).sum = (indices.map before).sum - before changed + after changed := by
  induction indices with
  | nil => simp at present
  | cons index rest ih =>
    have tail := List.nodup_cons.mp nodup
    by_cases here : index = changed
    · -- The changed index does not occur again behind its own place.
      subst here
      have unchanged : rest.map after = rest.map before :=
        List.map_congr_left fun other member => same other (by simp [member])
          fun equal => tail.1 (equal ▸ member)
      simp only [List.map_cons, List.sum_cons, unchanged]
      omega
    · have member : changed ∈ rest := by
        rcases List.mem_cons.mp present with equal | member
        · exact absurd equal.symm here
        · exact member
      have sums := ih tail.2 member fun other inside => same other (by simp [inside])
      simp only [List.map_cons, List.sum_cons, sums, same index (by simp) here]
      omega

/-- Filtering one element out of a duplicate-free list erases it. -/
theorem filter_ne_eq_erase {κ : Type} [DecidableEq κ] {list : List κ} (nodup : list.Nodup)
    (dropped : κ) : list.filter (· ≠ dropped) = list.erase dropped := by
  rw [nodup.erase_eq_filter]
  apply List.filter_congr
  intro other _
  by_cases same : other = dropped <;> simp [same]

/-- Dropping one summand of a sum over distinct indices subtracts it. -/
theorem sum_map_drop {κ : Type} [DecidableEq κ] {indices : List κ} (weight : κ → Int) {dropped : κ}
    (nodup : indices.Nodup) (present : dropped ∈ indices) :
    ((indices.filter (· ≠ dropped)).map weight).sum = (indices.map weight).sum - weight dropped := by
  rw [filter_ne_eq_erase nodup]
  have sums := ((List.perm_cons_erase present).map weight).sum_eq
  simp only [List.map_cons, List.sum_cons] at sums
  omega

/-- Among elements with distinct labels, a sum over one label is the weight of one element. -/
theorem sum_map_label {α κ : Type} [DecidableEq κ] {list : List α} (label : α → κ)
    (weight : α → Int) (nodup : (list.map label).Nodup) {chosen : α} (present : chosen ∈ list) :
    (list.map fun a => if label a = label chosen then weight a else 0).sum = weight chosen := by
  induction list with
  | nil => cases present
  | cons head rest ih =>
    obtain ⟨absent, nodup⟩ := List.nodup_cons.mp nodup
    rw [List.map_cons, List.sum_cons]
    rcases List.mem_cons.mp present with rfl | member
    · -- No later element has the label again.
      have silent : (rest.map fun a => if label a = label chosen then weight a else 0).sum = 0 := by
        apply List.sum_eq_zero
        intro value inside
        obtain ⟨other, member, rfl⟩ := List.mem_map.mp inside
        apply if_neg
        intro same
        exact absent (same ▸ List.mem_map_of_mem member)
      rw [silent, if_pos rfl, add_zero]
    · have differs : label head ≠ label chosen := fun same =>
        absent (same ▸ List.mem_map_of_mem member)
      rw [if_neg differs, ih nodup member, zero_add]

/-- The elements whose keys are among the first ones are the first ones. -/
theorem filter_mem_take {α κ : Type} [DecidableEq κ] {key : α → κ} {list : List α}
    (distinct : (list.map key).Nodup) (count : Nat) :
    (list.filter fun element => key element ∈ (list.take count).map key) = list.take count := by
  -- The keys of the first elements do not come up again behind them.
  have parts := List.take_append_drop count list
  have apart : ((list.take count).map key ++ (list.drop count).map key).Nodup := by
    rw [← List.map_append, parts]
    exact distinct
  conv_lhs => rw [← parts]
  rw [List.filter_append, List.take_append_drop]
  -- All of the first elements are kept, and none of the later ones.
  have first : (list.take count).filter (fun element => key element ∈ (list.take count).map key) =
      list.take count := by
    rw [List.filter_eq_self]
    exact fun element member => decide_eq_true (List.mem_map_of_mem member)
  have rest : (list.drop count).filter (fun element => key element ∈ (list.take count).map key) =
      [] := by
    rw [List.filter_eq_nil_iff]
    intro element member found
    exact (List.nodup_append'.mp apart).2.2 (of_decide_eq_true found) (List.mem_map_of_mem member)
  rw [first, rest, List.append_nil]

/-- Sorting by a key keeps the order that elements with one key already have. -/
theorem insertionSort_stable {α κ : Type} [LinearOrder κ] {key : α → κ} {before : α → α → Prop}
    {list : List α} (trans : ∀ a b c, before a b → before b c → before a c)
    (ordered : list.Pairwise before) :
    (list.insertionSort fun a b => key a ≤ key b).Pairwise
      fun a b => key a < key b ∨ key a = key b ∧ before a b := by
  induction list with
  | nil => exact .nil
  | cons head rest ih =>
    obtain ⟨first, ordered⟩ := List.pairwise_cons.mp ordered
    rw [List.insertionSort_cons_eq_take_drop]
    -- The head goes behind the elements with a lower key, and it came before all others.
    refine pairwise_insertAfter ?_ (ih ordered) ?_ ?_
    · rintro a b c (less | ⟨same, one⟩) (later | ⟨equal, other⟩)
      · exact .inl (less.trans later)
      · exact .inl (equal ▸ less)
      · exact .inl (same ▸ later)
      · exact .inr ⟨same.trans equal, trans a b c one other⟩
    · exact fun a _ lower => .inl (not_le.mp (of_decide_eq_true lower))
    · intro a member higher
      have not_lower : key head ≤ key a := by simpa using higher
      rcases not_lower.lt_or_eq with less | same
      · exact .inl less
      · exact .inr ⟨same, first a ((List.perm_insertionSort _ _).subset member)⟩

/-- An element is among the first ones exactly when few elements come before it. -/
theorem mem_take_iff_countP {α : Type} {before : α → α → Prop} [DecidableRel before]
    {list : List α} (asymm : ∀ a b, before a b → ¬ before b a) (ordered : list.Pairwise before)
    {element : α} (member : element ∈ list) (count : Nat) :
    element ∈ list.take count ↔ (list.countP fun other => before other element) < count := by
  induction list generalizing count with
  | nil => cases member
  | cons head rest ih =>
    obtain ⟨first, ordered⟩ := List.pairwise_cons.mp ordered
    cases count with
    | zero => simp
    | succ count =>
      rw [List.take_succ_cons, List.mem_cons, List.countP_cons]
      rcases List.mem_cons.mp member with rfl | later
      · -- Nothing comes before the head.
        have irrefl : ¬ before element element := fun self => asymm _ _ self self
        have none_before : (rest.countP fun other => before other element) = 0 := by
          rw [List.countP_eq_zero]
          exact fun other inside found => asymm _ _ (first other inside) (of_decide_eq_true found)
        simp [irrefl, none_before]
      · -- The head comes before a later element, and takes one of the places.
        have head_before : before head element := first element later
        have differs : element ≠ head := by
          rintro rfl
          exact asymm _ _ head_before head_before
        rw [ih ordered later, if_pos (decide_eq_true head_before), or_iff_right differs]
        omega

end StockMarket
