import Mathlib.Data.List.Nodup
import Mathlib.Data.List.Basic
import Mathlib.Algebra.BigOperators.Group.List.Basic
import Mathlib.Algebra.GroupWithZero.Nat

/-! Insertion-ordered dictionaries with one value for each key. -/

namespace StockMarket

/-- A dictionary lists its items in insertion order, each key once. -/
structure Dict (κ ν : Type) where
  items : List (κ × ν)
  nodup : (items.map Prod.fst).Nodup

namespace Dict

variable {κ ν : Type} [DecidableEq κ]

/-- The dictionary without items. -/
def empty : Dict κ ν := ⟨[], List.nodup_nil⟩

/-- The keys in insertion order. -/
def keys (dict : Dict κ ν) : List κ := dict.items.map Prod.fst

/-- The value stored under a key, when there is one. -/
def get? (dict : Dict κ ν) (key : κ) : Option ν :=
  (dict.items.find? fun item => item.1 = key).map Prod.snd

/-- Replacing a present key keeps its place, and a new key goes to the end. -/
def setItems (items : List (κ × ν)) (key : κ) (value : ν) : List (κ × ν) :=
  if key ∈ items.map Prod.fst then
    items.map fun item => if item.1 = key then (key, value) else item
  else items ++ [(key, value)]

/-- A key keeps its place, and a new one comes last. -/
private theorem setItems_keys (items : List (κ × ν)) (key : κ) (value : ν) :
    (setItems items key value).map Prod.fst =
      if key ∈ items.map Prod.fst then items.map Prod.fst else items.map Prod.fst ++ [key] := by
  -- Replacement rewrites only the stored value, so every key stays where it was.
  unfold setItems
  split
  · rw [List.map_map]
    apply List.map_congr_left
    intro item _
    simp only [Function.comp_apply]
    split
    · rename_i same; exact same.symm
    · rfl
  · simp

/-- Store a value under a key. -/
def set (dict : Dict κ ν) (key : κ) (value : ν) : Dict κ ν where
  items := setItems dict.items key value
  nodup := by
    rw [setItems_keys]
    split
    · exact dict.nodup
    · rename_i absent
      exact List.nodup_append.mpr ⟨dict.nodup, List.nodup_singleton key, by
        intro left member right single same
        rw [List.mem_singleton] at single
        exact absent (single ▸ same ▸ member)⟩

/-- Drop a key together with its value. -/
def erase (dict : Dict κ ν) (key : κ) : Dict κ ν where
  items := dict.items.filter fun item => item.1 ≠ key
  nodup := dict.nodup.sublist (List.filter_sublist.map Prod.fst)

/-- Looking a key up finds exactly the item stored under it. -/
theorem get?_eq_some_iff {dict : Dict κ ν} {key : κ} {value : ν} :
    dict.get? key = some value ↔ (key, value) ∈ dict.items := by
  -- Keys are distinct, so the first item with the key is the only one.
  obtain ⟨items, nodup⟩ := dict
  simp only [get?]
  induction items with
  | nil => simp
  | cons item rest ih =>
    obtain ⟨stored, held⟩ := item
    simp only [List.map_cons, List.nodup_cons] at nodup
    by_cases same : stored = key
    · subst same
      have absent : (stored, value) ∉ rest := fun member =>
        nodup.1 (List.mem_map.mpr ⟨_, member, rfl⟩)
      simp [absent, eq_comm]
    · simp only [List.find?_cons, same, decide_false, List.mem_cons, Prod.mk.injEq]
      rw [ih nodup.2]
      simp [Ne.symm same]

/-- A key is listed exactly when looking it up succeeds. -/
theorem mem_keys_iff {dict : Dict κ ν} {key : κ} :
    key ∈ dict.keys ↔ ∃ value, dict.get? key = some value := by
  simp [keys, get?_eq_some_iff]

/-- A test holds of all items exactly when it holds of every key that is found and its value. -/
theorem items_all_iff {dict : Dict κ ν} {test : κ × ν → Bool} :
    dict.items.all test = true ↔
      ∀ key value, dict.get? key = some value → test (key, value) = true := by
  -- A key is found with a value exactly if the pair is one of the items.
  rw [List.all_eq_true]
  constructor
  · intro every key value found
    exact every (key, value) (get?_eq_some_iff.mp found)
  · rintro every ⟨key, value⟩ member
    exact every key value (get?_eq_some_iff.mpr member)

/-- The empty dictionary has no value for any key. -/
@[simp] theorem get?_empty (key : κ) : (empty : Dict κ ν).get? key = none := rfl

omit [DecidableEq κ] in
/-- The empty dictionary lists no key. -/
@[simp] theorem keys_empty : (empty : Dict κ ν).keys = [] := rfl

/-- A stored value is read back under its key and leaves every other key alone. -/
@[simp, grind =] theorem get?_set (dict : Dict κ ν) (key other : κ) (value : ν) :
    (dict.set key value).get? other = if other = key then some value else dict.get? other := by
  -- Both sides are decided by which items hold the requested key.
  apply Option.ext
  intro found
  rw [get?_eq_some_iff]
  simp only [set, setItems]
  split
  · -- The key is there already, so its item is written over.
    rename_i present
    simp only [List.mem_map]
    split
    · rename_i same
      subst same
      obtain ⟨item, member, named⟩ := List.mem_map.mp present
      constructor
      · rintro ⟨held, _, rewritten⟩
        split at rewritten
        · simpa using (congrArg Prod.snd rewritten)
        · rename_i differs; exact absurd (congrArg Prod.fst rewritten) differs
      · intro same
        exact ⟨item, member, by simpa [named] using same⟩
    · rename_i differs
      rw [get?_eq_some_iff]
      constructor
      · rintro ⟨held, member, rewritten⟩
        split at rewritten
        · exact absurd (congrArg Prod.fst rewritten).symm differs
        · exact rewritten ▸ member
      · intro member
        exact ⟨_, member, by simp [differs]⟩
  · -- A new key comes last, and was not listed before.
    rename_i absent
    simp only [List.mem_append, List.mem_singleton, Prod.mk.injEq]
    split
    · rename_i same
      subst same
      have unlisted : (other, found) ∉ dict.items := fun member =>
        absent (List.mem_map.mpr ⟨_, member, rfl⟩)
      simp [unlisted, eq_comm]
    · rename_i differs
      rw [get?_eq_some_iff]
      simp [differs]

/-- A dropped key has no value, and every other key keeps its own. -/
@[simp, grind =] theorem get?_erase (dict : Dict κ ν) (key other : κ) :
    (dict.erase key).get? other = if other = key then none else dict.get? other := by
  -- An item is left when its key is another one.
  apply Option.ext
  intro found
  rw [get?_eq_some_iff]
  simp only [erase, List.mem_filter, decide_eq_true_eq]
  split
  · rename_i same; simp [same]
  · rename_i differs; simp [differs, get?_eq_some_iff]

/-- Keep the items whose keys pass a test. -/
def filter (dict : Dict κ ν) (test : κ → Bool) : Dict κ ν where
  items := dict.items.filter fun item => test item.1
  nodup := dict.nodup.sublist (List.filter_sublist.map Prod.fst)

/-- A key that passes the test keeps its value, and any other key has none. -/
@[simp, grind =] theorem get?_filter (dict : Dict κ ν) (test : κ → Bool) (key : κ) :
    (dict.filter test).get? key = if test key = true then dict.get? key else none := by
  -- An item is left when its key passes the test.
  apply Option.ext
  intro found
  rw [get?_eq_some_iff]
  simp only [filter, List.mem_filter]
  split
  · rename_i passes
    rw [get?_eq_some_iff, and_iff_left passes]
  · rename_i fails
    simp [fails]

/-- The keys that are left are those that pass the test. -/
theorem mem_keys_filter {dict : Dict κ ν} {test : κ → Bool} {key : κ} :
    key ∈ (dict.filter test).keys ↔ key ∈ dict.keys ∧ test key = true := by
  -- A key is left with its value, or gone with it.
  simp only [mem_keys_iff, get?_filter]
  split
  · rename_i passes
    exact (and_iff_left passes).symm
  · rename_i fails
    exact iff_of_false (fun found => by obtain ⟨_, found⟩ := found; cases found)
      fun both => fails both.2

/-- Storing a value adds its key at the end unless it was already listed. -/
theorem keys_set (dict : Dict κ ν) (key : κ) (value : ν) :
    (dict.set key value).keys = if key ∈ dict.keys then dict.keys else dict.keys ++ [key] :=
  setItems_keys dict.items key value

/-- A new key is stored behind the others. -/
theorem items_set_new {dict : Dict κ ν} {key : κ} (absent : key ∉ dict.items.map Prod.fst)
    (value : ν) : (dict.set key value).items = dict.items ++ [(key, value)] := if_neg absent

/-- Storing again under the last key replaces the last value. -/
theorem items_set_last {dict : Dict κ ν} {key : κ} {before : List (κ × ν)} {old : ν}
    (last : dict.items = before ++ [(key, old)]) (value : ν) :
    (dict.set key value).items = before ++ [(key, value)] := by
  -- The keys are distinct, so no earlier item is replaced.
  have nodup := dict.nodup
  rw [last, List.map_append, List.nodup_append'] at nodup
  have kept : before.map (fun item => if item.1 = key then (key, value) else item) = before := by
    refine (List.map_congr_left fun item member => ?_).trans (List.map_id before)
    exact if_neg fun same => nodup.2.2 (List.mem_map_of_mem member) (by simp [same])
  show setItems dict.items key value = _
  rw [setItems, if_pos (by simp [last]), last, List.map_append, kept]
  simp

/-- Store several values one after the other. -/
def setAll (dict : Dict κ ν) (entries : List (κ × ν)) : Dict κ ν :=
  entries.foldl (fun dict entry => dict.set entry.1 entry.2) dict

/-- A key that is not stored keeps what it had. -/
theorem get?_setAll_of_notMem {entries : List (κ × ν)} {key : κ}
    (absent : key ∉ entries.map Prod.fst) (dict : Dict κ ν) :
    (dict.setAll entries).get? key = dict.get? key := by
  -- Every entry that is set is one of another key.
  induction entries generalizing dict with
  | nil => rfl
  | cons entry later ih =>
    rw [List.map_cons, List.mem_cons, not_or] at absent
    rw [setAll, List.foldl_cons, ← setAll, ih absent.2, get?_set, if_neg absent.1]

/-- Keys that are stored once each have the values they are stored with. -/
theorem get?_setAll_of_mem {entries : List (κ × ν)} (distinct : (entries.map Prod.fst).Nodup)
    {entry : κ × ν} (member : entry ∈ entries) (dict : Dict κ ν) :
    (dict.setAll entries).get? entry.1 = some entry.2 := by
  -- No later entry has the key, so that its value stays.
  induction entries generalizing dict with
  | nil => cases member
  | cons first later ih =>
    obtain ⟨absent, distinct⟩ := List.nodup_cons.mp distinct
    rw [setAll, List.foldl_cons, ← setAll]
    rcases List.mem_cons.mp member with rfl | member
    · rw [get?_setAll_of_notMem absent, get?_set, if_pos rfl]
    · exact ih distinct member _

omit [DecidableEq κ] in
/-- The listing names each key once. -/
theorem keys_nodup (dict : Dict κ ν) : dict.keys.Nodup := dict.nodup

/-- Change the value of a key, when it has one. -/
def modify (dict : Dict κ ν) (key : κ) (change : ν → ν) : Dict κ ν :=
  match dict.get? key with
  | none => dict
  | some value => dict.set key (change value)

/-- A change concerns its own key alone. -/
@[simp, grind =] theorem get?_modify (dict : Dict κ ν) (key other : κ) (change : ν → ν) :
    (dict.modify key change).get? other =
      if other = key then (dict.get? other).map change else dict.get? other := by
  -- A key that is missing stays missing, and one that is there has its value changed.
  unfold modify
  split
  · rename_i absent
    split
    · rename_i same
      rw [same, absent]
      rfl
    · rfl
  · rename_i value found
    rw [get?_set]
    split
    · rename_i same
      rw [same, found]
      rfl
    · rfl

/-- A change keeps the keys. -/
@[simp] theorem keys_modify (dict : Dict κ ν) (key : κ) (change : ν → ν) :
    (dict.modify key change).keys = dict.keys := by
  -- A key without a value is not added.
  unfold modify
  split
  · rfl
  · rename_i value found
    rw [keys_set, if_pos (mem_keys_iff.mpr ⟨value, found⟩)]

section Total

/-- What the items of a dictionary weigh together. -/
def total (dict : Dict κ ν) (weight : κ → ν → Nat) : Nat :=
  (dict.items.map fun item => weight item.1 item.2).sum

variable {dict : Dict κ ν} {key : κ} {weight weight' : κ → ν → Nat}

omit [DecidableEq κ] in
/-- The empty dictionary weighs nothing. -/
@[simp] theorem total_empty (weight : κ → ν → Nat) : (empty : Dict κ ν).total weight = 0 := rfl

omit [DecidableEq κ] in
/-- Two weights that agree on every item give the same total. -/
theorem total_congr (same : ∀ item ∈ dict.items, weight item.1 item.2 = weight' item.1 item.2) :
    dict.total weight = dict.total weight' :=
  congrArg List.sum (List.map_congr_left same)

omit [DecidableEq κ] in
/-- A weight that is nowhere greater gives no greater total. -/
theorem total_mono (less : ∀ item ∈ dict.items, weight item.1 item.2 ≤ weight' item.1 item.2) :
    dict.total weight ≤ dict.total weight' := by
  -- The items are compared one by one.
  unfold total
  generalize dict.items = items at less
  induction items with
  | nil => exact Nat.le_refl 0
  | cons item rest ih =>
    rw [List.map_cons, List.map_cons, List.sum_cons, List.sum_cons]
    exact Nat.add_le_add (less item List.mem_cons_self)
      (ih fun other member => less other (List.mem_cons_of_mem _ member))

omit [DecidableEq κ] in
/-- Items without weight give no total. -/
theorem total_eq_zero (weightless : ∀ item ∈ dict.items, weight item.1 item.2 = 0) :
    dict.total weight = 0 := by
  refine List.sum_eq_zero fun value member => ?_
  obtain ⟨item, inside, rfl⟩ := List.mem_map.mp member
  exact weightless item inside

/-- A total is the weight of one item and that of all others. -/
theorem total_eq {value : ν} (found : dict.get? key = some value) (weight : κ → ν → Nat) :
    dict.total weight = weight key value + (dict.erase key).total weight := by
  -- The first item is either the one or among the others.
  rw [get?_eq_some_iff] at found
  obtain ⟨items, nodup⟩ := dict
  show (items.map fun item => weight item.1 item.2).sum =
    weight key value + ((items.filter fun item => item.1 ≠ key).map fun item =>
      weight item.1 item.2).sum
  induction items with
  | nil => cases found
  | cons item rest ih =>
    rw [List.map_cons, List.nodup_cons] at nodup
    rcases List.mem_cons.mp found with rfl | later
    · have others : rest.filter (fun item => item.1 ≠ key) = rest := by
        refine List.filter_eq_self.mpr fun item member => ?_
        -- The first item has another key, and it stays.
        have differs : item.1 ≠ key := fun same =>
          nodup.1 (List.mem_map.mpr ⟨item, member, same⟩)
        simpa only [ne_eq, decide_eq_true_eq] using differs
      rw [List.map_cons, List.sum_cons, List.filter_cons_of_neg (by simp), others]
    · have differs : item.1 ≠ key := fun same =>
        nodup.1 (same ▸ List.mem_map_of_mem (f := Prod.fst) later)
      simp only [ne_eq, differs, not_false_eq_true, decide_true, List.filter_cons_of_pos,
        List.map_cons, List.sum_cons, ih nodup.2 later]
      omega

/-- Each item weighs at most the total. -/
theorem weight_le_total {value : ν} (found : dict.get? key = some value)
    (weight : κ → ν → Nat) : weight key value ≤ dict.total weight := by
  rw [total_eq found]
  exact Nat.le_add_right _ _

/-- Storing under a key and dropping the key again leaves what dropping it leaves. -/
theorem total_erase_set (value : ν) (weight : κ → ν → Nat) :
    ((dict.set key value).erase key).total weight = (dict.erase key).total weight := by
  -- The item that was set is the one that is erased.
  have kept : ((dict.set key value).erase key).items = (dict.erase key).items := by
    simp only [erase, set, setItems]
    split
    · clear * -
      induction dict.items with
      | nil => rfl
      | cons item rest ih =>
        rw [List.map_cons]
        -- Only the item of the key is rewritten, and that one is dropped.
        by_cases same : item.1 = key
        · rw [if_pos same, List.filter_cons_of_neg (by simp),
            List.filter_cons_of_neg (by simp [same]), ih]
        · rw [if_neg same, List.filter_cons_of_pos (by simp [same]),
            List.filter_cons_of_pos (by simp [same]), ih]
    · simp
  rw [total, kept]
  rfl

/-- A dropped key without a value changes nothing. -/
theorem total_erase_absent (absent : dict.get? key = none) (weight : κ → ν → Nat) :
    (dict.erase key).total weight = dict.total weight := by
  -- No item has the key.
  have kept : (dict.erase key).items = dict.items := by
    refine List.filter_eq_self.mpr fun item member => ?_
    have differs : item.1 ≠ key := by
      intro same
      have found := get?_eq_some_iff.mpr (same ▸ member : (key, item.2) ∈ dict.items)
      rw [absent] at found
      cases found
    simpa only [ne_eq, decide_eq_true_eq] using differs
  rw [total, kept]
  rfl

/-- Weights that agree on every other key agree on what is left without the key. -/
theorem total_erase_congr
    (same : ∀ other value, other ≠ key → weight other value = weight' other value) :
    (dict.erase key).total weight = (dict.erase key).total weight' := by
  refine total_congr fun item member => same _ _ ?_
  simpa only [ne_eq, decide_eq_true_eq] using (List.mem_filter.mp member).2

/-- A value that replaces another one counts in its place. -/
theorem total_set {old : ν} (found : dict.get? key = some old) (value : ν)
    (same : ∀ other value, other ≠ key → weight other value = weight' other value) :
    (dict.set key value).total weight' + weight key old =
      dict.total weight + weight' key value := by
  have now : (dict.set key value).get? key = some value := by rw [get?_set, if_pos rfl]
  rw [total_eq now, total_eq found, total_erase_set, total_erase_congr same]
  omega

/-- A value that replaces another one under the same weight. -/
theorem total_replace {old : ν} (found : dict.get? key = some old) (value : ν)
    (weight : κ → ν → Nat) :
    (dict.set key value).total weight + weight key old = dict.total weight + weight key value :=
  total_set found value fun _ _ _ => rfl

/-- A value under a new key counts as well. -/
theorem total_set_new (absent : dict.get? key = none) (value : ν) :
    (dict.set key value).total weight = dict.total weight + weight key value := by
  have now : (dict.set key value).get? key = some value := by rw [get?_set, if_pos rfl]
  rw [total_eq now, total_erase_set, total_erase_absent absent]
  omega

omit [DecidableEq κ] in
/-- A dictionary has as many items as it weighs when each of them weighs one. -/
theorem items_length (dict : Dict κ ν) : dict.items.length = dict.total fun _ _ => 1 := by
  simp [total]

/-- Totals agree when every key weighs the same in both dictionaries. -/
theorem total_eq_total {ν' : Type} {other : Dict κ ν'} {weight' : κ → ν' → Nat}
    (same : ∀ key, ((dict.get? key).map (weight key)).getD 0 =
      ((other.get? key).map (weight' key)).getD 0) :
    dict.total weight = other.total weight' := by
  -- One key after the other is dropped from both.
  induction size : dict.items.length generalizing dict other with
  | zero =>
    have none_left : dict.items = [] := List.length_eq_zero_iff.mp size
    have nothing : dict.total weight = 0 := by rw [total, none_left]; rfl
    rw [nothing, total_eq_zero]
    intro item member
    have found := same item.1
    rw [get?_eq_some_iff.mpr member, get?, none_left] at found
    exact found.symm
  | succ count ih =>
    obtain ⟨⟨key, value⟩, rest, listed⟩ := List.exists_cons_of_length_eq_add_one size
    have found : dict.get? key = some value :=
      get?_eq_some_iff.mpr (listed ▸ List.mem_cons_self)
    have smaller : (dict.erase key).items.length = count := by
      have sized := total_eq found fun _ _ => 1
      rw [← items_length, ← items_length, size] at sized
      omega
    -- Without the first key both are still alike.
    have others : (dict.erase key).total weight = (other.erase key).total weight' := by
      refine ih (fun kept => ?_) smaller
      rw [get?_erase, get?_erase]
      split_ifs
      · rfl
      · exact same kept
    have here := same key
    rw [found] at here
    rw [total_eq found, others]
    -- The key weighs as much in the other one, or nothing in both.
    cases present : other.get? key with
    | none =>
      rw [present] at here
      rw [total_erase_absent present, show weight key value = 0 from here, Nat.zero_add]
    | some value' =>
      rw [present] at here
      rw [total_eq present, show weight key value = weight' key value' from here]

end Total

end Dict

/-- In a table of distinct values, a value is found under one key only. -/
theorem lookup_injective {κ ν : Type} [BEq κ] [LawfulBEq κ] {table : List (κ × ν)}
    (distinct : (table.map Prod.snd).Nodup) {key other : κ} {value : ν}
    (found : table.lookup key = some value) (found' : table.lookup other = some value) :
    key = other := by
  -- Both pairs are in the table, and they have the same value.
  obtain ⟨before, after, split, _⟩ := List.lookup_eq_some_iff.mp found
  obtain ⟨before', after', split', _⟩ := List.lookup_eq_some_iff.mp found'
  have inside : (key, value) ∈ table := by simp [split]
  have inside' : (other, value) ∈ table := by simp [split']
  exact congrArg Prod.fst (List.inj_on_of_nodup_map distinct inside inside' rfl)

end StockMarket
