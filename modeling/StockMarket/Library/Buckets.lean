import Mathlib.Order.WithBot
import StockMarket.Library.Sorted

/-! Buckets that count values by the first bound they do not exceed, and their running sums. -/

namespace StockMarket.Buckets

variable {α : Type} [LinearOrder α]

/-- Count a value under the first bound that it does not exceed, or behind all bounds. -/
def place (bounds : List α) (counts : List Nat) (value : α) : List Nat :=
  counts.modify (bisectLeft bounds value) (· + 1)

omit [LinearOrder α] in
/-- The running sums of the counts, each with its bound, and the sum of all. -/
def cumulate (before : Nat) : List (α × Nat) → List (α × Nat) × Nat
  | [] => ([], before)
  | (bound, count) :: later =>
    let (sums, total) := cumulate (before + count) later
    ((bound, before + count) :: sums, total)

/-- The counts that values belong to: each bound takes those that the bounds before it left. -/
def histogram : List α → List α → List Nat
  | [], values => [values.length]
  | bound :: later, values =>
    values.countP (· ≤ bound) :: histogram later (values.filter (bound < ·))

/-- There is a count for each bound, and one behind them. -/
@[simp] theorem length_histogram (bounds values : List α) :
    (histogram bounds values).length = bounds.length + 1 := by
  induction bounds generalizing values with
  | nil => rfl
  | cons bound later ih => simp [histogram, ih]

/-- No values are counted nowhere. -/
theorem histogram_nil (bounds : List α) :
    histogram bounds [] = List.replicate (bounds.length + 1) 0 := by
  induction bounds with
  | nil => rfl
  | cons bound later ih =>
    rw [histogram, List.filter_nil, ih, List.countP_nil, List.length_cons, ← List.replicate_succ]

/-- A placed value is counted like those before it. -/
theorem place_histogram (bounds values : List α) (value : α) :
    place bounds (histogram bounds values) value = histogram bounds (values ++ [value]) := by
  -- A value above the first bound is placed among the later ones, which see it as well.
  induction bounds generalizing values with
  | nil => simp [place, histogram, bisectLeft]
  | cons bound later ih =>
    have rest := ih (values.filter (bound < ·))
    by_cases above : bound < value
    · have kept : ¬ value ≤ bound := not_le.mpr above
      simp only [place] at rest
      simp only [place, histogram, bisectLeft, List.takeWhile_cons, above, decide_true, if_true,
        List.length_cons, List.modify_succ_cons, List.countP_append, List.filter_append,
        List.filter_singleton, List.countP_singleton, kept, decide_false]
      simpa [bisectLeft] using rest
    · have kept : value ≤ bound := not_lt.mp above
      simp [place, histogram, bisectLeft, above, kept]

/-- A value that equals a bound is counted under it. -/
example : [0, 1, 5, 20].foldl (place [1, 10]) [0, 0, 0] = [2, 1, 1] := by decide

/-- The values up to a bound are those up to a smaller one, and the others among the rest. -/
theorem countP_le_split {bound next : α} (less : bound < next) (values : List α) :
    values.countP (· ≤ bound) + (values.filter (bound < ·)).countP (· ≤ next) =
      values.countP (· ≤ next) := by
  -- A value up to the first bound is counted on the left, and any other one by the filter.
  induction values with
  | nil => rfl
  | cons value later ih =>
    by_cases low : value ≤ bound
    · have under : value ≤ next := low.trans less.le
      simp only [List.countP_cons, List.filter_cons, low, under, not_lt.mpr low, decide_true,
        decide_false, if_true, Bool.false_eq_true, if_false]
      omega
    · simp only [List.countP_cons, List.filter_cons, low, not_le.mp low, decide_true, decide_false,
        if_true, Bool.false_eq_true, if_false]
      omega

/-- The running sum at a bound is the number of values up to it, and all values are counted. -/
theorem cumulate_histogram {bounds : List α} (increasing : bounds.Pairwise (· < ·))
    (before : Nat) (values : List α) :
    (cumulate before (bounds.zip (histogram bounds values))).1 =
        bounds.map (fun bound => (bound, before + values.countP (· ≤ bound))) ∧
      (cumulate before (bounds.zip (histogram bounds values))).2 +
        (histogram bounds values).getLastD 0 = before + values.length := by
  -- The rest of the bounds sums up what the first one leaves, on top of what it has counted.
  induction bounds generalizing before values with
  | nil => exact ⟨rfl, rfl⟩
  | cons bound later ih =>
    obtain ⟨smaller, ordered⟩ := List.pairwise_cons.mp increasing
    obtain ⟨sums, total⟩ := ih ordered (before + values.countP (· ≤ bound))
      (values.filter (bound < ·))
    have some_count : histogram later (values.filter (bound < ·)) ≠ [] :=
      List.ne_nil_of_length_eq_add_one (length_histogram _ _)
    simp only [histogram, List.zip_cons_cons, cumulate, sums, List.map_cons]
    refine ⟨congrArg _ (List.map_congr_left fun next member => ?_), ?_⟩
    · rw [Nat.add_assoc, countP_le_split (smaller next member)]
    · -- The values are split at the first bound, and the rest is counted by the others.
      obtain ⟨count, counts, counted⟩ := List.exists_cons_of_ne_nil some_count
      have parted := List.length_eq_countP_add_countP (· ≤ bound) (l := values)
      simp only [not_le, decide_eq_true_eq] at parted
      rw [← List.countP_eq_length_filter] at total
      rw [counted] at total ⊢
      rw [List.getLastD_cons] at total ⊢
      rw [List.getLastD_cons]
      omega

end StockMarket.Buckets
