import Mathlib.Algebra.Order.BigOperators.Group.List
import Mathlib.Algebra.Order.Ring.Int

/-! Taking a quantity from the front of a queue of positive amounts. -/

namespace StockMarket

/-- The takings from each element, the quantity nobody could supply, and the queue afterwards. -/
structure Consumed (α : Type) where
  fills : List (α × Int)
  left : Int
  kept : List α

section Consume

variable {α : Type} (amount : α → Int) (reduce : α → Int → α)

/-- Take a quantity element by element, emptying each one before touching the next. -/
def consume : Int → List α → Consumed α
  | quantity, [] => ⟨[], quantity, []⟩
  | quantity, first :: rest =>
    if quantity = 0 then ⟨[], 0, first :: rest⟩
    else if quantity < amount first then ⟨[(first, quantity)], 0, reduce first quantity :: rest⟩
    else
      let later := consume (quantity - amount first) rest
      ⟨(first, amount first) :: later.fills, later.left, later.kept⟩

/-- The quantity taken altogether. -/
def takenBy (fills : List (α × Int)) : Int := (fills.map Prod.snd).sum

/-- Everything a queue can supply. -/
def supply (queue : List α) : Int := (queue.map amount).sum

/-- Positive amounts supply nothing negative. -/
theorem supply_nonneg {queue : List α} (positive : ∀ a ∈ queue, 1 ≤ amount a) :
    0 ≤ supply amount queue := by
  refine List.sum_nonneg fun value member => ?_
  obtain ⟨a, inside, rfl⟩ := List.mem_map.mp member
  have := positive a inside
  omega

/-- A quantity of zero takes nothing. -/
@[simp] theorem consume_zero (queue : List α) :
    consume amount reduce 0 queue = ⟨[], 0, queue⟩ := by
  cases queue <;> simp [consume]

variable {amount reduce} {quantity : Int} {queue : List α}

/-- A part of a queue with positive amounts supplies no more than all of it. -/
theorem supply_filter_le {queue : List α} (positive : ∀ a ∈ queue, 1 ≤ amount a)
    (test : α → Bool) : supply amount (queue.filter test) ≤ supply amount queue := by
  refine (List.filter_sublist.map amount).sum_le_sum fun value member => ?_
  obtain ⟨a, inside, rfl⟩ := List.mem_map.mp member
  exact (zero_le_one (α := Int)).trans (positive a inside)

/-- A part of a queue with positive amounts supplies as much only when nothing is left out. -/
theorem supply_filter_eq_iff {queue : List α} {test : α → Bool}
    (positive : ∀ a ∈ queue, 1 ≤ amount a) :
    supply amount (queue.filter test) = supply amount queue ↔ ∀ a ∈ queue, test a = true := by
  -- The first element that is left out makes the supply smaller for good.
  induction queue with
  | nil => simp
  | cons first rest ih =>
    have positive' : ∀ a ∈ rest, 1 ≤ amount a :=
      fun a member => positive a (List.mem_cons_of_mem _ member)
    have fewer := supply_filter_le positive' test
    have some_first := positive first List.mem_cons_self
    rw [List.forall_mem_cons, ← ih positive']
    cases passes : test first with
    | true =>
      rw [List.filter_cons_of_pos passes]
      simp [supply]
    -- The element has some supply, which is missing then.
    | false =>
      rw [List.filter_cons_of_neg (by simp [passes])]
      simp only [supply, List.map_cons, List.sum_cons] at fewer ⊢
      simp only [Bool.false_eq_true, false_and, iff_false]
      omega

/-- What is taken and what is left over make up the requested quantity. -/
theorem consume_balance :
    takenBy (consume amount reduce quantity queue).fills +
      (consume amount reduce quantity queue).left = quantity := by
  -- The first element is not needed, taken in part, or taken in full before the rest.
  induction queue generalizing quantity with
  | nil => simp [consume, takenBy]
  | cons first rest ih =>
    simp only [consume]
    split
    · rename_i zero; simp [takenBy, zero]
    · split
      · simp [takenBy]
      · have balance := @ih (quantity - amount first)
        simp only [takenBy, List.map_cons, List.sum_cons] at balance ⊢
        omega

/-- Nothing more than the request is taken, and only an exhausted queue leaves a rest. -/
theorem consume_left (nonneg : 0 ≤ quantity) :
    0 ≤ (consume amount reduce quantity queue).left ∧
      ((consume amount reduce quantity queue).left ≠ 0 →
        (consume amount reduce quantity queue).kept = [] ∧
          (consume amount reduce quantity queue).fills = queue.map fun a => (a, amount a)) := by
  -- Something is left over only where every element was taken in full.
  induction queue generalizing quantity with
  | nil => simp [consume, nonneg]
  | cons first rest ih =>
    simp only [consume]
    split
    · simp
    · split
      · simp
      · obtain ⟨low, exhausted⟩ := @ih (quantity - amount first) (by omega)
        refine ⟨low, fun rest_left => ?_⟩
        obtain ⟨kept, fills⟩ := exhausted rest_left
        exact ⟨kept, by simp [fills]⟩

/-- The quantity taken is the smaller of the request and the supply. -/
theorem consume_taken (nonneg : 0 ≤ quantity) (positive : ∀ a ∈ queue, 1 ≤ amount a) :
    takenBy (consume amount reduce quantity queue).fills = min quantity (supply amount queue) := by
  -- As much is taken as there is, up to what is wanted.
  induction queue generalizing quantity with
  | nil => simp [consume, takenBy, supply, nonneg]
  | cons first rest ih =>
    have others : ∀ a ∈ rest, 1 ≤ amount a := fun a member => positive a (by simp [member])
    have bound := supply_nonneg amount others
    have head := positive first (by simp)
    simp only [consume, supply, List.map_cons, List.sum_cons] at bound ⊢
    split
    · simp only [takenBy, List.map_nil, List.sum_nil]
      omega
    · split
      · simp only [takenBy, List.map_cons, List.map_nil, List.sum_cons, List.sum_nil]
        omega
      · -- The first element is emptied, and the rest gives what is still wanted.
        have taken := @ih (quantity - amount first) (by omega) others
        simp only [takenBy, supply, List.map_cons, List.sum_cons] at taken ⊢
        omega

/-- The elements taken from are a prefix of the queue. -/
theorem consume_front : (consume amount reduce quantity queue).fills.map Prod.fst =
    queue.take (consume amount reduce quantity queue).fills.length := by
  -- Elements are taken from the front.
  induction queue generalizing quantity with
  | nil => simp [consume]
  | cons first rest ih =>
    simp only [consume]
    split
    · simp
    · split
      · simp
      · simp [ih]

/-- Quantity is taken from elements of the queue only. -/
theorem consume_fill_mem {fill : α × Int}
    (member : fill ∈ (consume amount reduce quantity queue).fills) : fill.1 ∈ queue := by
  have inside : fill.1 ∈ (consume amount reduce quantity queue).fills.map Prod.fst :=
    List.mem_map_of_mem member
  rw [consume_front] at inside
  exact List.mem_of_mem_take inside

/-- Each taking is positive and within its element's amount. -/
theorem consume_fill_bounds (nonneg : 0 ≤ quantity) (positive : ∀ a ∈ queue, 1 ≤ amount a) :
    ∀ fill ∈ (consume amount reduce quantity queue).fills, 1 ≤ fill.2 ∧ fill.2 ≤ amount fill.1 := by
  -- What is taken in part is less than there is, and what is taken in full is all of it.
  induction queue generalizing quantity with
  | nil => simp [consume]
  | cons first rest ih =>
    have head := positive first (by simp)
    simp only [consume]
    split
    · simp
    · split
      · intro fill member
        -- The element gives a part, and the walk ends with it.
        obtain rfl := List.mem_singleton.mp member
        simp only
        omega
      · intro fill member
        rcases List.mem_cons.mp member with rfl | later
        · exact ⟨head, le_refl _⟩
        · exact ih (by omega) (fun a inside => positive a (by simp [inside])) fill later

/-- Every element taken from, but possibly the last, is emptied. -/
theorem consume_emptied :
    ∀ fill ∈ (consume amount reduce quantity queue).fills.dropLast, fill.2 = amount fill.1 := by
  -- Only the last element can be taken in part.
  induction queue generalizing quantity with
  | nil => simp [consume]
  | cons first rest ih =>
    simp only [consume]
    split
    · simp
    · split
      · simp
      · intro fill member
        -- An element that was emptied is the last one, or another one follows it.
        cases later : (consume amount reduce (quantity - amount first) rest).fills with
        | nil => simp [later] at member
        | cons second others =>
          have inner := @ih (quantity - amount first)
          rw [later] at inner
          rw [later, List.dropLast_cons_cons] at member
          rcases List.mem_cons.mp member with rfl | member
          · rfl
          · exact inner fill member

/-- What is left of the last element taken from, when it was only reduced. -/
def reducedLast (amount : α → Int) (reduce : α → Int → α) (fills : List (α × Int)) : List α :=
  match fills.getLast? with
  | some (last, taken) => if taken < amount last then [reduce last taken] else []
  | none => []

/-- What is kept is the untouched rest of the queue, behind the last element if it was only reduced. -/
theorem consume_kept (nonneg : 0 ≤ quantity) :
    (consume amount reduce quantity queue).kept =
      reducedLast amount reduce (consume amount reduce quantity queue).fills ++
      queue.drop (consume amount reduce quantity queue).fills.length := by
  -- The last element stays with what is left of it, in front of those not reached.
  induction queue generalizing quantity with
  | nil => simp [consume, reducedLast]
  | cons first rest ih =>
    simp only [consume]
    split
    · simp [reducedLast]
    · split
      · rename_i partly; simp [reducedLast, partly]
      · have inner := @ih (quantity - amount first) (by omega)
        -- What is left of the last element does not depend on those in front.
        cases later : (consume amount reduce (quantity - amount first) rest).fills with
        | nil =>
          rw [later] at inner
          simpa [reducedLast] using inner
        | cons second others =>
          rw [later] at inner
          simpa [reducedLast, List.getLast?_cons_cons] using inner

/-- Every kept element is an element of the queue, or one of them reduced. -/
theorem consume_kept_mem {a : α} (member : a ∈ (consume amount reduce quantity queue).kept) :
    a ∈ queue ∨ ∃ b ∈ queue, ∃ taken, taken < amount b ∧ a = reduce b taken := by
  -- What is kept was not reached, or is the element that was taken in part.
  induction queue generalizing quantity with
  | nil => simp [consume] at member
  | cons first rest ih =>
    simp only [consume] at member
    split at member
    · exact .inl member
    · split at member
      · rename_i partly
        rcases List.mem_cons.mp member with rfl | inside
        · exact .inr ⟨first, by simp, quantity, partly, rfl⟩
        · exact .inl (by simp [inside])
      · rcases ih member with inside | ⟨b, inside, taken, partly, same⟩
        · exact .inl (by simp [inside])
        · exact .inr ⟨b, by simp [inside], taken, partly, same⟩

/-- The emptied elements and the kept ones are the queue, under a label that reduction preserves. -/
theorem consume_exits {β : Type} {label : α → β}
    (same : ∀ a taken, label (reduce a taken) = label a) :
    queue.map label =
      ((consume amount reduce quantity queue).fills.filter fun fill => fill.2 = amount fill.1).map
        (fun fill => label fill.1) ++ (consume amount reduce quantity queue).kept.map label := by
  -- An element leaves when it is taken in full, and keeps its label otherwise.
  induction queue generalizing quantity with
  | nil => simp [consume]
  | cons first rest ih =>
    simp only [consume]
    split
    · simp
    · split
      · rename_i partly; simp [partly.ne, same]
      · simp [← @ih (quantity - amount first)]

/-- Takings do not depend on labels that neither the amount nor the reduction looks at. -/
theorem consume_map {relabel : α → α} (same : ∀ a, amount (relabel a) = amount a)
    (commutes : ∀ a taken, reduce (relabel a) taken = relabel (reduce a taken)) :
    consume amount reduce quantity (queue.map relabel) =
      ⟨(consume amount reduce quantity queue).fills.map (Prod.map relabel id),
        (consume amount reduce quantity queue).left,
        (consume amount reduce quantity queue).kept.map relabel⟩ := by
  -- Relabelling changes no amount, so that the same cases are taken.
  induction queue generalizing quantity with
  | nil => rfl
  | cons first rest ih =>
    simp only [List.map_cons, consume, same, ih]
    split
    · rfl
    · split
      · simp [commutes]
      · simp

/-- What selected elements hold is what is taken from them and what they keep. -/
theorem consume_share {select : α → Bool} (same : ∀ a taken, select (reduce a taken) = select a)
    (less : ∀ a taken, amount (reduce a taken) = amount a - taken) :
    (queue.map fun a => if select a then amount a else 0).sum =
      ((consume amount reduce quantity queue).fills.map fun fill =>
        if select fill.1 then fill.2 else 0).sum +
      ((consume amount reduce quantity queue).kept.map fun a =>
        if select a then amount a else 0).sum := by
  -- What is taken of an element and what is kept of it add up to its amount.
  induction queue generalizing quantity with
  | nil => simp [consume]
  | cons first rest ih =>
    simp only [consume]
    split
    · simp
    · split
      · simp only [List.map_cons, List.map_nil, List.sum_cons, List.sum_nil, same, less]
        split <;> omega
      · have later := @ih (quantity - amount first)
        simp only [List.map_cons, List.sum_cons, later]
        omega

end Consume

end StockMarket
