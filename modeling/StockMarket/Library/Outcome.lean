import Mathlib.Data.List.Forall2

/-! Computations that end with a result or with an error, in sequence and over lists. -/

namespace StockMarket.Outcome

variable {α β ε : Type}

/-- Two computations in sequence succeed one after the other. -/
theorem bind_eq_ok {first : Except ε α} {next : α → Except ε β} {result : β}
    (ran : first >>= next = .ok result) :
    ∃ middle, first = .ok middle ∧ next middle = .ok result := by
  cases first with
  | error fault => cases ran
  | ok middle => exact ⟨middle, rfl, ran⟩

/-- A computation whose result is mapped succeeds with what its own result is mapped to. -/
theorem map_eq_ok {first : Except ε α} {image : α → β} {result : β}
    (ran : first.map image = .ok result) : ∃ middle, first = .ok middle ∧ image middle = result := by
  cases first with
  | error fault => cases ran
  | ok middle => exact ⟨middle, rfl, Except.ok.inj ran⟩

/-- A sequence goes on with the result of its first computation. -/
theorem bind_ok {first : Except ε α} {next : α → Except ε β} {middle : α}
    (ran : first = .ok middle) : first >>= next = next middle := by
  rw [ran]
  rfl

/-- A sequence fails with its first computation. -/
theorem bind_error {first : Except ε α} {next : α → Except ε β} {fault : ε}
    (failed : first = .error fault) : first >>= next = .error fault := by
  rw [failed]
  rfl

/-- Renaming the faults of a computation leaves what it returns. -/
theorem mapError_eq_ok_iff {first : Except ε α} {ε' : Type} {rename : ε → ε'}
    {result : α} :
    first.mapError rename = .ok result ↔ first = .ok result := by
  cases first with
  | error fault => exact iff_of_false nofun nofun
  | ok value => exact ⟨fun same => congrArg Except.ok (Except.ok.inj same),
      fun same => congrArg Except.ok (Except.ok.inj same)⟩

/-- Two computations in sequence fail when the first one fails, or the second one after it. -/
theorem bind_eq_error_iff {first : Except ε α} {next : α → Except ε β} {fault : ε} :
    first >>= next = .error fault ↔
      first = .error fault ∨ ∃ middle, first = .ok middle ∧ next middle = .error fault := by
  -- The first computation fails, or the second one does after it.
  cases first with
  | error found =>
    refine ⟨fun failed => .inl ?_, ?_⟩
    · cases failed
      rfl
    · rintro (⟨⟨⟩⟩ | ⟨_, ⟨⟩, _⟩)
      rfl
  | ok middle =>
    refine ⟨fun failed => .inr ⟨middle, rfl, failed⟩, ?_⟩
    rintro (⟨⟨⟩⟩ | ⟨_, ⟨⟩, failed⟩)
    exact failed

/-- A computation over a list succeeds when it succeeds on every element, in order. -/
theorem mapM_eq_ok_iff {compute : α → Except ε β} {inputs : List α} {results : List β} :
    inputs.mapM compute = .ok results ↔
      List.Forall₂ (fun input result => compute input = .ok result) inputs results := by
  -- All results are there exactly when each is there.
  induction inputs generalizing results with
  | nil =>
    rw [List.mapM_nil, List.forall₂_nil_left_iff]
    exact ⟨fun same => (Except.ok.inj same).symm, fun same => same ▸ rfl⟩
  | cons input inputs ih =>
    rw [List.mapM_cons, List.forall₂_cons_left_iff]
    constructor
    · intro ran
      obtain ⟨result, first, ran⟩ := bind_eq_ok ran
      obtain ⟨others, rest, ran⟩ := bind_eq_ok ran
      cases ran
      exact ⟨result, others, first, ih.mp rest, rfl⟩
    · rintro ⟨result, others, first, rest, rfl⟩
      rw [first, ih.mpr rest]
      rfl

/-- A computation over a list fails as it does on the first element where it fails. -/
theorem mapM_eq_error_iff {compute : α → Except ε β} {inputs : List α} {fault : ε} :
    inputs.mapM compute = .error fault ↔ ∃ before input after, inputs = before ++ input :: after ∧
      (∀ earlier ∈ before, ∃ result, compute earlier = .ok result) ∧
      compute input = .error fault := by
  induction inputs with
  | nil =>
    rw [List.mapM_nil]
    exact iff_of_false nofun fun ⟨before, _, _, split, _⟩ => by cases before <;> cases split
  | cons first later ih =>
    rw [List.mapM_cons]
    cases ran : compute first with
    | error found =>
      constructor
      · rintro ⟨⟩
        exact ⟨[], first, later, rfl, nofun, ran⟩
      · -- Nothing can stand before the first element.
        rintro ⟨before, input, after, split, fine, failed⟩
        cases before with
        | nil =>
          cases split
          rw [ran] at failed
          cases failed
          rfl
        | cons earlier before =>
          cases split
          obtain ⟨result, succeeded⟩ := fine _ List.mem_cons_self
          rw [ran] at succeeded
          cases succeeded
    | ok result =>
      -- The first element is one of those before the failure.
      have rest : (do let results ← later.mapM compute; return result :: results) = .error fault ↔
          later.mapM compute = .error fault := by
        cases later.mapM compute with
        | error found => exact Iff.rfl
        | ok results => exact iff_of_false nofun nofun
      refine rest.trans (ih.trans ⟨?_, ?_⟩)
      · rintro ⟨before, input, after, rfl, fine, failed⟩
        refine ⟨first :: before, input, after, rfl, ?_, failed⟩
        rintro earlier (_ | ⟨_, inside⟩)
        · exact ⟨result, ran⟩
        · exact fine _ inside
      · rintro ⟨before, input, after, split, fine, failed⟩
        cases before with
        | nil =>
          cases split
          rw [ran] at failed
          cases failed
        | cons earlier before =>
          cases split
          exact ⟨before, input, after, rfl,
            fun other inside => fine other (List.mem_cons_of_mem _ inside), failed⟩

/-- When a computation succeeds on every element, it succeeds on the list with related results. -/
theorem mapM_related {compute : α → Except ε β} {related : α → β → Prop} {inputs : List α}
    (each : ∀ input ∈ inputs, ∃ result, compute input = .ok result ∧ related input result) :
    ∃ results, inputs.mapM compute = .ok results ∧ List.Forall₂ related inputs results := by
  -- Each computation succeeds, and so do all of them in turn.
  induction inputs with
  | nil => exact ⟨[], rfl, .nil⟩
  | cons input inputs ih =>
    obtain ⟨result, first, holds⟩ := each input List.mem_cons_self
    obtain ⟨results, rest, hold⟩ := ih fun other inside => each other (List.mem_cons_of_mem _ inside)
    refine ⟨result :: results, ?_, .cons holds hold⟩
    rw [List.mapM_cons, first, rest]
    rfl

/-- A computation that succeeds on every element gives the list of its results. -/
theorem mapM_eq_map {compute : α → Except ε β} {image : α → β} {inputs : List α}
    (each : ∀ input ∈ inputs, compute input = .ok (image input)) :
    inputs.mapM compute = .ok (inputs.map image) := by
  rw [mapM_eq_ok_iff, List.forall₂_map_right_iff, List.forall₂_same]
  exact each

/-- Every result belongs to an input that it is related to. -/
theorem exists_left {related : α → β → Prop} {inputs : List α} {results : List β}
    (pairs : List.Forall₂ related inputs results) {result : β} (member : result ∈ results) :
    ∃ input ∈ inputs, related input result := by
  -- The result is the first one, or among the later ones.
  induction pairs with
  | nil => exact absurd member List.not_mem_nil
  | @cons input other inputs results holds _ ih =>
    rcases List.mem_cons.mp member with rfl | later
    · exact ⟨input, List.mem_cons_self, holds⟩
    · obtain ⟨found, inside, holds⟩ := ih later
      exact ⟨found, List.mem_cons_of_mem _ inside, holds⟩

/-- Every input has a result that it is related to. -/
theorem exists_right {related : α → β → Prop} {inputs : List α} {results : List β}
    (pairs : List.Forall₂ related inputs results) {input : α} (member : input ∈ inputs) :
    ∃ result ∈ results, related input result :=
  exists_left pairs.flip member

/-- Two relations between the same lists hold together. -/
theorem related_and {first second : α → β → Prop} {inputs : List α} {results : List β}
    (one : List.Forall₂ first inputs results) (other : List.Forall₂ second inputs results) :
    List.Forall₂ (fun input result => first input result ∧ second input result) inputs results := by
  rw [List.forall₂_iff_zip] at one other ⊢
  exact ⟨one.1, fun pair => ⟨one.2 pair, other.2 pair⟩⟩

end StockMarket.Outcome
