import StockMarket.Library.Outcome

/-! Machines that consume a list of inputs, with the rules for invariants and simulations. -/

namespace StockMarket.Machine

variable {σ τ ι ω ω' ε : Type}

/-- Feed the inputs in order and collect the outputs, stopping at the first fault. -/
def run (step : σ → ι → Except ε (σ × ω)) : σ → List ι → Except ε (σ × List ω)
  | state, [] => .ok (state, [])
  | state, input :: later => do
    let (state, output) ← step state input
    let (state, outputs) ← run step state later
    return (state, output :: outputs)

/-- A machine that never faults, run over its inputs. -/
def runTotal (step : σ → ι → σ × ω) : σ → List ι → σ × List ω
  | state, [] => (state, [])
  | state, input :: later =>
    let (state, output) := step state input
    let (state, outputs) := runTotal step state later
    (state, output :: outputs)

/-- Every step of a run, as far as the run goes, is taken where a condition holds. -/
def throughout (step : σ → ι → Except ε (σ × ω)) (meets : σ → ι → Bool) : σ → List ι → Bool
  | _, [] => true
  | state, input :: later =>
    meets state input && match step state input with
      | .ok (next, _) => throughout step meets next later
      | .error _ => true

/-- A successful step is followed by the run over the remaining inputs. -/
theorem run_cons {step : σ → ι → Except ε (σ × ω)} {state next : σ} {input : ι} {output : ω}
    (stepped : step state input = .ok (next, output)) (later : List ι) :
    run step state (input :: later) =
      (run step next later).map fun (last, outputs) => (last, output :: outputs) := by
  -- Both sides peel the first output off the run that follows it.
  simp only [run, stepped, Bind.bind, Except.bind, Pure.pure, Except.pure]
  cases run step next later <;> rfl

/-- A condition on every step holds of the first one, and of every step from the next state on. -/
theorem throughout_cons {step : σ → ι → Except ε (σ × ω)} {meets : σ → ι → Bool} {state next : σ}
    {input : ι} {output : ω} {later : List ι} (stepped : step state input = .ok (next, output)) :
    throughout step meets state (input :: later) = true ↔
      meets state input = true ∧ throughout step meets next later = true := by
  simp only [throughout, stepped, Bool.and_eq_true]

/--
An invariant over the outputs so far, the state, and the inputs still to come.

The step rule also supplies success, so the run as a whole never faults.
-/
theorem run_history {step : σ → ι → Except ε (σ × ω)} (holds : List ω → σ → List ι → Prop)
    (preserved : ∀ past state input later, holds past state (input :: later) →
      ∃ next output, step state input = .ok (next, output) ∧ holds (past ++ [output]) next later) :
    ∀ (inputs : List ι) (past : List ω) (state : σ), holds past state inputs →
      ∃ last outputs, run step state inputs = .ok (last, outputs) ∧
        holds (past ++ outputs) last [] := by
  -- Each input is consumed by one step, which hands the invariant to the rest of the run.
  intro inputs
  induction inputs with
  | nil => intro past state held; exact ⟨state, [], rfl, by rwa [List.append_nil]⟩
  | cons input later ih =>
    intro past state held
    obtain ⟨next, output, stepped, held⟩ := preserved past state input later held
    obtain ⟨last, outputs, ran, held⟩ := ih _ next held
    refine ⟨last, output :: outputs, by rw [run_cons stepped, ran]; rfl, ?_⟩
    rwa [List.append_assoc] at held

/-- An invariant that does not look at the outputs holds at the end of every run. -/
theorem run_invariant {step : σ → ι → Except ε (σ × ω)} (holds : σ → List ι → Prop)
    (preserved : ∀ state input later, holds state (input :: later) →
      ∃ next output, step state input = .ok (next, output) ∧ holds next later)
    (inputs : List ι) (state : σ) (held : holds state inputs) :
    ∃ last outputs, run step state inputs = .ok (last, outputs) ∧ holds last [] :=
  run_history (fun _ => holds) (fun _ => preserved) inputs [] state held

/-- A run over two lists of inputs is the first run followed by the second. -/
theorem run_append {step : σ → ι → Except ε (σ × ω)} (first second : List ι) (state : σ) :
    run step state (first ++ second) = do
      let (middle, outputs) ← run step state first
      let (last, more) ← run step middle second
      return (last, outputs ++ more) := by
  -- A fault of the first part is a fault of the whole, and otherwise the second part goes on.
  induction first generalizing state with
  | nil =>
    simp only [List.nil_append, run, Bind.bind, Except.bind, Pure.pure, Except.pure]
    cases run step state second <;> rfl
  | cons input later ih =>
    cases stepped : step state input with
    | error fault => simp only [List.cons_append, run, stepped, Bind.bind, Except.bind]
    | ok stepped' =>
      obtain ⟨next, output⟩ := stepped'
      rw [List.cons_append, run_cons stepped, run_cons stepped, ih]
      cases run step next later with
      | error fault => rfl
      | ok middle =>
        simp only [Except.map, Bind.bind, Except.bind, Pure.pure, Except.pure]
        cases run step middle.1 second <;> rfl

/-- A state reached by one run continues with the outputs of the longer run. -/
theorem run_append_ok {step : σ → ι → Except ε (σ × ω)} {first : List ι} {state middle : σ}
    {outputs : List ω} (ran : run step state first = .ok (middle, outputs)) (second : List ι) :
    run step state (first ++ second) =
      (run step middle second).map fun (last, more) => (last, outputs ++ more) := by
  rw [run_append, ran]
  simp only [Bind.bind, Except.bind, Pure.pure, Except.pure]
  cases run step middle second <;> rfl

/-- A machine that never faults runs through. -/
theorem run_ok (step : σ → ι → σ × ω) (inputs : List ι) : ∀ state,
    run (ε := ε) (fun state input => .ok (step state input)) state inputs =
      .ok (runTotal step state inputs) := by
  -- No step faults, so that the run goes on to its end.
  induction inputs with
  | nil => intro state; rfl
  | cons input later ih =>
    intro state
    have stepped : (fun state input => Except.ok (ε := ε) (step state input)) state input =
      .ok (step state input) := rfl
    rw [run_cons stepped, ih]
    rfl

/-- One more input is handled in the state that the others lead to. -/
theorem runTotal_concat (step : σ → ι → σ × ω) (inputs : List ι) (input : ι) : ∀ state,
    runTotal step state (inputs ++ [input]) =
      ((step (runTotal step state inputs).1 input).1,
        (runTotal step state inputs).2 ++ [(step (runTotal step state inputs).1 input).2]) := by
  -- The induction is on the inputs before, in whatever state they begin.
  induction inputs with
  | nil => exact fun _ => rfl
  | cons first later ih =>
    intro state
    simp only [List.cons_append, runTotal, ih]

/-- An invariant over the outputs so far and the state of a machine that never faults. -/
theorem runTotal_history {step : σ → ι → σ × ω} (holds : List ω → σ → Prop)
    (preserved : ∀ past state input, holds past state →
      holds (past ++ [(step state input).2]) (step state input).1)
    (inputs : List ι) (past : List ω) (state : σ) (held : holds past state) :
    holds (past ++ (runTotal step state inputs).2) (runTotal step state inputs).1 := by
  -- The first output joins the past, and the rest follows it.
  induction inputs generalizing past state with
  | nil =>
    rw [runTotal, List.append_nil]
    exact held
  | cons input later ih =>
    have next := ih _ _ (preserved past state input held)
    rw [List.append_assoc] at next
    exact next

/-- What each step of an invariant's keeping establishes of its input and output holds of all. -/
theorem runTotal_related {step : σ → ι → σ × ω} (holds : σ → Prop) (allowed : ι → Prop)
    (related : ι → ω → Prop)
    (each : ∀ state input, holds state → allowed input →
      holds (step state input).1 ∧ related input (step state input).2)
    (inputs : List ι) (state : σ) (held : holds state) (all : ∀ input ∈ inputs, allowed input) :
    List.Forall₂ related inputs (runTotal step state inputs).2 := by
  -- The induction is on the inputs, and the state that each one leaves is invariant again.
  induction inputs generalizing state with
  | nil => exact .nil
  | cons input later ih =>
    obtain ⟨kept, first⟩ := each state input held (all input List.mem_cons_self)
    exact .cons first (ih _ kept fun other member => all other (List.mem_cons_of_mem _ member))

/-- A condition on every step of a longer run holds over its beginning, and over the rest. -/
theorem throughout_append {step : σ → ι → σ × ω} {meets : σ → ι → Bool} (first second : List ι)
    (state : σ) :
    throughout (ε := ε) (fun state input => .ok (step state input)) meets state
        (first ++ second) = true ↔
      throughout (ε := ε) (fun state input => .ok (step state input)) meets state first = true ∧
        throughout (ε := ε) (fun state input => .ok (step state input)) meets
          (runTotal step state first).1 second = true := by
  -- The induction is on the first part, and its end is where the second part begins.
  induction first generalizing state with
  | nil => exact (and_iff_right rfl).symm
  | cons input later ih =>
    rw [List.cons_append, throughout_cons rfl, throughout_cons rfl, ih, and_assoc]
    rfl

/-- Two conditions that each hold on every step hold together. -/
theorem throughout_and {step : σ → ι → Except ε (σ × ω)} {meets also : σ → ι → Bool}
    {inputs : List ι} {state : σ} (one : throughout step meets state inputs = true)
    (other : throughout step also state inputs = true) :
    throughout step (fun state input => meets state input && also state input) state inputs =
      true := by
  -- Both conditions are checked on the first step, and on the run from there.
  induction inputs generalizing state with
  | nil => rfl
  | cons input later ih =>
    unfold throughout at one other ⊢
    rw [Bool.and_eq_true] at one other
    rw [one.1, other.1, Bool.true_and, Bool.true_and]
    cases stepped : step state input with
    | error fault => rfl
    | ok next =>
      rw [stepped] at one other
      exact ih one.2 other.2

/-- An invariant that is kept where a condition holds is kept as long as the condition is met. -/
theorem runTotal_throughout {step : σ → ι → σ × ω} {meets : σ → ι → Bool} (holds : σ → Prop)
    (preserved : ∀ state input, holds state → meets state input = true →
      holds (step state input).1)
    (inputs : List ι) (state : σ) (held : holds state)
    (met : throughout (ε := ε) (fun state input => .ok (step state input)) meets state inputs =
      true) : holds (runTotal step state inputs).1 := by
  -- The condition is met by the first input, and by the others in the state after it.
  induction inputs generalizing state with
  | nil => exact held
  | cons input later ih =>
    obtain ⟨first, rest⟩ := (throughout_cons rfl).mp met
    exact ih _ (preserved state input held first) rest

/-- What a step keeps exactly where a condition holds, is kept all along a run exactly when every
step meets the condition. -/
theorem runTotal_throughout_iff {step : σ → ι → σ × ω} {meets : σ → ι → Bool}
    (valid holds : σ → Prop) (validated : ∀ state input, valid state → valid (step state input).1)
    (exactly : ∀ state input, valid state → holds state →
      (holds (step state input).1 ↔ meets state input = true))
    (inputs : List ι) (state : σ) (sound : valid state) (held : holds state) :
    (∀ first, first <+: inputs → holds (runTotal step state first).1) ↔
      throughout (ε := ε) (fun state input => .ok (step state input)) meets state inputs =
        true := by
  induction inputs generalizing state with
  | nil =>
    refine ⟨fun _ => rfl, fun _ first start => ?_⟩
    rw [List.prefix_nil.mp start]
    exact held
  | cons input later ih =>
    have next := ih _ (validated state input sound)
    rw [throughout_cons rfl]
    constructor
    · intro along
      -- The run that stops after the first step shows that the step meets the condition.
      have once := along [input] (List.prefix_append [input] later)
      refine ⟨(exactly state input sound held).mp once, (next once).mp fun first start => ?_⟩
      exact along (input :: first) ((List.prefix_cons_inj input).mpr start)
    · rintro ⟨met, rest⟩ first start
      have once := (exactly state input sound held).mpr met
      rcases List.prefix_cons_iff.mp start with rfl | ⟨shorter, rfl, begins⟩
      · exact held
      · exact (next once).mpr rest shorter begins

/-- What a step keeps exactly where a condition holds, while an invariant supplies its success, is
kept all along a run exactly when every step meets the condition. -/
theorem run_throughout_iff {step : σ → ι → Except ε (σ × ω)} {meets : σ → ι → Bool}
    (valid : List ω → σ → List ι → Prop) (holds : List ω → σ → Prop)
    (exactly : ∀ past state input later, valid past state (input :: later) →
      ∃ next output, step state input = .ok (next, output) ∧
        valid (past ++ [output]) next later ∧
        (holds past state → (holds (past ++ [output]) next ↔ meets state input = true)))
    (inputs : List ι) (past : List ω) (state : σ) (sound : valid past state inputs)
    (held : holds past state) :
    (∀ first, first <+: inputs → ∀ last outputs, run step state first = .ok (last, outputs) →
      holds (past ++ outputs) last) ↔ throughout step meets state inputs = true := by
  induction inputs generalizing past state with
  | nil =>
    refine ⟨fun _ => rfl, fun _ first start last outputs ran => ?_⟩
    rw [List.prefix_nil.mp start] at ran
    cases ran
    rwa [List.append_nil]
  | cons input later ih =>
    obtain ⟨next, output, stepped, sound', once⟩ := exactly past state input later sound
    rw [throughout_cons stepped]
    constructor
    · intro along
      -- The run that stops after the first step shows that the step meets the condition.
      have alone : run step state [input] = .ok (next, [output]) := by
        rw [run_cons stepped]
        rfl
      have kept := along [input] (List.prefix_append [input] later) next [output] alone
      refine ⟨(once held).mp kept, (ih _ next sound' kept).mp ?_⟩
      intro first start last outputs ran
      rw [List.append_assoc]
      refine along (input :: first) ((List.prefix_cons_inj input).mpr start) last _ ?_
      rw [run_cons stepped, ran]
      rfl
    · -- A beginning is empty, or the first step and a shorter beginning.
      rintro ⟨met, rest⟩ first start last outputs ran
      have kept := (once held).mpr met
      rcases List.prefix_cons_iff.mp start with rfl | ⟨shorter, rfl, begins⟩
      · cases ran
        rwa [List.append_nil]
      · rw [run_cons stepped] at ran
        obtain ⟨⟨last', outputs'⟩, ran', same⟩ := Outcome.map_eq_ok ran
        cases same
        have done := (ih _ next sound' kept).mpr rest shorter begins _ _ ran'
        rwa [List.append_assoc] at done

/-- Two machines that never fault and are related step by step answer alike over every run. -/
theorem runTotal_simulation (step : σ → ι → σ × ω) (spec : τ → ι → τ × ω') (view : ω' → ω)
    (related : σ → τ → Prop)
    (simulated : ∀ state model input, related state model →
      (step state input).2 = view (spec model input).2 ∧
        related (step state input).1 (spec model input).1)
    (inputs : List ι) (state : σ) (model : τ) (held : related state model) :
    (runTotal step state inputs).2 = (runTotal spec model inputs).2.map view ∧
      related (runTotal step state inputs).1 (runTotal spec model inputs).1 := by
  -- One step is matched by one step, with the outputs seen alike.
  induction inputs generalizing state model with
  | nil => exact ⟨rfl, held⟩
  | cons input later ih =>
    obtain ⟨same, held⟩ := simulated state model input held
    obtain ⟨alike, held⟩ := ih _ _ held
    refine ⟨?_, held⟩
    simp only [runTotal, List.map_cons, same, alike]

/-- What every step leaves alone stays over all of them. -/
theorem foldl_keeps {α : Type} {step : σ → ι → σ} {view : σ → α}
    (keeps : ∀ state input, view (step state input) = view state) (inputs : List ι) (state : σ) :
    view (inputs.foldl step state) = view state := by
  induction inputs generalizing state with
  | nil => rfl
  | cons input later ih => exact (ih (step state input)).trans (keeps state input)

/-- Two machines that read the same inputs in their own ways, and whose outputs correspond step by
step, correspond over every run. -/
theorem run_translated {κ ι' : Type} {step : σ → ι → Except ε (σ × ω)}
    {step' : σ → ι' → Except ε (σ × ω')} (reads : κ → ι) (reads' : κ → ι') (outward : κ → ω → ω')
    (inputs : List κ) (translated : ∀ state, ∀ input ∈ inputs, step' state (reads' input) =
      (step state (reads input)).map (Prod.map id (outward input))) : ∀ state,
    run step' state (inputs.map reads') =
      (run step state (inputs.map reads)).map (Prod.map id (inputs.zipWith outward)) := by
  -- The first steps agree, and a fault of one is a fault of the other.
  induction inputs with
  | nil => exact fun _ => rfl
  | cons input later ih =>
    intro state
    have first := translated state input List.mem_cons_self
    have rest := ih fun state other member => translated state other (List.mem_cons_of_mem _ member)
    rw [List.map_cons, List.map_cons]
    -- What the first step reaches is the same state on both sides.
    cases stepped : step state (reads input) with
    | error fault =>
      rw [stepped] at first
      simp only [run, first, stepped, Except.map, Bind.bind, Except.bind]
    | ok stepped' =>
      obtain ⟨next, output⟩ := stepped'
      rw [stepped] at first
      rw [run_cons first, run_cons stepped, id, rest next]
      cases run step next (later.map reads) <;> rfl

/-- Two machines related step by step, whose outputs look alike, look alike over every run. -/
theorem run_simulation {step : σ → ι → Except ε (σ × ω)} {spec : τ → ι → τ × ω'}
    (view : ω → ω') (related : σ → τ → List ι → Prop)
    (simulated : ∀ state model input later, related state model (input :: later) →
      ∃ next output, step state input = .ok (next, output) ∧ view output = (spec model input).2 ∧
        related next (spec model input).1 later) :
    ∀ (inputs : List ι) (state : σ) (model : τ), related state model inputs →
      ∃ last outputs, run step state inputs = .ok (last, outputs) ∧
        outputs.map view = (runTotal spec model inputs).2 ∧
        related last (runTotal spec model inputs).1 [] := by
  -- The relation is handed from step to step together with the output it guarantees.
  intro inputs
  induction inputs with
  | nil => intro state model held; exact ⟨state, [], rfl, rfl, held⟩
  | cons input later ih =>
    intro state model held
    obtain ⟨next, output, stepped, same, held⟩ := simulated state model input later held
    obtain ⟨last, outputs, ran, alike, held⟩ := ih next _ held
    refine ⟨last, output :: outputs, by rw [run_cons stepped, ran]; rfl, ?_, held⟩
    rw [List.map_cons, same, alike]
    rfl

end StockMarket.Machine
