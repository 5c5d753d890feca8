import StockMarket.Library.Program

/-! What threads may do to a shared store, in return for what its replies tell them. -/

namespace StockMarket

namespace Program

variable {Op : Type} {Reply : Op → Type} {α β : Type}

/--
A program performs only certain operations, as long as the replies are as they should be.

Its answer is then as it should be.
-/
def Honors (good : Op → Prop) (told : (op : Op) → Reply op → Prop) (holds : α → Prop) :
    Program Op Reply α → Prop
  | done answer => holds answer
  | call op next => good op ∧ ∀ reply, told op reply → (next reply).Honors good told holds

section Honors

variable {good : Op → Prop} {told : (op : Op) → Reply op → Prop} {holds holds' : α → Prop}

/-- The second program may rely on what holds of the answer of the first. -/
theorem Honors.bind {after : β → Prop} {program : Program Op Reply α}
    {rest : α → Program Op Reply β} (first : program.Honors good told holds)
    (second : ∀ answer, holds answer → (rest answer).Honors good told after) :
    (program >>= rest).Honors good told after := by
  induction program with
  | done answer => exact second answer first
  | call op next ih => exact ⟨first.1, fun reply known => ih reply (first.2 reply known)⟩

/-- More may be known of the replies, and less of the answers. -/
theorem Honors.mono {told' : (op : Op) → Reply op → Prop} {program : Program Op Reply α}
    (kept : program.Honors good told holds) (known : ∀ op reply, told' op reply → told op reply)
    (implies : ∀ answer, holds answer → holds' answer) : program.Honors good told' holds' := by
  induction program with
  | done answer => exact implies answer kept
  | call op next ih => exact ⟨kept.1, fun reply seen => ih reply (kept.2 reply (known op reply seen))⟩

/-- More operations may be allowed. -/
theorem Honors.allow {good' : Op → Prop} {program : Program Op Reply α}
    (kept : program.Honors good told holds) (allows : ∀ op, good op → good' op) :
    program.Honors good' told holds := by
  induction program with
  | done answer => exact kept
  | call op next ih => exact ⟨allows op kept.1, fun reply known => ih reply (kept.2 reply known)⟩

/-- Where everything is allowed and all answers are right, every program honors that. -/
theorem honors_of_all {program : Program Op Reply α} (allowed : ∀ op, good op)
    (right : ∀ answer, holds answer) : program.Honors good told holds := by
  induction program with
  | done answer => exact right answer
  | call op next ih => exact ⟨allowed op, fun reply _ => ih reply⟩

end Honors

end Program

/--
An invariant of a store, with what keeps it.

The operations that are good for a request keep it and are replied to as told, and the programs of
admitted requests perform only operations that are good for them.
-/
structure Contract {Op : Type} {Reply : Op → Type} {α σ κ ρ ν : Type}
    (service : Service Op Reply α σ κ ρ ν) where
  holds : σ → Prop
  good : ρ → Op → Prop
  told : (op : Op) → Reply op → Prop
  admits : ρ → Prop
  answers : ρ → α → Prop
  performs : ∀ {store nature request op store' reply}, holds store → good request op →
    service.exec store nature op = some (store', reply) → holds store' ∧ told op reply
  serves : ∀ {store thread request store' program}, holds store → admits request →
    service.serve store thread request = some (store', program) →
      holds store' ∧ program.Honors (good request) told (answers request)

namespace Contract

variable {Op : Type} {Reply : Op → Type} {α σ κ ρ ν : Type} {service : Service Op Reply α σ κ ρ ν}
  (contract : Contract service)

/-- The invariant holds of the store, and every program on the way honors the contract. -/
structure Upheld [DecidableEq κ] (shared : Shared Op Reply α σ κ ρ) : Prop where
  store : contract.holds shared.store
  threads : ∀ thread request program, shared.threads.get? thread = some (request, program) →
    program.Honors (contract.good request) contract.told (contract.answers request)

/-- The requests that arrive in a turn are admitted. -/
def Admitted : Turn κ ρ ν → Prop
  | .begin _ request => contract.admits request
  | .resume _ _ => True

variable [DecidableEq κ] {contract} {shared : Shared Op Reply α σ κ ρ}

/-- A thread goes on with a program that honors the contract. -/
theorem Upheld.set (upheld : contract.Upheld shared) {store : σ} (held : contract.holds store)
    {thread : κ} {request : ρ} {program : Program Op Reply α}
    (kept : program.Honors (contract.good request) contract.told (contract.answers request)) :
    contract.Upheld ⟨store, shared.threads.set thread (request, program)⟩ := by
  -- The thread keeps its contract, and the others have theirs from before.
  refine ⟨held, fun other request' program' found => ?_⟩
  rw [Dict.get?_set] at found
  by_cases same : other = thread
  · rw [if_pos same] at found
    cases found
    exact kept
  · rw [if_neg same] at found
    exact upheld.threads other request' program' found

/-- One turn upholds the contract, and an answer that it gives is as it should be. -/
theorem Upheld.step (upheld : contract.Upheld shared) {turn : Turn κ ρ ν}
    (admitted : contract.Admitted turn) :
    contract.Upheld (shared.step service turn).1 ∧
      ∀ output ∈ (shared.step service turn).2, contract.answers output.1 output.2 := by
  have turned : Shared.Turned service shared turn _ _ := Shared.step_turned turn
  generalize shared.step service turn = stepped at turned ⊢
  obtain ⟨after, output⟩ := stepped
  simp only at turned
  cases turned with
  | waited => exact ⟨upheld, fun _ member => by cases member⟩
  | admitted free served =>
    obtain ⟨held, kept⟩ := contract.serves upheld.store admitted served
    exact ⟨upheld.set held kept, fun _ member => by cases member⟩
  | answered found =>
    -- The thread that answers is free afterwards, and the others stay as they are.
    refine ⟨⟨upheld.store, fun other request program later => ?_⟩, fun output member => ?_⟩
    · rw [Dict.get?_erase] at later
      split at later
      · cases later
      · exact upheld.threads other request program later
    · cases member
      exact upheld.threads _ _ _ found
  | performed found executed =>
    have kept := upheld.threads _ _ _ found
    obtain ⟨held, known⟩ := contract.performs upheld.store kept.1 executed
    exact ⟨upheld.set held (kept.2 _ known), fun _ member => by cases member⟩

/-- Every run of admitted requests upholds the contract, and answers as it should. -/
theorem Upheld.run (upheld : contract.Upheld shared) (turns : List (Turn κ ρ ν))
    (admitted : ∀ turn ∈ turns, contract.Admitted turn) :
    contract.Upheld (Machine.runTotal (Shared.step service) shared turns).1 ∧
      ∀ output ∈ (Machine.runTotal (Shared.step service) shared turns).2,
        ∀ given ∈ output, contract.answers given.1 given.2 := by
  induction turns generalizing shared with
  | nil => exact ⟨upheld, fun _ member => absurd member List.not_mem_nil⟩
  | cons turn later ih =>
    obtain ⟨next, first⟩ := upheld.step (admitted turn List.mem_cons_self)
    obtain ⟨last, rest⟩ :=
      ih next fun other member => admitted other (List.mem_cons_of_mem _ member)
    refine ⟨last, fun output member => ?_⟩
    rcases List.mem_cons.mp member with same | member
    · exact same ▸ first
    · exact rest output member

/-- A store with the invariant upholds the contract while no request is on the way. -/
theorem upheld_of_idle {store : σ} (held : contract.holds store) :
    contract.Upheld (⟨store, .empty⟩ : Shared Op Reply α σ κ ρ) := by
  refine ⟨held, fun thread request program found => ?_⟩
  rw [Dict.get?_empty] at found
  cases found

end Contract

section Agreements

variable {Op : Type} {Reply : Op → Type} {α σ κ ρ ν φ : Type} [DecidableEq κ]

/--
An agreement between a store and the phases of the threads, with what keeps it.

What is told of an answer when it is given remains so, whatever the threads do afterwards.
-/
structure Agreement (service : Service Op Reply α σ κ ρ ν) (φ : Type) where
  protocol : Program.Protocol Op Reply φ
  final : ρ → φ → α → Prop
  agrees : σ → Dict κ φ → Prop
  told : σ → ρ → α → Prop
  admits : ∀ {store phases thread request store' program}, agrees store phases →
    phases.get? thread = none → service.serve store thread request = some (store', program) →
      ∃ phase, program.Keeps protocol (final request) phase ∧ agrees store' (phases.set thread phase)
  performs : ∀ {store phases thread phase nature op store' reply}, agrees store phases →
    phases.get? thread = some phase → protocol.allows phase op →
    service.exec store nature op = some (store', reply) →
      ∃ later, protocol.turns phase op reply later ∧ agrees store' (phases.set thread later)
  answers : ∀ {store phases thread phase request answer}, agrees store phases →
    phases.get? thread = some phase → final request phase answer →
      agrees store (phases.erase thread) ∧ told store request answer
  serving : ∀ {store thread request store' program other answer}, told store other answer →
    service.serve store thread request = some (store', program) → told store' other answer
  lasting : ∀ {store nature op store' reply request answer}, told store request answer →
    service.exec store nature op = some (store', reply) → told store' request answer

namespace Agreement

variable {service : Service Op Reply α σ κ ρ ν} {agreement : Agreement service φ}
  {shared : Shared Op Reply α σ κ ρ}

/-- Every thread keeps to the protocol, and the store agrees with the phases. -/
def Upheld (agreement : Agreement service φ) (shared : Shared Op Reply α σ κ ρ)
    (phases : Dict κ φ) : Prop :=
  shared.Phased agreement.protocol agreement.final phases ∧ agreement.agrees shared.store phases

/-- An agreement is upheld while there are no threads. -/
theorem upheld_of_idle {store : σ} (held : agreement.agrees store .empty) :
    agreement.Upheld (⟨store, .empty⟩ : Shared Op Reply α σ κ ρ) .empty := by
  refine ⟨fun thread => ?_, held⟩
  rw [Dict.get?_empty]
  rfl

/-- One turn upholds the agreement, and an answer that it gives is as told. -/
theorem Upheld.step {phases : Dict κ φ} (upheld : agreement.Upheld shared phases)
    (turn : Turn κ ρ ν) :
    (∃ phases', agreement.Upheld (shared.step service turn).1 phases') ∧
      ∀ given ∈ (shared.step service turn).2,
        agreement.told (shared.step service turn).1.store given.1 given.2 := by
  obtain ⟨phased, held⟩ := upheld
  obtain ⟨phases', later, agrees, _⟩ := phased.step turn agreement.agrees held
    (fun _ _ _ _ _ free served => agreement.admits held free served)
    (fun _ _ _ _ _ _ _ _ _ _ found allowed executed =>
      agreement.performs held found allowed executed)
    (fun _ _ _ _ found ended => (agreement.answers held found ended).1)
  refine ⟨⟨phases', later, agrees⟩, ?_⟩
  have turned : Shared.Turned service shared turn _ _ := Shared.step_turned turn
  generalize shared.step service turn = stepped at turned ⊢
  obtain ⟨after, output⟩ := stepped
  simp only at turned
  intro given member
  cases turned with
  | waited => cases member
  | admitted free served => cases member
  | performed found executed => cases member
  | answered found =>
    -- The thread answers in the phase that it is in.
    cases member
    obtain ⟨phase, here, kept⟩ := phased.find found
    cases kept with
    | done ended => exact (agreement.answers held here ended).2

/-- What is told of an answer is not undone by a turn. -/
theorem told_step {request : ρ} {answer : α} (told : agreement.told shared.store request answer)
    (turn : Turn κ ρ ν) : agreement.told (shared.step service turn).1.store request answer := by
  -- Neither a request nor an operation takes back what has been told.
  have turned : Shared.Turned service shared turn _ _ := Shared.step_turned turn
  generalize shared.step service turn = stepped at turned ⊢
  obtain ⟨after, output⟩ := stepped
  simp only at turned
  cases turned with
  | waited => exact told
  | admitted free served => exact agreement.serving told served
  | performed found executed => exact agreement.lasting told executed
  | answered found => exact told

/-- What was told stays told in every run. -/
theorem told_run {request : ρ} {answer : α} (turns : List (Turn κ ρ ν)) :
    ∀ {shared : Shared Op Reply α σ κ ρ}, agreement.told shared.store request answer →
      agreement.told (Machine.runTotal (Shared.step service) shared turns).1.store request answer := by
  induction turns with
  | nil => exact fun told => told
  | cons turn later ih => exact fun told => ih (told_step told turn)

/-- Every run upholds the agreement, and at its end all its answers are as told. -/
theorem Upheld.run (turns : List (Turn κ ρ ν)) : ∀ {shared : Shared Op Reply α σ κ ρ}
    {phases : Dict κ φ}, agreement.Upheld shared phases →
      (∃ phases', agreement.Upheld (Machine.runTotal (Shared.step service) shared turns).1 phases') ∧
        ∀ output ∈ (Machine.runTotal (Shared.step service) shared turns).2, ∀ given ∈ output,
          agreement.told (Machine.runTotal (Shared.step service) shared turns).1.store
            given.1 given.2 := by
  induction turns with
  | nil => exact fun upheld => ⟨⟨_, upheld⟩, fun _ member => absurd member List.not_mem_nil⟩
  | cons turn later ih =>
    intro shared phases upheld
    obtain ⟨⟨phases', next⟩, first⟩ := upheld.step turn
    obtain ⟨last, rest⟩ := ih next
    refine ⟨last, fun output member given inside => ?_⟩
    rcases List.mem_cons.mp member with same | member
    · exact told_run later (first given (same ▸ inside))
    · exact rest output member given inside

end Agreement

end Agreements

end StockMarket
