import StockMarket.Library.Dict
import StockMarket.Library.Machine

/-! Programs of atomic operations on a shared store, and the rules for all their interleavings. -/

namespace StockMarket

/-- A program performs one operation after another and goes on by the replies. -/
inductive Program (Op : Type) (Reply : Op → Type) (α : Type) where
  | done (answer : α)
  | call (op : Op) (next : Reply op → Program Op Reply α)

namespace Program

variable {Op : Type} {Reply : Op → Type} {α β : Type}

/-- A program followed by another one that knows its answer. -/
def bind : Program Op Reply α → (α → Program Op Reply β) → Program Op Reply β
  | done answer, rest => rest answer
  | call op next, rest => call op fun reply => (next reply).bind rest

/-- Programs follow one another. -/
instance : Monad (Program Op Reply) where
  pure := done
  bind := bind

/-- The program that performs one operation and answers with its reply. -/
def perform (op : Op) : Program Op Reply (Reply op) := call op done

/-- The phases of a thread: the operations that a phase allows, and where their replies lead. -/
structure Protocol (Op : Type) (Reply : Op → Type) (φ : Type) where
  allows : φ → Op → Prop
  turns : φ → (op : Op) → Reply op → φ → Prop

/--
A program keeps to a protocol when it only performs operations that its phase allows.

The answer is checked against the phase in which it is given.
-/
inductive Keeps {φ : Type} (protocol : Protocol Op Reply φ) (final : φ → α → Prop) :
    φ → Program Op Reply α → Prop where
  | done {phase : φ} {answer : α} (ended : final phase answer) : Keeps protocol final phase (done answer)
  | call {phase : φ} {op : Op} {next : Reply op → Program Op Reply α}
      (allowed : protocol.allows phase op)
      (kept : ∀ reply later, protocol.turns phase op reply later →
        Keeps protocol final later (next reply)) :
      Keeps protocol final phase (call op next)

/-- Phases that move along with the operations they allow. -/
def Protocol.moving {φ : Type} (allows : φ → Op → Bool) (next : φ → (op : Op) → Reply op → φ) :
    Protocol Op Reply φ where
  allows := fun phase op => allows phase op = true
  turns := fun phase op reply later => later = next phase op reply

section Bind

variable {φ : Type} {protocol : Protocol Op Reply φ} {phase : φ}

/-- One operation, followed by a program that goes on from the phase it leads to. -/
theorem Keeps.perform_moving {allows : φ → Op → Bool} {next : φ → (op : Op) → Reply op → φ}
    {final : φ → α → Prop} {op : Op} {rest : Reply op → Program Op Reply α}
    (allowed : allows phase op = true)
    (kept : ∀ reply, (rest reply).Keeps (.moving allows next) final (next phase op reply)) :
    (perform op >>= rest).Keeps (.moving allows next) final phase := by
  refine .call allowed fun reply later turned => ?_
  rw [show later = next phase op reply from turned]
  exact kept reply

/-- A program whose answers hand a phase to the next program keeps to the protocol with it. -/
theorem Keeps.bind {middle : φ → α → Prop} {final : φ → β → Prop}
    {program : Program Op Reply α} {rest : α → Program Op Reply β}
    (kept : Keeps protocol middle phase program)
    (continued : ∀ phase answer, middle phase answer → Keeps protocol final phase (rest answer)) :
    Keeps protocol final phase (program >>= rest) := by
  -- The first program is followed until it answers.
  induction kept with
  | done ended => exact continued _ _ ended
  | call allowed _ ih => exact .call allowed ih

end Bind

/-- A program may end in more phases than it does. -/
theorem Keeps.weaken {φ : Type} {protocol : Protocol Op Reply φ} {phase : φ}
    {final final' : φ → α → Prop} {program : Program Op Reply α}
    (kept : Keeps protocol final phase program)
    (implies : ∀ phase answer, final phase answer → final' phase answer) :
    Keeps protocol final' phase program := by
  induction kept with
  | done ended => exact .done (implies _ _ ended)
  | call allowed _ ih => exact .call allowed ih

/-- A program performs only certain operations, and its answers are as they should be. -/
def Only (good : Op → Prop) (holds : α → Prop) : Program Op Reply α → Prop
  | done answer => holds answer
  | call op next => good op ∧ ∀ reply, (next reply).Only good holds

section Only

variable {good good' : Op → Prop} {holds : α → Prop} {holds' : β → Prop}

/-- One operation, followed by a program of such operations. -/
theorem only_perform {op : Op} {rest : Reply op → Program Op Reply α} (allowed : good op)
    (kept : ∀ reply, (rest reply).Only good holds) : (perform op >>= rest).Only good holds :=
  ⟨allowed, kept⟩

/-- The second program may rely on what holds of the answer of the first. -/
theorem Only.bind {program : Program Op Reply α} {rest : α → Program Op Reply β}
    (first : program.Only good holds)
    (second : ∀ answer, holds answer → (rest answer).Only good holds') :
    (program >>= rest).Only good holds' := by
  induction program with
  | done answer => exact second answer first
  | call op next ih => exact ⟨first.1, fun reply => ih reply (first.2 reply)⟩

/-- More operations may be allowed, and less may be known of the answers. -/
theorem Only.mono {holds' : α → Prop} {program : Program Op Reply α}
    (kept : program.Only good holds) (allows : ∀ op, good op → good' op)
    (implies : ∀ answer, holds answer → holds' answer) : program.Only good' holds' := by
  induction program with
  | done answer => exact implies answer kept
  | call op next ih => exact ⟨allows op kept.1, fun reply => ih reply (kept.2 reply)⟩

/-- A program stays in a phase that its operations do not lead out of. -/
theorem Only.keeps {φ : Type} {protocol : Protocol Op Reply φ} {phase : φ}
    {program : Program Op Reply α} (kept : program.Only good holds)
    (allows : ∀ op, good op → protocol.allows phase op)
    (stays : ∀ op reply later, good op → protocol.turns phase op reply later → later = phase) :
    program.Keeps protocol (fun last answer => last = phase ∧ holds answer) phase := by
  induction program with
  | done answer => exact .done ⟨rfl, kept⟩
  | call op next ih =>
    refine .call (allows op kept.1) fun reply later turned => ?_
    -- An allowed operation leads back to the same phase.
    rw [stays op reply later kept.1 turned]
    exact ih reply (kept.2 reply)

end Only

/-- A program that answers with a view of its answer performs the same operations. -/
theorem map_call (view : α → β) (op : Op) (next : Reply op → Program Op Reply α) :
    view <$> call op next = call op fun reply => view <$> next reply := rfl

/-- A view of the answer of the second of two programs. -/
theorem map_bind {γ : Type} (view : β → γ) (program : Program Op Reply α)
    (rest : α → Program Op Reply β) :
    view <$> (program >>= rest) = program >>= fun answer => view <$> rest answer := by
  induction program with
  | done answer => rfl
  | call op next ih => exact congrArg (call op) (funext ih)

/-- A view of an answer that shows all of the original one. -/
theorem map_map_self {view : β → α} {other : α → β} (shows : ∀ answer, view (other answer) = answer)
    (program : Program Op Reply α) : view <$> other <$> program = program := by
  induction program with
  | done answer => exact congrArg done (shows answer)
  | call op next ih => exact congrArg (call op) (funext ih)

/-- Programs that go on to views of what others go on to, after the same beginning. -/
theorem bind_viewed {γ : Type} {view : β → γ} {program : Program Op Reply α}
    {rest : α → Program Op Reply γ} {rest' : α → Program Op Reply β}
    (same : ∀ answer, rest answer = view <$> rest' answer) :
    program >>= rest = view <$> (program >>= rest') := by
  rw [map_bind, funext same]

/-- A program that goes on after a view of an answer. -/
theorem bind_map {γ : Type} (view : α → β) (program : Program Op Reply α)
    (rest : β → Program Op Reply γ) :
    (view <$> program) >>= rest = program >>= fun answer => rest (view answer) := by
  induction program with
  | done answer => rfl
  | call op next ih => exact congrArg (call op) (funext ih)

end Program

/-- A store and the programs that run on it, by thread, each with the request that it serves. -/
structure Shared (Op : Type) (Reply : Op → Type) (α σ κ ρ : Type) where
  store : σ
  threads : Dict κ (ρ × Program Op Reply α)

/-- What happens next: a request arrives on a free thread, or a thread performs one operation. -/
inductive Turn (κ ρ ν : Type) where
  | begin (thread : κ) (request : ρ)
  | resume (thread : κ) (nature : ν)

/-- What operations do to the store, unless they have to wait, and how requests are served. -/
structure Service (Op : Type) (Reply : Op → Type) (α σ κ ρ ν : Type) where
  exec : σ → ν → (op : Op) → Option (σ × Reply op)
  serve : σ → κ → ρ → Option (σ × Program Op Reply α)

namespace Shared

variable {Op : Type} {Reply : Op → Type} {α σ κ ρ ν φ : Type} [DecidableEq κ]

/-- One turn; a thread that is done gives its answer and is free again. -/
def step (service : Service Op Reply α σ κ ρ ν) (shared : Shared Op Reply α σ κ ρ) :
    Turn κ ρ ν → Shared Op Reply α σ κ ρ × Option (ρ × α)
  | .begin thread request =>
    match shared.threads.get? thread with
    | some _ => (shared, none)
    | none =>
      match service.serve shared.store thread request with
      | none => (shared, none)
      | some (store, program) => (⟨store, shared.threads.set thread (request, program)⟩, none)
  | .resume thread nature =>
    match shared.threads.get? thread with
    | none => (shared, none)
    | some (request, .done answer) =>
      ({ shared with threads := shared.threads.erase thread }, some (request, answer))
    | some (request, .call op next) =>
      match service.exec shared.store nature op with
      | none => (shared, none)
      | some (store, reply) => (⟨store, shared.threads.set thread (request, next reply)⟩, none)

/-- A run of turns that never faults. -/
def total (service : Service Op Reply α σ κ ρ ν) (shared : Shared Op Reply α σ κ ρ)
    (turn : Turn κ ρ ν) : Except Empty (Shared Op Reply α σ κ ρ × Option (ρ × α)) :=
  .ok (shared.step service turn)

/-- Every thread keeps to the protocol from its phase on. -/
def Phased (protocol : Program.Protocol Op Reply φ) (final : ρ → φ → α → Prop)
    (shared : Shared Op Reply α σ κ ρ) (phases : Dict κ φ) : Prop :=
  ∀ thread,
    match shared.threads.get? thread with
    | none => phases.get? thread = none
    | some (request, program) =>
      ∃ phase, phases.get? thread = some phase ∧ program.Keeps protocol (final request) phase

/-- The operation that a turn performs, with the thread and the reply. -/
def performed (service : Service Op Reply α σ κ ρ ν) (shared : Shared Op Reply α σ κ ρ) :
    Turn κ ρ ν → Option (κ × (op : Op) × Reply op)
  | .begin _ _ => none
  | .resume thread nature =>
    match shared.threads.get? thread with
    | some (_, .call op _) =>
      (service.exec shared.store nature op).map fun result => (thread, ⟨op, result.2⟩)
    | _ => none

/-- One turn together with what somebody notes who sees every operation that is performed. -/
def watch {ω : Type} (service : Service Op Reply α σ κ ρ ν)
    (note : ω → σ → κ → (op : Op) → Reply op → ω) (watched : Shared Op Reply α σ κ ρ × ω)
    (turn : Turn κ ρ ν) : Shared Op Reply α σ κ ρ × ω :=
  ((watched.1.step service turn).1,
    match performed service watched.1 turn with
    | some (thread, ⟨op, reply⟩) => note watched.2 watched.1.store thread op reply
    | none => watched.2)

/-- Every thread keeps to the protocol from the phase it is noted in; a free thread is idle. -/
def Followed (protocol : Program.Protocol Op Reply φ) (final : ρ → φ → α → Prop) (idle : φ)
    (shared : Shared Op Reply α σ κ ρ) (phaseOf : κ → φ) : Prop :=
  ∀ thread,
    match shared.threads.get? thread with
    | none => phaseOf thread = idle
    | some (request, program) => program.Keeps protocol (final request) (phaseOf thread)

section Rules

variable {service : Service Op Reply α σ κ ρ ν} {shared : Shared Op Reply α σ κ ρ}
  {protocol : Program.Protocol Op Reply φ} {final : ρ → φ → α → Prop} {phases : Dict κ φ}

/-- What one turn does: nothing, or it admits a request, answers one, or performs an operation. -/
inductive Turned (service : Service Op Reply α σ κ ρ ν) (shared : Shared Op Reply α σ κ ρ) :
    Turn κ ρ ν → Shared Op Reply α σ κ ρ → Option (ρ × α) → Prop where
  | waited {turn : Turn κ ρ ν} : Turned service shared turn shared none
  | admitted {thread : κ} {request : ρ} {store : σ} {program : Program Op Reply α}
      (free : shared.threads.get? thread = none)
      (served : service.serve shared.store thread request = some (store, program)) :
      Turned service shared (.begin thread request)
        ⟨store, shared.threads.set thread (request, program)⟩ none
  | answered {thread : κ} {nature : ν} {request : ρ} {answer : α}
      (found : shared.threads.get? thread = some (request, .done answer)) :
      Turned service shared (.resume thread nature)
        { shared with threads := shared.threads.erase thread } (some (request, answer))
  | performed {thread : κ} {nature : ν} {request : ρ} {op : Op}
      {next : Reply op → Program Op Reply α} {store : σ} {reply : Reply op}
      (found : shared.threads.get? thread = some (request, .call op next))
      (executed : service.exec shared.store nature op = some (store, reply)) :
      Turned service shared (.resume thread nature)
        ⟨store, shared.threads.set thread (request, next reply)⟩ none

/-- Every turn is one of the four. -/
theorem step_turned (turn : Turn κ ρ ν) :
    Turned service shared turn (shared.step service turn).1 (shared.step service turn).2 := by
  -- A turn begins a request, ends one, performs an operation, or has nothing to do.
  cases turn with
  | begin thread request =>
    cases found : shared.threads.get? thread with
    | some entry => simpa only [step, found] using .waited
    | none =>
      cases served : service.serve shared.store thread request with
      | none => simpa only [step, found, served] using .waited
      | some entry => simpa only [step, found, served] using .admitted found served
  -- A thread goes on with its program, unless it waits.
  | resume thread nature =>
    cases found : shared.threads.get? thread with
    | none => simpa only [step, found] using .waited
    | some entry =>
      obtain ⟨request, program⟩ := entry
      cases program with
      | done answer => simpa only [step, found] using .answered found
      | call op next =>
        cases executed : service.exec shared.store nature op with
        | none => simpa only [step, found, executed] using .waited
        | some entry => simpa only [step, found, executed] using .performed found executed

/-- The phase of a thread that serves a request. -/
theorem Phased.find (phased : shared.Phased protocol final phases) {thread : κ} {request : ρ}
    {program : Program Op Reply α} (found : shared.threads.get? thread = some (request, program)) :
    ∃ phase, phases.get? thread = some phase ∧ program.Keeps protocol (final request) phase := by
  have held := phased thread
  rw [found] at held
  exact held

/-- A thread that is free has no phase. -/
theorem Phased.free (phased : shared.Phased protocol final phases) {thread : κ}
    (free : shared.threads.get? thread = none) : phases.get? thread = none := by
  have held := phased thread
  rw [free] at held
  exact held

/-- A thread takes up a program together with its phase. -/
theorem Phased.set (phased : shared.Phased protocol final phases) {thread : κ} {request : ρ}
    {program : Program Op Reply α} {phase : φ} (store : σ)
    (kept : program.Keeps protocol (final request) phase) :
    Shared.Phased protocol final ⟨store, shared.threads.set thread (request, program)⟩
      (phases.set thread phase) := by
  -- The thread gets its phase, and the others keep theirs.
  intro other
  simp only [Dict.get?_set]
  by_cases same : other = thread
  · simp only [if_pos same]
    exact ⟨phase, rfl, kept⟩
  · simp only [if_neg same]
    exact phased other

/-- A thread gives up its program together with its phase. -/
theorem Phased.erase (phased : shared.Phased protocol final phases) (thread : κ) :
    Shared.Phased protocol final { shared with threads := shared.threads.erase thread }
      (phases.erase thread) := by
  intro other
  simp only [Dict.get?_erase]
  -- The thread has neither, and the others have what they had.
  by_cases same : other = thread
  · simp only [if_pos same]
  · simp only [if_neg same]
    exact phased other

/--
One turn keeps the agreement between the store and the phases, with the phases moved along.

An answer is given in a phase that the protocol lets it be given in.
-/
theorem Phased.step (phased : shared.Phased protocol final phases) (turn : Turn κ ρ ν)
    (agrees : σ → Dict κ φ → Prop) (held : agrees shared.store phases)
    (admits : ∀ thread request store program, turn = .begin thread request →
      phases.get? thread = none → service.serve shared.store thread request = some (store, program) →
      ∃ phase, program.Keeps protocol (final request) phase ∧ agrees store (phases.set thread phase))
    (performs : ∀ thread nature request op next store reply phase,
      turn = .resume thread nature →
      shared.threads.get? thread = some (request, .call op next) →
      phases.get? thread = some phase → protocol.allows phase op →
      service.exec shared.store nature op = some (store, reply) →
      ∃ later, protocol.turns phase op reply later ∧ agrees store (phases.set thread later))
    (answers : ∀ thread request phase answer, phases.get? thread = some phase →
      final request phase answer → agrees shared.store (phases.erase thread)) :
    ∃ phases', (shared.step service turn).1.Phased protocol final phases' ∧
      agrees (shared.step service turn).1.store phases' ∧
      ∀ request answer, (shared.step service turn).2 = some (request, answer) →
        ∃ thread phase, phases.get? thread = some phase ∧ final request phase answer := by
  -- Only an operation moves a phase, and only as the protocol says.
  have turned : Turned service shared turn _ _ := step_turned turn
  generalize shared.step service turn = stepped at turned ⊢
  obtain ⟨after, output⟩ := stepped
  simp only at turned
  cases turned with
  | waited => exact ⟨phases, phased, held, nofun⟩
  | admitted free served =>
    rename_i thread request store program
    obtain ⟨phase, kept, held⟩ := admits _ _ _ _ rfl (phased.free free) served
    exact ⟨phases.set thread phase, phased.set store kept, held, nofun⟩
  | answered found =>
    rename_i thread nature request answer
    obtain ⟨phase, at_phase, kept⟩ := phased.find found
    cases kept with
    | done ended =>
      refine ⟨phases.erase thread, phased.erase thread, answers _ _ _ _ at_phase ended, ?_⟩
      intro request answer given
      cases given
      exact ⟨thread, phase, at_phase, ended⟩
  -- The phase moves with the operation, and the rest of the program keeps to it.
  | performed found executed =>
    rename_i thread nature request op next store reply
    obtain ⟨phase, at_phase, kept⟩ := phased.find found
    cases kept with
    | call allowed kept =>
      obtain ⟨later, turned, held⟩ := performs _ _ _ _ _ _ _ _ rfl found at_phase allowed executed
      exact ⟨phases.set thread later, phased.set store (kept reply later turned), held, nofun⟩

/-- What every turn keeps in agreement, whole runs keep in agreement. -/
theorem Phased.run {agrees : σ → Dict κ φ → Prop}
    (stepped : ∀ {shared : Shared Op Reply α σ κ ρ} {phases : Dict κ φ},
      shared.Phased protocol final phases → agrees shared.store phases →
        ∀ turn : Turn κ ρ ν, ∃ phases', (shared.step service turn).1.Phased protocol final phases' ∧
          agrees (shared.step service turn).1.store phases')
    (turns : List (Turn κ ρ ν)) : ∀ {shared : Shared Op Reply α σ κ ρ} {phases : Dict κ φ},
      shared.Phased protocol final phases → agrees shared.store phases →
        ∃ phases',
          (Machine.runTotal (Shared.step service) shared turns).1.Phased protocol final phases' ∧
          agrees (Machine.runTotal (Shared.step service) shared turns).1.store phases' := by
  -- Each turn finds the store in agreement with some phases, and leaves it so.
  induction turns with
  | nil => exact fun phased held => ⟨_, phased, held⟩
  | cons turn later ih =>
    intro shared phases phased held
    obtain ⟨phases', phased', held'⟩ := stepped phased held turn
    exact ih phased' held'

/-- What admitting a request leaves alone, a turn without an operation leaves alone. -/
theorem store_of_not_performed {β : Type} (view : σ → β)
    (admits : ∀ store thread request store' program,
      service.serve store thread request = some (store', program) → view store' = view store)
    {turn : Turn κ ρ ν} (quiet : performed service shared turn = none) :
    view (shared.step service turn).1.store = view shared.store := by
  -- Without an operation, the store changes with a new request at most.
  have turned : Turned service shared turn _ _ := step_turned turn
  generalize shared.step service turn = stepped at turned ⊢
  obtain ⟨after, output⟩ := stepped
  simp only at turned
  cases turned with
  | waited | answered _ => rfl
  | admitted free served => exact admits _ _ _ _ _ served
  | performed found executed =>
    simp only [performed, found, executed, Option.map_some, reduceCtorEq] at quiet

/-- Watching does not change what happens. -/
theorem watch_store {ω : Type} (note : ω → σ → κ → (op : Op) → Reply op → ω)
    (turns : List (Turn κ ρ ν)) : ∀ watched : Shared Op Reply α σ κ ρ × ω,
      (turns.foldl (watch service note) watched).1 =
        (Machine.runTotal (step service) watched.1 turns).1 := by
  induction turns with
  | nil => exact fun _ => rfl
  | cons turn later ih => exact fun watched => ih (watch service note watched turn)

/-- A free thread is idle. -/
theorem Followed.free {idle : φ} {phaseOf : κ → φ}
    (followed : shared.Followed protocol final idle phaseOf) {thread : κ}
    (free : shared.threads.get? thread = none) : phaseOf thread = idle := by
  have held := followed thread
  rw [free] at held
  exact held

/-- A busy thread keeps to the protocol from the phase it is noted in. -/
theorem Followed.find {idle : φ} {phaseOf : κ → φ}
    (followed : shared.Followed protocol final idle phaseOf) {thread : κ} {request : ρ}
    {program : Program Op Reply α} (found : shared.threads.get? thread = some (request, program)) :
    program.Keeps protocol (final request) (phaseOf thread) := by
  have held := followed thread
  rw [found] at held
  exact held

/-- The other threads stay as they are noted when one thread is stored with its phase. -/
theorem Followed.set {idle : φ} {phaseOf : κ → φ}
    (followed : shared.Followed protocol final idle phaseOf) {thread : κ} {request : ρ}
    {program : Program Op Reply α} {phase : φ} (store : σ)
    (kept : program.Keeps protocol (final request) phase) :
    Followed protocol final idle ⟨store, shared.threads.set thread (request, program)⟩
      (Function.update phaseOf thread phase) := by
  -- The thread gets its phase, and the others keep theirs.
  intro other
  simp only [Dict.get?_set]
  by_cases same : other = thread
  · rw [same, if_pos rfl, Function.update_self]
    exact kept
  · rw [if_neg same, Function.update_of_ne same]
    exact followed other

/--
One turn performs nothing and keeps the phases, or it performs an allowed operation.

In the second case the thread moves on to the phase that the protocol leads it to.
-/
theorem Followed.step {idle : φ} {phaseOf : κ → φ}
    (followed : shared.Followed protocol final idle phaseOf) (turn : Turn κ ρ ν)
    (admits : ∀ thread request store program,
      service.serve shared.store thread request = some (store, program) →
        program.Keeps protocol (final request) idle)
    (ends : ∀ request phase answer, final request phase answer → phase = idle) :
    performed service shared turn = none ∧
        (shared.step service turn).1.Followed protocol final idle phaseOf ∨
      ∃ thread nature op reply store, performed service shared turn = some (thread, ⟨op, reply⟩) ∧
        protocol.allows (phaseOf thread) op ∧
        service.exec shared.store nature op = some (store, reply) ∧
        (shared.step service turn).1.store = store ∧
        ∀ later, protocol.turns (phaseOf thread) op reply later →
          (shared.step service turn).1.Followed protocol final idle
            (Function.update phaseOf thread later) := by
  cases turn with
  | begin thread request =>
    refine .inl ⟨rfl, ?_⟩
    cases found : shared.threads.get? thread with
    | some entry =>
      simp only [Shared.step, found]
      exact followed
    -- A thread without a program has nothing to do.
    | none =>
      cases served : service.serve shared.store thread request with
      | none =>
        simp only [Shared.step, found, served]
        exact followed
      | some entry =>
        -- The new thread was idle, and its program starts from there.
        simp only [Shared.step, found, served]
        have kept := admits thread request entry.1 entry.2 served
        have stored : Followed protocol final idle
            ⟨entry.1, shared.threads.set thread (request, entry.2)⟩
            (Function.update phaseOf thread idle) := followed.set entry.1 kept
        rwa [Function.update_eq_self_iff.mpr (followed.free found).symm] at stored
  | resume thread nature =>
    cases found : shared.threads.get? thread with
    | none =>
      simp only [performed, Shared.step, found]
      exact .inl ⟨trivial, followed⟩
    | some entry =>
      obtain ⟨request, program⟩ := entry
      have kept := followed.find found
      cases kept with
      | @done phase answer ended =>
        simp only [performed, Shared.step, found]
        -- A thread that is done is idle again.
        refine .inl ⟨trivial, fun other => ?_⟩
        simp only [Dict.get?_erase]
        by_cases same : other = thread
        · rw [same, if_pos rfl]
          exact ends request _ answer ended
        · rw [if_neg same]
          exact followed other
      | @call phase op next allowed kept =>
        cases executed : service.exec shared.store nature op with
        | none =>
          simp only [performed, Shared.step, found, executed]
          exact .inl ⟨rfl, followed⟩
        | some result =>
          obtain ⟨store, reply⟩ := result
          refine .inr ⟨thread, nature, op, reply, store, ?_, allowed, executed, ?_, ?_⟩
          · simp only [performed, found, executed, Option.map_some]
          · simp only [Shared.step, found, executed]
          · intro later turned
            simp only [Shared.step, found, executed]
            exact followed.set store (kept reply later turned)

/-- Two systems whose programs are the same, up to a view of their answers. -/
def Viewed {β : Type} (view : α → β) (shared : Shared Op Reply α σ κ ρ)
    (viewed : Shared Op Reply β σ κ ρ) : Prop :=
  viewed.store = shared.store ∧ ∀ thread, viewed.threads.get? thread =
    (shared.threads.get? thread).map fun entry => (entry.1, view <$> entry.2)

/-- The same turn leads to the same, and to the view of the answer. -/
theorem Viewed.step {β : Type} {view : α → β} {service' : Service Op Reply β σ κ ρ ν}
    (execs : service'.exec = service.exec)
    (serves : ∀ store thread request, service'.serve store thread request =
      (service.serve store thread request).map fun served => (served.1, view <$> served.2))
    {viewed : Shared Op Reply β σ κ ρ} (same : Viewed view shared viewed) (turn : Turn κ ρ ν) :
    Viewed view (shared.step service turn).1 (viewed.step service' turn).1 ∧
      (viewed.step service' turn).2 =
        (shared.step service turn).2.map fun output => (output.1, view output.2) := by
  obtain ⟨stored, threads⟩ := same
  cases turn with
  | begin thread request =>
    have here := threads thread
    cases found : shared.threads.get? thread with
    | some entry =>
      rw [found, Option.map_some] at here
      simp only [Shared.step, found, here]
      exact ⟨⟨stored, threads⟩, rfl⟩
    | none =>
      rw [found, Option.map_none] at here
      have begun := serves shared.store thread request
      cases served : service.serve shared.store thread request with
      | none =>
        rw [served, Option.map_none, ← stored] at begun
        simp only [Shared.step, found, here, served, begun]
        exact ⟨⟨stored, threads⟩, rfl⟩
      | some entry =>
        rw [served, Option.map_some, ← stored] at begun
        simp only [Shared.step, found, here, served, begun]
        refine ⟨⟨rfl, fun other => ?_⟩, rfl⟩
        rw [Dict.get?_set, Dict.get?_set]
        split_ifs
        · rfl
        · exact threads other
  | resume thread nature =>
    have here := threads thread
    cases found : shared.threads.get? thread with
    | none =>
      rw [found, Option.map_none] at here
      simp only [Shared.step, found, here]
      exact ⟨⟨stored, threads⟩, rfl⟩
    | some entry =>
      obtain ⟨request, program⟩ := entry
      rw [found, Option.map_some] at here
      cases program with
      | done answer =>
        -- The thread is free afterwards, and its answer is viewed.
        change viewed.threads.get? thread = some (request, .done (view answer)) at here
        simp only [Shared.step, found, here]
        refine ⟨⟨stored, fun other => ?_⟩, rfl⟩
        rw [Dict.get?_erase, Dict.get?_erase]
        split_ifs
        · rfl
        · exact threads other
      | call op next =>
        -- An operation does the same, and the two programs go on alike.
        rw [Program.map_call] at here
        simp only [Shared.step, found, here, execs, stored]
        cases executed : service.exec shared.store nature op with
        | none => exact ⟨⟨stored, threads⟩, rfl⟩
        | some result =>
          refine ⟨⟨rfl, fun other => ?_⟩, rfl⟩
          rw [Dict.get?_set, Dict.get?_set]
          split_ifs
          · rfl
          · exact threads other

/-- The same turns lead to the same, and to the views of the answers. -/
theorem Viewed.run {β : Type} {view : α → β} {service' : Service Op Reply β σ κ ρ ν}
    (execs : service'.exec = service.exec)
    (serves : ∀ store thread request, service'.serve store thread request =
      (service.serve store thread request).map fun served => (served.1, view <$> served.2))
    (turns : List (Turn κ ρ ν)) : ∀ {shared : Shared Op Reply α σ κ ρ}
      {viewed : Shared Op Reply β σ κ ρ}, Viewed view shared viewed →
        Viewed view (Machine.runTotal (Shared.step service) shared turns).1
            (Machine.runTotal (Shared.step service') viewed turns).1 ∧
          (Machine.runTotal (Shared.step service') viewed turns).2 =
            (Machine.runTotal (Shared.step service) shared turns).2.map
              (Option.map fun output => (output.1, view output.2)) := by
  induction turns with
  | nil => exact fun same => ⟨same, rfl⟩
  | cons turn later ih =>
    intro shared viewed same
    -- One turn leads to the same state on both sides, and the others go on from there.
    obtain ⟨next, output⟩ := same.step execs serves turn
    obtain ⟨last, outputs⟩ := ih next
    exact ⟨last, congrArg₂ List.cons output outputs⟩

/-- A request whose operations never wait is answered when its thread goes on alone. -/
theorem answered_alone (ready : ∀ store nature op, (service.exec store nature op).isSome = true)
    (nature : ν) (thread : κ) (request : ρ) : ∀ (program : Program Op Reply α)
      (shared : Shared Op Reply α σ κ ρ), shared.threads.get? thread = some (request, program) →
      ∃ count last outputs answer, Machine.run (total service) shared
        (List.replicate count (.resume thread nature)) = .ok (last, outputs) ∧
          some (request, answer) ∈ outputs := by
  intro program
  induction program with
  | done answer =>
    intro shared found
    refine ⟨1, _, _, answer, rfl, ?_⟩
    simp only [found, List.mem_singleton]
  | call op next ih =>
    intro shared found
    obtain ⟨⟨store, reply⟩, executed⟩ := Option.isSome_iff_exists.mp (ready shared.store nature op)
    obtain ⟨count, last, outputs, answer, ran, member⟩ := ih reply
      ⟨store, shared.threads.set thread (request, next reply)⟩ (by rw [Dict.get?_set, if_pos rfl])
    -- The first operation is followed by the operations of the rest.
    have stepped : total service shared (.resume thread nature) =
        .ok (⟨store, shared.threads.set thread (request, next reply)⟩, none) := by
      simp only [total, step, found, executed]
    refine ⟨count + 1, last, none :: outputs, answer, ?_, List.mem_cons_of_mem _ member⟩
    rw [List.replicate_succ, Machine.run_cons stepped, ran]
    rfl

end Rules

end Shared

end StockMarket
