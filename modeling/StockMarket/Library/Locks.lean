import Mathlib.Order.WellFounded
import StockMarket.Library.Program

/-! Reentrant locks that threads wait for, and why locks taken in order leave no thread stuck. -/

namespace StockMarket

/-- Who holds each lock that is held, and how many times over. -/
abbrev LockTable (κ ℓ : Type) := Dict ℓ (κ × Nat)

namespace LockTable

variable {κ ℓ : Type} [DecidableEq κ] [DecidableEq ℓ]

/-- How many times over a thread holds a lock. -/
def depth (table : LockTable κ ℓ) (thread : κ) (lock : ℓ) : Nat :=
  match table.get? lock with
  | some (owner, count) => if owner = thread then count else 0
  | none => 0

/-- A lock that is free or held already is acquired; the thread waits for any other one. -/
def acquire (table : LockTable κ ℓ) (thread : κ) (lock : ℓ) : Option (LockTable κ ℓ) :=
  match table.get? lock with
  | none => some (table.set lock (thread, 1))
  | some (owner, count) =>
    if owner = thread then some (table.set lock (thread, count + 1)) else none

/-- A lock becomes free when it is released as often as it was acquired. -/
def release (table : LockTable κ ℓ) (thread : κ) (lock : ℓ) : LockTable κ ℓ :=
  match table.get? lock with
  | none => table
  | some (owner, count) =>
    if owner ≠ thread then table
    else if count = 1 then table.erase lock
    else table.set lock (thread, count - 1)

/-- A lock that is listed as held is held at least once. -/
def Sound (table : LockTable κ ℓ) : Prop :=
  ∀ lock owner count, table.get? lock = some (owner, count) → 0 < count

variable {table acquired : LockTable κ ℓ} {thread other : κ} {lock : ℓ}

/-- An acquired lock is held once more, and nothing else changes. -/
theorem depth_acquire (took : table.acquire thread lock = some acquired) (other : κ) (held : ℓ) :
    acquired.depth other held =
      table.depth other held + if other = thread ∧ lock = held then 1 else 0 := by
  -- Either the lock was free, or the thread holds it once more.
  unfold acquire at took
  split at took
  · rename_i free
    cases took
    simp only [depth, Dict.get?_set]
    grind
  · rename_i owner count found
    split_ifs at took with own
    cases took
    simp only [depth, Dict.get?_set]
    grind

/-- Every lock that is listed stays held at least once. -/
theorem Sound.acquire (sound : table.Sound) (took : table.acquire thread lock = some acquired) :
    acquired.Sound := by
  -- A lock is put down with one hold, or with one more than it had.
  intro held owner count found
  unfold LockTable.acquire at took
  split at took
  · cases took
    grind [Sound]
  · split_ifs at took with own
    cases took
    grind [Sound]

/-- A lock that is held is released once, and nothing else changes. -/
theorem depth_release (sound : table.Sound) (held : 0 < table.depth thread lock)
    (other : κ) (inner : ℓ) :
    (table.release thread lock).depth other inner +
      (if other = thread ∧ lock = inner then 1 else 0) = table.depth other inner := by
  -- The thread holds the lock, so that one of its holds goes.
  unfold release
  split
  · rename_i free
    simp [depth, free] at held
  · rename_i owner count found
    have counted := sound lock owner count found
    simp only [depth] at held ⊢
    split_ifs <;> grind

/-- A lock that is no longer held is no longer listed. -/
theorem Sound.release (sound : table.Sound) (thread : κ) (lock : ℓ) :
    (table.release thread lock).Sound := by
  -- An entry with no hold left is taken out, and the others keep what they have.
  intro held owner count found
  unfold LockTable.release at found
  split at found
  · exact sound held owner count found
  · rename_i owner' count' listed
    have counted := sound lock owner' count' listed
    split_ifs at found with foreign last
    · -- Another thread's lock is left as it is.
      exact sound held owner count found
    · grind [Sound]
    · grind [Sound]

/-- The thread that holds a lock is listed as its owner. -/
theorem owner_of_depth_pos (held : 0 < table.depth thread lock) :
    ∃ count, table.get? lock = some (thread, count) := by
  unfold depth at held
  split at held
  · rename_i owner count found
    split_ifs at held with own
    · -- The owner is the thread itself, as it would have no hold otherwise.
      exact ⟨count, own ▸ found⟩
    · exact absurd held (lt_irrefl 0)
  · exact absurd held (lt_irrefl 0)

/-- A thread never waits for a lock that it holds itself. -/
theorem acquire_of_held (held : 0 < table.depth thread lock) : table.acquire thread lock ≠ none := by
  obtain ⟨count, found⟩ := owner_of_depth_pos held
  simp [acquire, found]

end LockTable

/-- Acquire or release a lock, on behalf of a thread, or do something else. -/
inductive LockOp (κ ℓ Op : Type) where
  | acquire (thread : κ) (lock : ℓ)
  | release (thread : κ) (lock : ℓ)
  | work (op : Op)

/-- Locks reply nothing. -/
def LockReply {κ ℓ Op : Type} (Reply : Op → Type) : LockOp κ ℓ Op → Type
  | .acquire .. => Unit
  | .release .. => Unit
  | .work op => Reply op

/-- Locks, and the data that threads work on. -/
structure Locked (κ ℓ δ : Type) where
  locks : LockTable κ ℓ
  data : δ

/-- A program whose threads acquire and release locks. -/
abbrev LockProgram (κ ℓ Op : Type) (Reply : Op → Type) :=
  Program (LockOp κ ℓ Op) (LockReply (κ := κ) (ℓ := ℓ) Reply)

/-- A thread holds its locks, the newest first. -/
abbrev LockPhase (κ ℓ : Type) := κ × List ℓ

namespace LockProgram

variable {κ ℓ Op : Type} {Reply : Op → Type} {α β δ ν ρ η : Type}

/-- One operation on the data. -/
def work (op : Op) : LockProgram κ ℓ Op Reply (Reply op) := .call (.work op) .done

/-- A program that runs while its thread holds a lock, which it releases at the end. -/
def withLock (thread : κ) (lock : ℓ) (body : LockProgram κ ℓ Op Reply α) :
    LockProgram κ ℓ Op Reply α :=
  .call (.acquire thread lock) fun _ =>
    body >>= fun answer => .call (.release thread lock) fun _ => .done answer

/--
The order in which locks are acquired, and how the locks of a thread change.

A lock that is not held yet must rank above all that are; the newest one is released first.
-/
def protocol [LT η] (rank : ℓ → η) :
    Program.Protocol (LockOp κ ℓ Op) (LockReply (κ := κ) (ℓ := ℓ) Reply) (LockPhase κ ℓ) where
  allows
    | (self, held), .acquire thread lock =>
      thread = self ∧ (lock ∈ held ∨ ∀ inner ∈ held, rank inner < rank lock)
    | (self, held), .release thread lock => thread = self ∧ held.head? = some lock
    | _, .work _ => True
  turns
    | (self, held), .acquire _ lock, _, later => later = (self, lock :: held)
    | (self, held), .release _ _, _, later => later = (self, held.tail)
    | phase, .work _, _, later => later = phase

/-- A program acquires locks in order and ends with the locks that it began with. -/
def Balanced [LT η] (rank : ℓ → η) (phase : LockPhase κ ℓ)
    (program : LockProgram κ ℓ Op Reply α) : Prop :=
  Program.Keeps (protocol rank) (fun last _ => last = phase) phase program

section Balanced

variable [LT η] {rank : ℓ → η} {phase : LockPhase κ ℓ}

/-- A program that is done has kept its locks. -/
theorem Balanced.done (answer : α) :
    Balanced rank phase (.done answer : LockProgram κ ℓ Op Reply α) := Program.Keeps.done rfl

/-- Balanced programs may follow each other. -/
theorem Balanced.bind {program : LockProgram κ ℓ Op Reply α} {rest : α → LockProgram κ ℓ Op Reply β}
    (first : Balanced rank phase program) (second : ∀ answer, Balanced rank phase (rest answer)) :
    Balanced rank phase (program >>= rest) := by
  refine Program.Keeps.bind first fun last answer same => ?_
  rw [same]
  exact second answer

/-- Work on the data leaves the locks alone. -/
theorem Balanced.work (op : Op) :
    Balanced rank phase (LockProgram.work op : LockProgram κ ℓ Op Reply (Reply op)) := by
  -- The locks are the same afterwards.
  refine Program.Keeps.call trivial fun reply later kept => ?_
  exact .done kept

/-- A lock in its place may be held around a balanced program. -/
theorem Balanced.withLock {self : κ} {held : List ℓ} {lock : ℓ}
    {body : LockProgram κ ℓ Op Reply α}
    (ordered : lock ∈ held ∨ ∀ inner ∈ held, rank inner < rank lock)
    (balanced : Balanced rank (self, lock :: held) body) :
    Balanced rank (self, held) (withLock self lock body) := by
  -- The lock is pushed on the list, where the body leaves it, and popped again.
  refine Program.Keeps.call ⟨rfl, ordered⟩ fun _ later pushed => ?_
  rw [show later = (self, lock :: held) from pushed]
  refine Program.Keeps.bind balanced fun last answer same => ?_
  rw [same]
  exact .call ⟨rfl, rfl⟩ fun _ later popped => .done popped

end Balanced

/-- What a program does to the data, and answers, when no other thread runs. -/
def alone (does : δ → ν → (op : Op) → δ × Reply op) (nature : ν) :
    LockProgram κ ℓ Op Reply α → δ → δ × α
  | .done answer, data => (data, answer)
  | .call (.acquire ..) next, data => alone does nature (next ()) data
  | .call (.release ..) next, data => alone does nature (next ()) data
  | .call (.work op) next, data =>
    let (data, reply) := does data nature op
    alone does nature (next reply) data

section Alone

variable {does : δ → ν → (op : Op) → δ × Reply op} {nature : ν}

/-- Programs that follow each other do so when they run alone. -/
theorem alone_bind (program : LockProgram κ ℓ Op Reply α) (rest : α → LockProgram κ ℓ Op Reply β) :
    ∀ data, alone does nature (program >>= rest) data =
      alone does nature (rest (alone does nature program data).2)
        (alone does nature program data).1 := by
  -- The induction is on the program, and locks change nothing of the data.
  induction program with
  | done answer => exact fun _ => rfl
  | call op next ih =>
    intro data
    cases op with
    | acquire thread lock => exact ih () data
    | release thread lock => exact ih () data
    | work op => exact ih (does data nature op).2 (does data nature op).1

/-- A thread that runs alone does not notice its locks. -/
theorem alone_withLock (self : κ) (lock : ℓ) (body : LockProgram κ ℓ Op Reply α) (data : δ) :
    alone does nature (withLock self lock body) data = alone does nature body data := by
  show alone does nature (body >>= _) data = _
  rw [alone_bind]
  rfl

end Alone

section Run

variable [DecidableEq κ] [DecidableEq ℓ]

/-- What an operation does to the locks and to the data, unless its thread has to wait. -/
def exec (does : δ → ν → (op : Op) → δ × Reply op) (store : Locked κ ℓ δ) (nature : ν) :
    (op : LockOp κ ℓ Op) → Option (Locked κ ℓ δ × LockReply (κ := κ) (ℓ := ℓ) Reply op)
  | .acquire thread lock =>
    (store.locks.acquire thread lock).map fun locks => ({ store with locks }, ())
  | .release thread lock => some ({ store with locks := store.locks.release thread lock }, ())
  | .work op =>
    let (data, reply) := does store.data nature op
    some ({ store with data }, reply)

/-- Threads that serve requests by programs with locks. -/
def service {κ ℓ Op : Type} {Reply : Op → Type} {α δ ν ρ : Type} [DecidableEq κ] [DecidableEq ℓ]
    (does : δ → ν → (op : Op) → δ × Reply op) (program : κ → ρ → LockProgram κ ℓ Op Reply α) :
    Service (LockOp κ ℓ Op) (LockReply (κ := κ) (ℓ := ℓ) Reply) α (Locked κ ℓ δ) κ ρ ν where
  exec := exec does
  serve := fun store thread request => some (store, program thread request)

/-- Threads that work on data under locks. -/
abbrev System (κ ℓ Op : Type) (Reply : Op → Type) (α δ ρ : Type) :=
  Shared (LockOp κ ℓ Op) (LockReply (κ := κ) (ℓ := ℓ) Reply) α (Locked κ ℓ δ) κ ρ

/-- No thread runs and no lock is held. -/
def idle (data : δ) : System κ ℓ Op Reply α δ ρ := ⟨⟨.empty, data⟩, .empty⟩

/-- A thread is stopped at a lock, which some thread holds. -/
def WaitsFor (system : System κ ℓ Op Reply α δ ρ) (thread : κ) (lock : ℓ) (holder : κ) : Prop :=
  (∃ request next, system.threads.get? thread = some (request, .call (.acquire thread lock) next)) ∧
    system.store.locks.acquire thread lock = none ∧ 0 < system.store.locks.depth holder lock

/-- Some threads wait for locks that others of them hold. -/
def Deadlocked (system : System κ ℓ Op Reply α δ ρ) : Prop :=
  ∃ stuck : Set κ, stuck.Nonempty ∧ ∀ thread ∈ stuck, ∃ lock, ∃ holder ∈ stuck,
    holder ≠ thread ∧ WaitsFor system thread lock holder

/-- The table of locks agrees with the locks that the threads hold according to their phases. -/
structure Holding (locks : LockTable κ ℓ) (phases : Dict κ (LockPhase κ ℓ)) : Prop where
  sound : locks.Sound
  own : ∀ thread phase, phases.get? thread = some phase → phase.1 = thread
  depth_eq : ∀ thread lock, locks.depth thread lock =
    ((phases.get? thread).map fun phase => phase.2.count lock).getD 0

variable {locks locks' : LockTable κ ℓ} {phases : Dict κ (LockPhase κ ℓ)} {thread : κ}
  {lock : ℓ} {held : List ℓ}

/-- A thread holds the locks of its phase. -/
theorem Holding.depth (holding : Holding locks phases)
    (found : phases.get? thread = some (thread, held)) (lock : ℓ) :
    locks.depth thread lock = held.count lock := by
  -- The table counts what the phase lists.
  rw [holding.depth_eq, found]
  rfl

/-- A thread moves on to the locks that it holds now, while the others keep theirs. -/
theorem Holding.set (holding : Holding locks phases) (sound : locks'.Sound)
    (others : ∀ other, other ≠ thread → ∀ lock, locks'.depth other lock = locks.depth other lock)
    (now : ∀ lock, locks'.depth thread lock = held.count lock) :
    Holding locks' (phases.set thread (thread, held)) := by
  refine ⟨sound, fun other phase found => ?_, fun other lock => ?_⟩
  · rw [Dict.get?_set] at found
    -- The thread itself moves on to the phase that it is given.
    split_ifs at found with same
    · cases found
      exact same.symm
    · exact holding.own other phase found
  · rw [Dict.get?_set]
    split_ifs with same
    · rw [same]
      exact now lock
    · rw [others other same lock]
      exact holding.depth_eq other lock

/-- A thread that ends without locks leaves the table as it is. -/
theorem Holding.erase (holding : Holding locks phases)
    (found : phases.get? thread = some (thread, [])) : Holding locks (phases.erase thread) := by
  -- The thread held nothing, so that nothing is held by nobody.
  refine ⟨holding.sound, fun other phase kept => ?_, fun other lock => ?_⟩
  · rw [Dict.get?_erase] at kept
    split_ifs at kept with same
    exact holding.own other phase kept
  · rw [Dict.get?_erase]
    split_ifs with same
    · rw [same]
      exact holding.depth found lock
    · exact holding.depth_eq other lock

/-- An acquired lock becomes the newest one of its thread. -/
theorem Holding.acquire (holding : Holding locks phases)
    (found : phases.get? thread = some (thread, held))
    (took : locks.acquire thread lock = some locks') :
    Holding locks' (phases.set thread (thread, lock :: held)) := by
  refine holding.set (holding.sound.acquire took) (fun other differs inner => ?_) fun inner => ?_
  · -- Nobody else gets the lock.
    rw [LockTable.depth_acquire took, if_neg fun both => differs both.1, Nat.add_zero]
  · rw [LockTable.depth_acquire took, holding.depth found, List.count_cons]
    simp only [true_and, beq_iff_eq]

/-- The newest lock of a thread is released. -/
theorem Holding.release (holding : Holding locks phases)
    (found : phases.get? thread = some (thread, lock :: held)) :
    Holding (locks.release thread lock) (phases.set thread (thread, held)) := by
  -- The lock is held, so that it is released exactly once.
  have taken : 0 < locks.depth thread lock := by
    rw [holding.depth found, List.count_cons_self]
    exact Nat.succ_pos _
  have released := LockTable.depth_release holding.sound taken
  refine holding.set (holding.sound.release thread lock) (fun other differs inner => ?_)
    fun inner => ?_
  · have counted := released other inner
    -- Nobody else loses a lock.
    rwa [if_neg fun both => differs both.1, Nat.add_zero] at counted
  · have counted := released thread inner
    rw [holding.depth found, List.count_cons] at counted
    simp only [true_and, beq_iff_eq] at counted
    exact Nat.add_right_cancel counted

/-- A request ends when its thread holds no locks. -/
def Freed (_ : ρ) (phase : LockPhase κ ℓ) (_ : α) : Prop := phase.2 = []

/-- A thread that waits for a lock holds only locks that rank below it. -/
theorem waits_above [LT η] {rank : ℓ → η} {system : System κ ℓ Op Reply α δ ρ}
    (phased : system.Phased (protocol rank) Freed phases)
    (holding : Holding system.store.locks phases) {holder : κ}
    (waits : WaitsFor system thread lock holder) {inner : ℓ}
    (taken : 0 < system.store.locks.depth thread inner) : rank inner < rank lock := by
  -- The thread is stopped at an operation that its protocol allows.
  obtain ⟨⟨request, next, running⟩, stopped, _⟩ := waits
  obtain ⟨phase, found, kept⟩ := phased.find running
  obtain ⟨self, held⟩ := phase
  obtain rfl : self = thread := holding.own _ _ found
  cases kept with
  | call allowed _ =>
    -- The thread does not hold the lock, since it would not wait for it then.
    obtain ⟨_, again | above⟩ := allowed
    · refine absurd stopped (LockTable.acquire_of_held ?_)
      rw [holding.depth found]
      exact List.count_pos_iff.mpr again
    · -- All locks that it holds rank below.
      rw [holding.depth found] at taken
      exact above inner (List.count_pos_iff.mp taken)

/-- Threads that acquire locks in order are never stuck together. -/
theorem not_deadlocked [Preorder η] [WellFoundedGT η] {rank : ℓ → η}
    {system : System κ ℓ Op Reply α δ ρ} (phased : system.Phased (protocol rank) Freed phases)
    (holding : Holding system.store.locks phases) : ¬ Deadlocked system := by
  rintro ⟨stuck, ⟨first, member⟩, waiting⟩
  -- Among the locks that are waited for there is one of the highest rank.
  let ranks : Set η := { high | ∃ thread ∈ stuck, ∃ lock, ∃ holder ∈ stuck,
    WaitsFor system thread lock holder ∧ rank lock = high }
  have some_rank : ranks.Nonempty := by
    obtain ⟨lock, holder, inside, _, waits⟩ := waiting first member
    exact ⟨rank lock, first, member, lock, holder, inside, waits, rfl⟩
  obtain ⟨_, ⟨thread, _, lock, holder, inside, waits, rfl⟩, highest⟩ :=
    wellFounded_gt.has_min ranks some_rank
  -- Its holder waits for a lock that ranks higher still.
  obtain ⟨lock', holder', inside', _, waits'⟩ := waiting holder inside
  have above : rank lock < rank lock' := waits_above phased holding waits' waits.2.2
  exact highest (rank lock') ⟨holder, inside, lock', holder', inside', waits', rfl⟩ above

variable {does : δ → ν → (op : Op) → δ × Reply op} {program : κ → ρ → LockProgram κ ℓ Op Reply α}

/-- Every turn keeps the agreement between the table and the threads. -/
theorem step_holding [LT η] {rank : ℓ → η}
    (balanced : ∀ thread request, Balanced rank (thread, []) (program thread request))
    {system : System κ ℓ Op Reply α δ ρ} (phased : system.Phased (protocol rank) Freed phases)
    (holding : Holding system.store.locks phases) (turn : Turn κ ρ ν) :
    ∃ phases', (system.step (service does program) turn).1.Phased (protocol rank) Freed phases' ∧
      Holding (system.step (service does program) turn).1.store.locks phases' := by
  refine (phased.step turn (fun store => Holding store.locks) holding ?_ ?_ ?_).imp
    fun phases' held => ⟨held.1, held.2.1⟩
  · -- A new thread holds no locks, and its program is balanced.
    intro thread request store served _ free admitted
    cases admitted
    refine ⟨(thread, []), (balanced thread request).weaken fun last answer same => ?_, ?_⟩
    · rw [same]
      rfl
    · refine holding.set holding.sound (fun _ _ _ => rfl) fun lock => ?_
      rw [holding.depth_eq, free]
      rfl
  · -- An operation moves the locks of its thread as the protocol says.
    intro thread nature request op next store reply phase _ _ found allowed executed
    obtain ⟨self, held⟩ := phase
    obtain rfl : self = thread := holding.own _ _ found
    cases op with
    | acquire taker lock =>
      obtain ⟨rfl, _⟩ := allowed
      obtain ⟨locks, took, stored⟩ := Option.map_eq_some_iff.mp executed
      cases stored
      exact ⟨_, rfl, holding.acquire found took⟩
    -- Only the newest lock of a thread is given back.
    | release giver lock =>
      obtain ⟨rfl, newest⟩ := allowed
      obtain ⟨held, rfl⟩ := List.head?_eq_some_iff.mp newest
      cases executed
      exact ⟨_, rfl, holding.release found⟩
    | work op =>
      cases executed
      exact ⟨_, rfl, holding.set holding.sound (fun _ _ _ => rfl) (holding.depth found)⟩
  · -- An answer is given without locks.
    intro thread request phase answer found ended
    obtain ⟨self, held⟩ := phase
    obtain rfl : self = thread := holding.own _ _ found
    obtain rfl : held = [] := ended
    exact holding.erase found

/-- The threads of every run hold the locks that the table says. -/
theorem run_holding [LT η] {rank : ℓ → η}
    (balanced : ∀ thread request, Balanced rank (thread, []) (program thread request))
    (turns : List (Turn κ ρ ν)) (data : δ) :
    ∃ phases,
      (Machine.runTotal (Shared.step (service does program)) (idle data) turns).1.Phased
        (protocol rank) Freed phases ∧
      Holding (Machine.runTotal (Shared.step (service does program)) (idle data) turns).1.store.locks
        phases := by
  let Agrees (system : System κ ℓ Op Reply α δ ρ) : Prop :=
    ∃ phases, system.Phased (protocol rank) Freed phases ∧ Holding system.store.locks phases
  -- Nothing is held at first, and every turn keeps the agreement.
  have empty : Agrees (idle data) := by
    refine ⟨.empty, fun thread => Dict.get?_empty thread, ?_⟩
    -- There are no phases and no locks.
    refine ⟨fun _ _ _ found => ?_, fun _ _ found => ?_, fun _ _ => rfl⟩
    · cases found
    · cases found
  refine Machine.runTotal_history (fun _ => Agrees) (fun _ system turn held => ?_) turns [] _ empty
  obtain ⟨phases, phased, holding⟩ := held
  exact step_holding balanced phased holding turn

end Run

end LockProgram

end StockMarket
