import Mathlib.Data.Fintype.Order
import StockMarket.Library.Locks
import StockMarket.Matcher.Interleaving

/-! The locks of the matcher: the registry's own one, taken inside those of the books. -/

namespace StockMarket

/-- The reentrant lock of the registry, and one for every book. -/
inductive MatcherLock where
  | registry
  | book (ref : Nat)
  deriving DecidableEq

/-- The registry's lock comes last: whoever holds it reaches for no other one. -/
def MatcherLock.isLast : MatcherLock → Bool
  | .registry => true
  | .book _ => false

/-- Calls on a book, which reads its clock while they run. -/
inductive BookCall where
  | submit (order : Order)
  | cancel (orderId : UUID)
  | read (read : BookRead)
  | openOrderCount

/-- The clock readings of one call. -/
structure ClockReadings where
  now : ℚ
  restAt : ℚ

/-- What a call refuses before it takes the lock of its book. -/
def OrderBook.refusal (book : OrderBook) : BookCall → Option BookError
  | .submit order =>
    if order.symbol ≠ book.symbol then
      some (.valueError ("order symbol must be " ++ book.symbol))
    else none
  | .read (.recentTrades limit) =>
    if limit < 1 then some (.valueError "limit must be at least 1") else none
  | _ => none

/-- What a call does under the lock of its book, with the callbacks that it makes meanwhile. -/
def OrderBook.answerCall (book : OrderBook) (clock : ClockReadings) :
    BookCall → Except Fault (OrderBook × BookReply × List Callback)
  | .submit order => book.perform (.submit order clock.now clock.restAt)
  | .cancel orderId => book.perform (.cancel orderId clock.now)
  | .read read => book.perform (read.toOp clock.now)
  | .openOrderCount => .ok (book, .quantity book.openOrderCount, [])

/-- The steps of registry calls between which other threads may run. -/
inductive MatcherOp where
  | refuse (ref : Nat) (call : BookCall)
  | answerCall (ref : Nat) (call : BookCall)
  | hear (symbol : String) (callback : Callback)
  | get (symbol : String)
  | symbolOf (orderId : UUID)
  | forget (orderId : UUID)
  | rollover (sessionDate : Int)
  | resetBooks
  | openOrderIdCount

/-- What each step tells its thread. -/
abbrev MatcherReply : MatcherOp → Type
  | .refuse .. => Option BookError
  | .answerCall .. => Except Fault (BookReply × String × List Callback)
  | .hear .. => Unit
  | .get _ => Except BookError (Option Nat)
  | .symbolOf _ => Option String
  | .forget _ => Unit
  | .rollover _ => List String
  | .resetBooks => List String
  | .openOrderIdCount => Nat

/-- What a call on a referenced book refuses. -/
def Registry.refusal (registry : Registry) (ref : Nat) (call : BookCall) : Option BookError :=
  match registry.object ref with
  | .error _ => none
  | .ok book => book.refusal call

/--
What a call does to its book, before the registry hears of it.

The callbacks know the symbol that the book was created with.
-/
def Registry.answerCall (registry : Registry) (ref : Nat) (clock : ClockReadings) (call : BookCall) :
    Registry × Except Fault (BookReply × String × List Callback) :=
  match registry.object ref with
  | .error fault => (registry, .error fault)
  | .ok book =>
    match book.answerCall clock call with
    | .error fault => (registry, .error fault)
    | .ok (book', reply, calls) =>
      ({ registry with objects := registry.objects.set ref book' }, .ok (reply, book.symbol, calls))

/-- What one step does to the registry and its books. -/
def MatcherOp.run (owned : Ownership) (registry : Registry) (clock : ClockReadings) :
    (op : MatcherOp) → Registry × MatcherReply op
  | .refuse ref call => (registry, registry.refusal ref call)
  | .answerCall ref call => registry.answerCall ref clock call
  | .hear symbol callback =>
    ({ registry with orderSymbols := Registry.hear symbol registry.orderSymbols callback }, ())
  | .get symbol => registry.get owned symbol
  | .symbolOf orderId => (registry, registry.orderSymbols.get? orderId)
  | .forget orderId => (registry.forget orderId, ())
  | .rollover sessionDate => registry.rollover (some sessionDate)
  | .resetBooks => registry.resetBooks
  | .openOrderIdCount => (registry, registry.openOrderIdCount)

/-- A call as its thread carries it out, with the locks that it takes. -/
abbrev MatcherProgram := LockProgram Nat MatcherLock MatcherOp MatcherReply

namespace MatcherProgram

open LockProgram (withLock)

/-- One step of a call. -/
def step (op : MatcherOp) : MatcherProgram (MatcherReply op) := LockProgram.work op

/-- One step under the registry's lock. -/
def locked (self : Nat) (op : MatcherOp) : MatcherProgram (MatcherReply op) :=
  withLock self .registry (step op)

/-- The callbacks of a book, each of which takes the registry's lock. -/
def runCallbacks (self : Nat) (symbol : String) : List Callback → MatcherProgram Unit
  | [] => return ()
  | callback :: later => do
    locked self (.hear symbol callback)
    runCallbacks self symbol later

/-- One call on a book, whose callbacks run before its lock is released. -/
def onBook (self ref : Nat) (call : BookCall) : MatcherProgram (Except Fault BookReply) := do
  match ← step (.refuse ref call) with
  | some error => return .ok (.raised error)
  | none =>
    withLock self (.book ref) do
      match ← step (.answerCall ref call) with
      | .error fault => return .error fault
      | .ok (reply, symbol, calls) =>
        runCallbacks self symbol calls
        return .ok reply

/-- The reference to a symbol's book, which is created under the registry's lock. -/
def get (owned : Ownership) (self : Nat) (symbol : String) :
    MatcherProgram (Except BookError (Option Nat)) :=
  if ¬ owned.isOwnedSymbol symbol then return .ok none
  else locked self (.get symbol)

/-- Look the book up, let it take the order, and note where the order rests. -/
def submit (owned : Ownership) (self : Nat) (order : Order) :
    MatcherProgram (Except Fault (Except RegistryError BookReply)) := do
  match ← get owned self order.symbol with
  | .error error => return .ok (.error (.book error))
  | .ok none =>
    return .ok (.error (.lookupError ("symbol " ++ order.symbol ++ " is not simulated")))
  | .ok (some ref) => return (← onBook self ref (.submit order)).map .ok

/-- The cancel of an order in its book, after which the registry forgets it. -/
def cancelIn (self ref : Nat) (orderId : UUID) : MatcherProgram (Except Fault BookReply) := do
  match ← onBook self ref (.cancel orderId) with
  | .error fault => return .error fault
  | .ok (.raised (.valueError message)) => return .ok (.raised (.valueError message))
  | .ok reply =>
    -- A cancel that finds nothing forgets the order as well.
    locked self (.forget orderId)
    return .ok reply

/-- Look the symbol of an order up, and cancel the order in the book of that symbol. -/
def cancel (owned : Ownership) (self : Nat) (orderId : UUID) :
    MatcherProgram (Except Fault (Except RegistryError BookReply)) := do
  match ← locked self (.symbolOf orderId) with
  | none => return .ok (.error (.book (.orderNotFound orderId)))
  | some symbol =>
    match ← get owned self symbol with
    | .error error => return .ok (.error (.book error))
    | .ok none => return .ok (.error (.book (.orderNotFound orderId)))
    | .ok (some ref) => return (← cancelIn self ref orderId).map .ok

/-- Clear the books under the registry lock, where a session date is known. -/
def rollover (self : Nat) : Option Int → MatcherProgram (List String)
  | none => return []
  | some sessionDate => locked self (.rollover sessionDate)

/-- Clear all books, under the registry lock. -/
def resetBooks (self : Nat) : MatcherProgram (List String) := locked self .resetBooks

/-- Count the resting orders, under the registry lock. -/
def openOrderIdCount (self : Nat) : MatcherProgram Nat := locked self .openOrderIdCount

/-- A read of the book of a symbol, which is none when the symbol is foreign. -/
def read (owned : Ownership) (self : Nat) (symbol : String) (call : BookCall) :
    MatcherProgram (Except Fault (Except RegistryError BookReply)) := do
  match ← get owned self symbol with
  | .error error => return .ok (.error (.book error))
  | .ok none => return .ok (.error (.lookupError ("symbol " ++ symbol ++ " is not simulated")))
  | .ok (some ref) => return (← onBook self ref call).map .ok

end MatcherProgram

/--
What threads are asked to do.

A call on a reference is one whose thread was given the book earlier, so that a rollover may have
orphaned it since.
-/
inductive MatcherRequest where
  | get (symbol : String)
  | submit (order : Order)
  | cancel (orderId : UUID)
  | rollover (sessionDate : Option Int)
  | resetBooks
  | openOrderIdCount
  | read (symbol : String) (call : BookCall)
  | onBook (ref : Nat) (call : BookCall)

/-- What the requests return or raise. -/
inductive MatcherAnswer where
  | found (result : Except BookError (Option Nat))
  | replied (result : Except Fault (Except RegistryError BookReply))
  | called (result : Except Fault BookReply)
  | cleared (symbols : List String)
  | counted (count : Nat)

/-- The program that serves a request. -/
def MatcherRequest.program (owned : Ownership) (self : Nat) :
    MatcherRequest → MatcherProgram MatcherAnswer
  | .get symbol => return .found (← MatcherProgram.get owned self symbol)
  | .submit order => return .replied (← MatcherProgram.submit owned self order)
  | .cancel orderId => return .replied (← MatcherProgram.cancel owned self orderId)
  | .rollover sessionDate => return .cleared (← MatcherProgram.rollover self sessionDate)
  | .resetBooks => return .cleared (← MatcherProgram.resetBooks self)
  | .openOrderIdCount => return .counted (← MatcherProgram.openOrderIdCount self)
  | .read symbol call => return .replied (← MatcherProgram.read owned self symbol call)
  | .onBook ref call => return .called (← MatcherProgram.onBook self ref call)

/-- The threads of a matcher process, which share one registry. -/
def matcherThreads (owned : Ownership) :=
  LockProgram.service (MatcherOp.run owned) (MatcherRequest.program owned)

namespace MatcherProgram

open LockProgram

/-- Calls take the locks of books before the registry's one. -/
abbrev InOrder {α : Type} (phase : LockPhase Nat MatcherLock) (program : MatcherProgram α) : Prop :=
  Balanced MatcherLock.isLast phase program

variable {α : Type} {self : Nat} {held : List MatcherLock}

/-- The registry's lock may be taken by threads that hold locks of books only. -/
theorem locked_inOrder (books : ∀ lock ∈ held, lock.isLast = false) (op : MatcherOp) :
    InOrder (self, held) (locked self op) :=
  -- Whatever is held is a book's lock, which ranks below the registry's.
  .withLock (.inr fun lock member => Bool.lt_iff.mpr ⟨books lock member, rfl⟩) (.work op)

/-- Callbacks reach for nothing but the registry's lock. -/
theorem runCallbacks_inOrder (books : ∀ lock ∈ held, lock.isLast = false) (symbol : String)
    (calls : List Callback) : InOrder (self, held) (runCallbacks self symbol calls) := by
  induction calls with
  | nil => exact .done ()
  | cons callback later ih =>
    exact (locked_inOrder books _).bind fun _ => ih

/-- A thread without locks may call a book. -/
theorem onBook_inOrder (ref : Nat) (call : BookCall) :
    InOrder (self, []) (onBook self ref call) := by
  -- What is refused is refused before any lock is taken.
  refine (Balanced.work _).bind fun refused => ?_
  cases refused with
  | some error => exact .done _
  | none =>
    -- The lock of the book is the first that the thread takes.
    refine .withLock (.inr fun lock member => absurd member List.not_mem_nil) ?_
    refine (Balanced.work _).bind fun result => ?_
    cases result with
    | error fault => exact .done _
    | ok result =>
      -- The callbacks run while the lock of the book is the only one held.
      refine (runCallbacks_inOrder (fun lock member => ?_) result.2.1 result.2.2).bind
        fun _ => .done _
      rw [List.mem_singleton.mp member]
      rfl

/-- A thread without locks may take the registry's one. -/
theorem locked_free_inOrder (op : MatcherOp) : InOrder (self, []) (locked self op) :=
  locked_inOrder (fun _ member => absurd member List.not_mem_nil) op

/-- Looking a book up takes the registry lock alone. -/
theorem get_inOrder (owned : Ownership) (symbol : String) :
    InOrder (self, []) (get owned self symbol) := by
  unfold get
  split_ifs
  · exact locked_free_inOrder _
  · exact .done _

/-- Submitting takes the registry lock inside the lock of the book. -/
theorem submit_inOrder (owned : Ownership) (order : Order) :
    InOrder (self, []) (submit owned self order) := by
  -- The reference is looked up, and the registry's lock is free again.
  refine (get_inOrder owned order.symbol).bind fun result => ?_
  rcases result with error | _ | ref
  · exact .done _
  · exact .done _
  · exact (onBook_inOrder ref (.submit order)).bind fun _ => .done _

/-- Cancelling in a book takes the registry lock inside the lock of the book. -/
theorem cancelIn_inOrder (ref : Nat) (orderId : UUID) :
    InOrder (self, []) (cancelIn self ref orderId) := by
  refine (onBook_inOrder ref (.cancel orderId)).bind fun result => ?_
  -- The lock of the book is free again when the registry forgets the order.
  have forgets (reply : BookReply) : InOrder (self, []) (do
      locked self (.forget orderId)
      return (.ok reply : Except Fault BookReply)) :=
    (locked_free_inOrder _).bind fun _ => .done _
  rcases result with fault | reply
  · exact .done _
  · cases reply with
    | raised error =>
      cases error with
      | valueError message => exact .done _
      | orderNotFound missing => exact forgets _
    | _ => exact forgets _

/-- Cancelling never waits for a lock that comes before one it holds. -/
theorem cancel_inOrder (owned : Ownership) (orderId : UUID) :
    InOrder (self, []) (cancel owned self orderId) := by
  -- The order's symbol, its book and the book's answer each come with their own locks.
  refine (locked_free_inOrder _).bind fun symbol => ?_
  rcases symbol with _ | symbol
  · exact .done _
  · refine (get_inOrder owned symbol).bind fun result => ?_
    rcases result with error | _ | ref
    · exact .done _
    · exact .done _
    · exact (cancelIn_inOrder ref orderId).bind fun _ => .done _

/-- Reading takes the lock of the book after the registry lock is given back. -/
theorem read_inOrder (owned : Ownership) (symbol : String) (call : BookCall) :
    InOrder (self, []) (read owned self symbol call) := by
  refine (get_inOrder owned symbol).bind fun result => ?_
  -- The book is only locked if there is one.
  rcases result with error | _ | ref
  · exact .done _
  · exact .done _
  · exact (onBook_inOrder ref call).bind fun _ => .done _

/-- A rollover takes the registry lock alone. -/
theorem rollover_inOrder (sessionDate : Option Int) :
    InOrder (self, []) (rollover self sessionDate) := by
  cases sessionDate with
  | none => exact .done _
  | some date => exact locked_free_inOrder _

/-- Every request is served in the order of the locks, and gives back all of them. -/
theorem program_inOrder (owned : Ownership) (self : Nat) (request : MatcherRequest) :
    InOrder (self, []) (request.program owned self) := by
  -- Each request is in order, and gives its answer without locks.
  cases request with
  | get symbol => exact (get_inOrder owned symbol).bind fun _ => .done _
  | submit order => exact (submit_inOrder owned order).bind fun _ => .done _
  | cancel orderId => exact (cancel_inOrder owned orderId).bind fun _ => .done _
  | rollover sessionDate => exact (rollover_inOrder sessionDate).bind fun _ => .done _
  | resetBooks => exact (locked_free_inOrder _).bind fun _ => .done _
  | openOrderIdCount => exact (locked_free_inOrder _).bind fun _ => .done _
  | read symbol call => exact (read_inOrder owned symbol call).bind fun _ => .done _
  | onBook ref call => exact (onBook_inOrder ref call).bind fun _ => .done _

section Alone

variable {owned : Ownership} {clock : ClockReadings} {registry registry' : Registry}

/-- The callbacks change the map of resting orders one after the other. -/
theorem runCallbacks_alone (symbol : String) (calls : List Callback) (registry : Registry) :
    alone (MatcherOp.run owned) clock (runCallbacks self symbol calls) registry =
      ({ registry with
        orderSymbols := calls.foldl (Registry.hear symbol) registry.orderSymbols }, ()) := by
  induction calls generalizing registry with
  | nil => rfl
  | cons callback later ih =>
    -- One callback changes the map, and the others go on from there.
    refine (alone_bind _ _ registry).trans ?_
    exact ih _

/-- A refused call is one that its book refuses as well. -/
theorem answerCall_of_refusal {book : OrderBook} {call : BookCall} {error : BookError}
    (refused : book.refusal call = some error) :
    book.answerCall clock call = .ok (book, .raised error, []) := by
  unfold OrderBook.refusal at refused
  -- A foreign order, or a read without a limit, is refused by the book in the same words.
  split at refused
  · rename_i order
    split_ifs at refused with foreign
    cases refused
    simp [OrderBook.answerCall, OrderBook.perform, OrderBook.submit, foreign, Except.map,
      Answer.reply, BookReply.ofResult, Pure.pure, Except.pure]
  · rename_i limit
    split_ifs at refused with small
    cases refused
    simp [OrderBook.answerCall, OrderBook.perform, BookRead.toOp, OrderBook.recentTradesNewest,
      small, BookReply.ofResult]
  · cases refused

/-- A book that is stored as it was changes nothing. -/
theorem after_same {ref : Nat} {book : OrderBook} (found : registry.object ref = .ok book) :
    registry.after book.symbol ref book [] = registry := by
  have listed : registry.objects[ref]? = some book := by
    unfold Registry.object at found
    split at found
    · rename_i other held
      cases found
      exact held
    · cases found
  have kept : registry.objects.set ref book = registry.objects := by
    refine List.ext_getElem? fun place => ?_
    rw [List.getElem?_set]
    grind
  rw [Registry.after, kept]
  -- Neither the book nor the map of resting orders changes.
  rfl

/-- A call that runs alone does to its book what it does at once, and so do its callbacks. -/
theorem onBook_alone {ref : Nat} {call : BookCall} {book book' : OrderBook} {reply : BookReply}
    {calls : List Callback} (found : registry.object ref = .ok book)
    (carried : book.answerCall clock call = .ok (book', reply, calls)) :
    alone (MatcherOp.run owned) clock (onBook self ref call) registry =
      (registry.after book.symbol ref book' calls, .ok reply) := by
  have asked : alone (MatcherOp.run owned) clock (step (.refuse ref call)) registry =
      (registry, book.refusal call) := by
    show (registry, registry.refusal ref call) = _
    rw [Registry.refusal, found]
  -- The book is asked first whether it refuses the call.
  refine (alone_bind _ _ registry).trans ?_
  rw [asked]
  cases refused : book.refusal call with
  | some error =>
    -- The book is stored as it was.
    rw [answerCall_of_refusal refused] at carried
    cases carried
    rw [after_same found]
    rfl
  | none =>
    have done : alone (MatcherOp.run owned) clock (step (.answerCall ref call)) registry =
        ({ registry with objects := registry.objects.set ref book' },
          .ok (reply, book.symbol, calls)) := by
      show registry.answerCall ref clock call = _
      rw [Registry.answerCall, found]
      simp only [carried]
    -- The lock changes nothing, and the callbacks follow the book's answer.
    refine (alone_withLock _ _ _ registry).trans ?_
    refine (alone_bind _ _ registry).trans ?_
    rw [done]
    refine (alone_bind _ _ _).trans ?_
    rw [runCallbacks_alone]
    rfl

/-- A call that runs alone is the call of the registry that runs at once. -/
theorem onBook_call {ref : Nat} {call : BookCall} {op : BookOp} {reply : BookReply}
    {calls : List Callback} (does : ∀ book : OrderBook, book.answerCall clock call = book.perform op)
    (called : registry.call ref op = .ok (registry', reply, calls)) :
    alone (MatcherOp.run owned) clock (onBook self ref call) registry = (registry', .ok reply) := by
  -- The book that is referenced does the call.
  obtain ⟨book, found, ran⟩ := Outcome.bind_eq_ok called
  obtain ⟨⟨book', reply', calls'⟩, performed, stored⟩ := Outcome.bind_eq_ok ran
  cases stored
  exact onBook_alone found ((does book).trans performed)

/-- A thread that runs alone looks a book up as the registry does. -/
theorem get_alone (symbol : String) :
    alone (MatcherOp.run owned) clock (get owned self symbol) registry =
      registry.get owned symbol := by
  unfold get
  -- Foreign symbols have no book.
  split_ifs with known
  · rfl
  · rw [Registry.get, if_pos known]
    rfl

/-- A submit that runs alone is the submit that runs at once. -/
theorem submit_alone {order : Order} {result : Except RegistryError BookReply}
    (submitted : registry.submit owned order clock.now clock.restAt = .ok (registry', result)) :
    alone (MatcherOp.run owned) clock (submit owned self order) registry =
      (registry', .ok result) := by
  refine (alone_bind _ _ registry).trans ?_
  rw [get_alone]
  unfold Registry.submit at submitted
  -- The book is got first, in the same way on both sides.
  generalize registry.get owned order.symbol = got at submitted ⊢
  -- No book is got, and nothing is submitted.
  obtain ⟨found, error | _ | ref⟩ := got
  · cases submitted
    rfl
  · cases submitted
    rfl
  · obtain ⟨⟨registry', reply, calls⟩, called, answered⟩ := Outcome.bind_eq_ok submitted
    cases answered
    refine (alone_bind _ _ found).trans ?_
    rw [onBook_call (fun _ => rfl) called]
    rfl

/-- A cancel raises nothing but that its order was not found. -/
theorem cancel_raised {book book' : OrderBook} {orderId : UUID} {now : ℚ} {error : BookError}
    {calls : List Callback}
    (performed : book.perform (.cancel orderId now) = .ok (book', .raised error, calls)) :
    error = .orderNotFound orderId := by
  -- A cancel expires what is due, and then takes the order out.
  obtain ⟨answer, canceled, shown⟩ := Outcome.map_eq_ok performed
  obtain ⟨⟨expired, _⟩, _, taken⟩ := Outcome.bind_eq_ok canceled
  obtain ⟨⟨taken', result⟩, took, answered⟩ := Outcome.bind_eq_ok taken
  cases answered
  simp only [Answer.reply, Prod.mk.injEq] at shown
  unfold OrderBook.takeOut at took
  -- Either there is no such order, or it is taken out and nothing is raised.
  split at took
  · cases took
    exact (BookReply.raised.inj shown.2.1).symm
  · obtain ⟨⟨heap, side⟩, _, stored⟩ := Outcome.bind_eq_ok took
    cases stored
    cases shown.2.1

/-- A cancel forgets its order whether it was found or not. -/
theorem cancelIn_alone {ref : Nat} {orderId : UUID} {reply : BookReply} {calls : List Callback}
    (called : registry.call ref (.cancel orderId clock.now) = .ok (registry', reply, calls)) :
    alone (MatcherOp.run owned) clock (cancelIn self ref orderId) registry =
      (registry'.forget orderId, .ok reply) := by
  refine (alone_bind _ _ registry).trans ?_
  rw [onBook_call (fun _ => rfl) called]
  -- Whatever the reply is, the registry forgets the order.
  cases reply with
  | raised error =>
    obtain ⟨book, _, ran⟩ := Outcome.bind_eq_ok called
    obtain ⟨⟨book', reply', calls'⟩, performed, stored⟩ := Outcome.bind_eq_ok ran
    cases stored
    rw [cancel_raised performed]
    rfl
  | _ => rfl

/-- A cancel that runs alone is the cancel that runs at once. -/
theorem cancel_alone {orderId : UUID} {result : Except RegistryError BookReply}
    (canceled : registry.cancel owned orderId clock.now = .ok (registry', result)) :
    alone (MatcherOp.run owned) clock (cancel owned self orderId) registry =
      (registry', .ok result) := by
  refine (alone_bind _ _ registry).trans ?_
  have asked : alone (MatcherOp.run owned) clock (locked self (.symbolOf orderId)) registry =
      (registry, registry.orderSymbols.get? orderId) := rfl
  rw [asked]
  unfold Registry.cancel at canceled
  cases found : registry.orderSymbols.get? orderId with
  | none =>
    rw [found] at canceled
    cases canceled
    rfl
  | some symbol =>
    rw [found] at canceled
    -- The order rests in the book of a symbol, which is got like any other.
    refine (alone_bind _ _ registry).trans ?_
    rw [get_alone]
    simp only at canceled
    generalize registry.get owned symbol = got at canceled ⊢
    obtain ⟨created, error | _ | ref⟩ := got
    · cases canceled
      rfl
    · cases canceled
      rfl
    · obtain ⟨⟨after, reply, calls⟩, called, answered⟩ := Outcome.bind_eq_ok canceled
      cases answered
      refine (alone_bind _ _ created).trans ?_
      rw [cancelIn_alone called]
      rfl

end Alone

end MatcherProgram

/--
No threads of the matcher ever wait for each other's locks.

A thread that waits for the lock of a book does not hold the registry's one.
-/
theorem matcher_never_deadlocks (owned : Ownership) (registry : Registry)
    (turns : List (Turn Nat MatcherRequest ClockReadings)) :
    let system := (Machine.runTotal (Shared.step (matcherThreads owned))
      (LockProgram.idle registry) turns).1
    ¬ LockProgram.Deadlocked system ∧
      ∀ thread ref holder, LockProgram.WaitsFor system thread (.book ref) holder →
        system.store.locks.depth thread .registry = 0 := by
  intro system
  have agrees : ∃ phases, system.Phased (LockProgram.protocol MatcherLock.isLast)
      LockProgram.Freed phases ∧ LockProgram.Holding system.store.locks phases :=
    -- Every request takes its locks in order.
    LockProgram.run_holding (MatcherProgram.program_inOrder owned) turns registry
  obtain ⟨phases, phased, holding⟩ := agrees
  refine ⟨LockProgram.not_deadlocked phased holding, fun thread ref holder waits => ?_⟩
  -- A thread that held the registry's lock could only wait for a lock that ranks above it.
  by_contra held
  have above : true < false :=
    LockProgram.waits_above phased holding waits (Nat.pos_of_ne_zero held)
  exact absurd above (by decide)

end StockMarket
