import StockMarket.Matcher.CallLaws
import StockMarket.Matcher.Interleaving

/-! What one section of any call does, whatever other calls are in progress. -/

namespace StockMarket

/-- An identifier that a book holds is held by a book of this symbol. -/
def Registry.Named (registry : Registry) (orderId : UUID) (symbol : String) : Prop :=
  ∀ (ref : Nat) (book : OrderBook), registry.objects[ref]? = some book →
    orderId ∈ book.plain.ids → book.symbol = symbol

/-- The identifier that a cancel in progress is about. -/
def Pending.names : Pending → UUID → Prop
  | .locating named _, orderId => orderId = named
  | .canceling named _, orderId => orderId = named
  | .forgetting named, orderId => orderId = named
  | _, _ => False

/-- What a call in progress may rely on, although other calls have run since its last section. -/
def PendingOk (registry : Registry) : Pending → Prop
  | .submitting order ref => ∃ book, registry.objects[ref]? = some book ∧ book.symbol = order.symbol
  | .reading ref _ => ∃ book : OrderBook, registry.objects[ref]? = some book
  | .locating orderId symbol => registry.Named orderId symbol
  | .canceling orderId ref => (∃ book : OrderBook, registry.objects[ref]? = some book) ∧
      ∀ symbol other book, registry.books.get? symbol = some other →
        registry.objects[other]? = some book → orderId ∈ book.plain.ids → other = ref
  | .forgetting orderId => ∀ symbol, ¬ registry.Holds symbol orderId

namespace System

/-- A thread is about to submit an order with this identifier. -/
def Submits (system : System) (thread : Nat) (orderId : UUID) : Prop :=
  ∃ order ref, system.calls.get? thread = some (.submitting order ref) ∧ order.orderId = orderId

/-- A thread has taken this order out of its book, or has not found it there. -/
def Leaving (system : System) (orderId : UUID) : Prop :=
  ∃ thread, system.calls.get? thread = some (.forgetting orderId)

/-- An identifier occurs in the record, in a book, in the map, or in a cancel in progress. -/
def Seen (system : System) (past : List Event) (orderId : UUID) : Prop :=
  orderId ∈ submittedIds past ∨ orderId ∈ system.registry.restingIds ∨
    (∃ symbol, system.registry.orderSymbols.get? orderId = some symbol) ∨
    ∃ thread pending, system.calls.get? thread = some pending ∧ pending.names orderId

end System

/-- The registry is in order, calls in progress agree with it, and identifiers to come are new. -/
structure SystemOk (past : List Event) (system : System) (later : List Action) : Prop where
  registry_ok : RegistryOk system.registry
  pending_ok : ∀ thread pending, system.calls.get? thread = some pending →
    PendingOk system.registry pending
  mapped : ∀ orderId symbol, system.registry.orderSymbols.get? orderId = some symbol →
    system.registry.Named orderId symbol
  distinct : (later.flatMap Action.newIds).Nodup
  apart : ∀ thread thread' orderId, system.Submits thread orderId →
    system.Submits thread' orderId → thread = thread'
  ahead : ∀ thread orderId, system.Submits thread orderId → orderId ∉ later.flatMap Action.newIds
  spent : ∀ orderId, system.Seen past orderId →
    orderId ∉ later.flatMap Action.newIds ∧ ∀ thread, ¬ system.Submits thread orderId

/-- What one section does to the registry, to the orders on their way out, and to the record. -/
inductive Section (owned : Ownership) (system : System) (action : Action) (system' : System) :
    List Event → Prop where
  | idle (objects_eq : system'.registry.objects = system.registry.objects)
      (books_eq : system'.registry.books = system.registry.books)
      (symbols_eq : system'.registry.orderSymbols = system.registry.orderSymbols)
      (leaving : ∀ orderId, system'.Leaving orderId ↔ system.Leaving orderId) :
      Section owned system action system' []
  | got {symbol : String} {result : Except BookError (Option Nat)}
      (got : Got owned system.registry symbol system'.registry result)
      (leaving : ∀ orderId, system'.Leaving orderId ↔ system.Leaving orderId) :
      Section owned system action system' []
  | called {ref : Nat} {op : BookOp} {reply : BookReply} {calls : List Callback}
      {book book' : OrderBook} {gone : List Rested} {expired : PlainBook}
      (called : Called system.registry system'.registry ref op reply calls book book' gone expired)
      (leaving : ∀ orderId, system.Leaving orderId → system'.Leaving orderId)
      (away : ∀ orderId ∈ reply.canceledIds, system'.Leaving orderId)
      (submitted : ∀ order now restAt, op = .submit order now restAt →
        order.symbol = book.symbol ∧ ∃ thread, action = .resume thread now restAt ∧
          system.calls.get? thread = some (.submitting order ref)) :
      Section owned system action system' (callEvents book op reply calls)
  | forgot {orderId : UUID} (registry_eq : system'.registry = system.registry.forget orderId)
      (leaving : ∀ other, system.Leaving other → system'.Leaving other ∨ other = orderId)
      (nowhere : ∀ symbol, ¬ system.registry.Holds symbol orderId) :
      Section owned system action system' []
  | rolled {events : List Event} (rolls : action.isRollover = true)
      (objects_eq : system'.registry.objects = system.registry.objects)
      (books_eq : system'.registry.books = .empty)
      (symbols_eq : system'.registry.orderSymbols = .empty)
      (announced : events = [.cleared] ∨ (events = [] ∧ system.registry.books.keys = [])) :
      Section owned system action system' events

section Record

/-- Matches of one part follow those of the other. -/
@[simp] theorem matchesOf_append (first second : List Event) :
    matchesOf (first ++ second) = matchesOf first ++ matchesOf second := by simp [matchesOf]

/-- Rests of one part follow those of the other. -/
@[simp] theorem restsOf_append (first second : List Event) :
    restsOf (first ++ second) = restsOf first ++ restsOf second := by simp [restsOf]

/-- Fills of one part follow those of the other. -/
@[simp] theorem fillsOf_append (first second : List Event) :
    fillsOf (first ++ second) = fillsOf first ++ fillsOf second := by simp [fillsOf]

/-- Expiries of one part follow those of the other. -/
@[simp] theorem expiriesOf_append (first second : List Event) :
    expiriesOf (first ++ second) = expiriesOf first ++ expiriesOf second := by simp [expiriesOf]

/-- Cancellations of one part follow those of the other. -/
@[simp] theorem cancelsOf_append (first second : List Event) :
    cancelsOf (first ++ second) = cancelsOf first ++ cancelsOf second := by simp [cancelsOf]

/-- Identifiers of one part follow those of the other. -/
@[simp] theorem submittedIds_append (first second : List Event) :
    submittedIds (first ++ second) = submittedIds first ++ submittedIds second := by
  simp [submittedIds]

/-- Trades of one part follow those of the other. -/
@[simp] theorem tradesOf_append (first second : List Event) :
    tradesOf (first ++ second) = tradesOf first ++ tradesOf second := by simp [tradesOf]

variable (book : OrderBook) (op : BookOp) (reply : BookReply) (calls : List Callback)

/-- Callbacks do not tell which submits have returned. -/
theorem matchesOf_call : matchesOf (callEvents book op reply calls) =
    matchesOf (Event.ofReply op reply) := by
  rw [callEvents, matchesOf_append]
  -- No callback is recorded as the return of a submit.
  have silent : matchesOf (calls.map (Event.ofCallback book)) = [] := by
    rw [matchesOf, List.filterMap_map, List.filterMap_eq_nil_iff]
    intro call _
    rcases call with orderId | ⟨orderId, reason⟩
    · rfl
    · cases reason <;> rfl
  rw [silent, List.nil_append]

/-- The orders that come to rest in a call are those its callbacks report. -/
theorem restsOf_call : restsOf (callEvents book op reply calls) = restedIds calls := by
  -- A reply tells of submits and cancels, never of an order that came to rest.
  have silent : restsOf (Event.ofReply op reply) = [] := by
    unfold Event.ofReply
    split <;> rfl
  rw [callEvents, restsOf_append, silent, List.append_nil, restsOf, List.filterMap_map, restedIds]
  congr 1
  funext call
  rcases call with orderId | ⟨orderId, reason⟩
  · rfl
  · cases reason <;> rfl

/-- The orders that are filled in a call are those its callbacks report. -/
theorem fillsOf_call : fillsOf (callEvents book op reply calls) = closedIds .filled calls := by
  -- Fills are told by callbacks only.
  have silent : fillsOf (Event.ofReply op reply) = [] := by
    unfold Event.ofReply
    split <;> rfl
  rw [callEvents, fillsOf_append, silent, List.append_nil, fillsOf, List.filterMap_map, closedIds]
  congr 1
  funext call
  rcases call with orderId | ⟨orderId, reason⟩
  · rfl
  · cases reason <;> rfl

/-- The orders that expire in a call are those its callbacks report. -/
theorem expiriesOf_call : expiriesOf (callEvents book op reply calls) =
    (closedIds .expired calls).map fun orderId => (orderId, book.remainingOf orderId) := by
  -- Expiries are told by callbacks only.
  have silent : expiriesOf (Event.ofReply op reply) = [] := by
    unfold Event.ofReply
    split <;> rfl
  rw [callEvents, expiriesOf_append, silent, List.append_nil, expiriesOf, List.filterMap_map,
    closedIds, List.map_filterMap]
  congr 1
  funext call
  rcases call with orderId | ⟨orderId, reason⟩
  · rfl
  · cases reason <;> rfl

/-- The orders that a call cancels are those its reply reports. -/
theorem cancelsOf_call : cancelsOf (callEvents book op reply calls) =
    cancelsOf (Event.ofReply op reply) := by
  rw [callEvents, cancelsOf_append]
  -- No callback is recorded as a cancel.
  have silent : cancelsOf (calls.map (Event.ofCallback book)) = [] := by
    rw [cancelsOf, List.filterMap_map, List.filterMap_eq_nil_iff]
    intro call _
    rcases call with orderId | ⟨orderId, reason⟩
    · rfl
    · cases reason <;> rfl
  rw [silent, List.nil_append]

end Record

section Frame

variable {registry registry' : Registry} {newcomers : List UUID}

/-- An order that is no newcomer rests where it rested. -/
theorem Grows.resting (grows : Grows registry registry' newcomers) {orderId : UUID}
    (resting : orderId ∈ registry'.restingIds) :
    orderId ∈ newcomers ∨ orderId ∈ registry.restingIds := by
  obtain ⟨ref, book, found, member⟩ := mem_restingIds.mp resting
  -- The order is a newcomer, or rested in the same object before.
  rcases grows.origin ref book found orderId member with new | ⟨before, was, _, old⟩
  · exact .inl new
  · exact .inr (mem_restingIds.mpr ⟨ref, before, was, old⟩)

/-- The registered books hold no order that they did not hold, apart from newcomers. -/
theorem Grows.holds (grows : Grows registry registry' newcomers) {symbol : String} {orderId : UUID}
    (holds : registry'.Holds symbol orderId) :
    orderId ∈ newcomers ∨ registry.Holds symbol orderId := by
  obtain ⟨ref, book, listed, found, member⟩ := holds
  rcases grows.origin ref book found orderId member with new | ⟨before, was, _, old⟩
  · exact .inl new
  · -- A book that was there before is registered as before.
    rcases grows.books_old symbol ref listed with listed | beyond
    · exact .inr ⟨ref, before, listed, was, old⟩
    · exact absurd (List.getElem?_eq_some_iff.mp was).1 (by omega)

/-- An order that is no newcomer keeps the symbol of its book. -/
theorem Grows.named (grows : Grows registry registry' newcomers) {orderId : UUID} {symbol : String}
    (old : orderId ∉ newcomers) (named : registry.Named orderId symbol) :
    registry'.Named orderId symbol := by
  intro ref book found member
  rcases grows.origin ref book found orderId member with new | ⟨before, was, same, rests⟩
  · exact absurd new old
  · exact same ▸ named ref before was rests

/-- A call in progress may rely on what it relied on before another call's section. -/
theorem Grows.pending_ok (grows : Grows registry registry' newcomers) {pending : Pending}
    (ok : PendingOk registry pending) (old : ∀ orderId ∈ newcomers, ¬ pending.names orderId) :
    PendingOk registry' pending := by
  -- What a call relies on is about the book objects, the map, or a cancelled order.
  cases pending with
  | submitting order ref =>
    obtain ⟨book, found, named⟩ := ok
    obtain ⟨book', found', same⟩ := grows.kept ref book found
    exact ⟨book', found', same.trans named⟩
  | reading ref read =>
    obtain ⟨book, found⟩ := ok
    obtain ⟨book', found', _⟩ := grows.kept ref book found
    exact ⟨book', found'⟩
  | locating orderId symbol => exact grows.named (fun new => old orderId new rfl) ok
  | canceling orderId ref =>
    obtain ⟨⟨book, found⟩, only⟩ := ok
    obtain ⟨book', found', _⟩ := grows.kept ref book found
    refine ⟨⟨book', found'⟩, fun symbol other object listed at_other member => ?_⟩
    -- The order still rests in no other registered book.
    rcases grows.origin other object at_other orderId member with new | ⟨before, was, _, rests⟩
    · exact absurd rfl (old orderId new)
    · rcases grows.books_old symbol other listed with listed | beyond
      · exact only symbol other before listed was rests
      · exact absurd (List.getElem?_eq_some_iff.mp was).1 (by omega)
  | forgetting orderId =>
    intro symbol holds
    rcases grows.holds holds with new | before
    · exact old orderId new rfl
    · exact ok symbol before

/-- A call that has just got to this section: what it relies on holds, and what it names is known. -/
structure Entered (past : List Event) (system : System) (action : Action) (registry' : Registry)
    (pending : Pending) : Prop where
  pending_ok : PendingOk registry' pending
  names_seen : ∀ orderId, pending.names orderId → system.Seen past orderId
  submits_new : ∀ order ref, pending = .submitting order ref → order.orderId ∈ action.newIds

/--
A section changes the registry and the call of one thread, and the system stays in order.

Newcomers are identifiers that the thread has just submitted.
-/
theorem SystemOk.frame {past events : List Event} {system : System} {action : Action}
    {later : List Action} (ok : SystemOk past system (action :: later)) {thread : Nat}
    {calls' : Dict Nat Pending} (recorded : ∀ orderId ∈ submittedIds events, orderId ∈ newcomers)
    (registry_ok : RegistryOk registry')
    (grows : Grows system.registry registry' newcomers)
    (submitted : ∀ orderId ∈ newcomers,
      system.Submits thread orderId ∧ calls'.get? thread = none)
    (mapped : ∀ orderId symbol, registry'.orderSymbols.get? orderId = some symbol →
      system.registry.orderSymbols.get? orderId = some symbol ∨
        (orderId ∈ newcomers ∧ registry'.Named orderId symbol))
    (calls : ∀ other pending, calls'.get? other = some pending →
      system.calls.get? other = some pending ∨
        (other = thread ∧ Entered past system action registry' pending)) :
    SystemOk (past ++ events) ⟨registry', calls'⟩ later := by
  have distinct := ok.distinct
  rw [List.flatMap_cons, List.nodup_append'] at distinct
  -- What was seen before is no newcomer, because the thread had yet to submit those.
  have old : ∀ orderId, system.Seen past orderId → orderId ∉ newcomers := fun orderId seen new =>
    (ok.spent orderId seen).2 thread (submitted orderId new).1
  have shorter : ∀ orderId, orderId ∉ (action :: later).flatMap Action.newIds →
      orderId ∉ action.newIds ∧ orderId ∉ later.flatMap Action.newIds := by
    intro orderId absent
    rw [List.flatMap_cons, List.mem_append, not_or] at absent
    exact absent
  -- Only this thread's call has changed, and a new submit names its own order.
  have submits : ∀ other orderId, (System.mk registry' calls').Submits other orderId →
      (other = thread ∧ orderId ∈ action.newIds) ∨ system.Submits other orderId := by
    rintro other orderId ⟨order, ref, waits, rfl⟩
    rcases calls other _ waits with before | ⟨same, entered⟩
    · exact .inr ⟨order, ref, before, rfl⟩
    · exact .inl ⟨same, entered.submits_new order ref rfl⟩
  refine ⟨registry_ok, ?_, ?_, distinct.2.1, ?_, ?_, ?_⟩
  · -- The calls in progress rely on what is still there.
    intro other pending waits
    rcases calls other pending waits with before | ⟨_, entered⟩
    · refine grows.pending_ok (ok.pending_ok other pending before) fun orderId new named => ?_
      exact old orderId (.inr (.inr (.inr ⟨other, pending, before, named⟩))) new
    · exact entered.pending_ok
  · -- The map names the symbols of newcomers and of older orders.
    intro orderId symbol listed
    rcases mapped orderId symbol listed with before | ⟨_, named⟩
    · exact grows.named (old orderId (.inr (.inr (.inl ⟨symbol, before⟩))))
        (ok.mapped orderId symbol before)
    · exact named
  · -- No two threads submit one order, as identifiers are distinct.
    intro first second orderId one two
    rcases submits first orderId one with ⟨here, new⟩ | was <;>
      rcases submits second orderId two with ⟨here', new'⟩ | was'
    · exact here.trans here'.symm
    · exact absurd new (shorter orderId (ok.ahead second orderId was')).1
    · exact absurd new' (shorter orderId (ok.ahead first orderId was)).1
    · exact ok.apart first second orderId was was'
  · -- An order that is being submitted does not come again.
    intro other orderId waits
    rcases submits other orderId waits with ⟨_, new⟩ | was
    · exact fun member => distinct.2.2 new member
    · exact (shorter orderId (ok.ahead other orderId was)).2
  · -- Whatever was seen is a newcomer, or was seen before this section.
    intro orderId seen
    have origin : orderId ∈ newcomers ∨ system.Seen past orderId := by
      rcases seen with returned | rests | ⟨symbol, listed⟩ | ⟨other, pending, waits, named⟩
      · rw [submittedIds_append, List.mem_append] at returned
        exact returned.symm.imp (recorded orderId) .inl
      · exact (grows.resting rests).imp id fun before => .inr (.inl before)
      · rcases mapped orderId symbol listed with before | new
        · exact .inr (.inr (.inr (.inl ⟨symbol, before⟩)))
        · exact .inl new.1
      · rcases calls other pending waits with before | ⟨_, entered⟩
        · exact .inr (.inr (.inr (.inr ⟨other, pending, before, named⟩)))
        · exact .inr (entered.names_seen orderId named)
    rcases origin with new | before
    · -- A newcomer was submitted by this thread alone, whose call is over.
      obtain ⟨own, ended⟩ := submitted orderId new
      refine ⟨(shorter orderId (ok.ahead thread orderId own)).2, fun other waits => ?_⟩
      rcases submits other orderId waits with ⟨_, member⟩ | was
      · exact (shorter orderId (ok.ahead thread orderId own)).1 member
      · obtain ⟨order, ref, still, _⟩ := waits
        rw [ok.apart other thread orderId was own] at still
        exact absurd (ended.symm.trans still) (by simp)
    · obtain ⟨unplanned, unsubmitted⟩ := ok.spent orderId before
      refine ⟨(shorter orderId unplanned).2, fun other waits => ?_⟩
      rcases submits other orderId waits with ⟨_, member⟩ | was
      · exact (shorter orderId unplanned).1 member
      · exact unsubmitted other was

end Frame

section Step

variable {owned : Ownership} {past : List Event} {system : System} {action : Action}
  {later : List Action}

/-- A section that leaves the books and the calls in progress alone. -/
theorem SystemOk.calm (ok : SystemOk past system (action :: later)) {events : List Event}
    (silent : submittedIds events = []) {registry' : Registry}
    (registry_ok : RegistryOk registry') (grows : Grows system.registry registry' [])
    (mapped : ∀ orderId symbol, registry'.orderSymbols.get? orderId = some symbol →
      system.registry.orderSymbols.get? orderId = some symbol) :
    SystemOk (past ++ events) { system with registry := registry' } later := by
  refine @SystemOk.frame registry' [] past events system action later ok 0 system.calls
    (by rw [silent]; exact fun _ => id) registry_ok grows ?_ ?_ ?_
  · -- No order is brought in.
    intro orderId new
    exact absurd new List.not_mem_nil
  · exact fun orderId symbol listed => .inl (mapped orderId symbol listed)
  · exact fun other pending waits => .inl waits

/-- A call that ends without touching a book again. -/
theorem SystemOk.finish (ok : SystemOk past system (action :: later)) {events : List Event}
    (silent : submittedIds events = []) {registry' : Registry}
    (thread : Nat) (registry_ok : RegistryOk registry') (grows : Grows system.registry registry' [])
    (mapped : ∀ orderId symbol, registry'.orderSymbols.get? orderId = some symbol →
      system.registry.orderSymbols.get? orderId = some symbol) :
    SystemOk (past ++ events) (system.finish thread registry') later := by
  -- Nothing is new, and one thread fewer is about to do something.
  refine @SystemOk.frame registry' [] past events system action later ok thread _
    (by rw [silent]; exact fun _ => id) registry_ok grows ?_ ?_ ?_
  · intro orderId new
    exact absurd new List.not_mem_nil
  · exact fun orderId symbol listed => .inl (mapped orderId symbol listed)
  · -- The thread's call is over, and the others go on.
    intro other pending waits
    rw [Dict.get?_erase] at waits
    split at waits
    · cases waits
    · exact .inl waits

/-- A call that goes on after a section that rests no order. -/
theorem SystemOk.wait (ok : SystemOk past system (action :: later)) {events : List Event}
    (silent : submittedIds events = []) {registry' : Registry}
    (thread : Nat) {pending : Pending} (registry_ok : RegistryOk registry')
    (grows : Grows system.registry registry' [])
    (mapped : ∀ orderId symbol, registry'.orderSymbols.get? orderId = some symbol →
      system.registry.orderSymbols.get? orderId = some symbol)
    (entered : Entered past system action registry' pending) :
    SystemOk (past ++ events) (system.wait thread registry' pending) later := by
  -- Nothing is new, and one thread is about to do something else.
  refine @SystemOk.frame registry' [] past events system action later ok thread _
    (by rw [silent]; exact fun _ => id) registry_ok grows ?_ ?_ ?_
  · intro orderId new
    exact absurd new List.not_mem_nil
  · exact fun orderId symbol listed => .inl (mapped orderId symbol listed)
  · -- The thread has a new call in progress, which has just been entered.
    intro other next waits
    rw [Dict.get?_set] at waits
    split at waits
    · rename_i same
      cases waits
      exact .inr ⟨same, entered⟩
    · exact .inl waits

/-- A call writes only newcomers into the map, under the symbol of their book. -/
theorem Called.mapped {registry registry' : Registry} {ref : Nat} {op : BookOp} {reply : BookReply}
    {calls : List Callback} {book book' : OrderBook} {gone : List Rested} {expired : PlainBook}
    (called : Called registry registry' ref op reply calls book book' gone expired)
    (ok : RegistryOk registry) {orderId : UUID} {symbol : String}
    (listed : registry'.orderSymbols.get? orderId = some symbol) :
    registry.orderSymbols.get? orderId = some symbol ∨
      (orderId ∈ op.newIds ∧ registry'.Named orderId symbol) := by
  rw [called.get?_map ok] at listed
  split at listed
  · -- The order has come to rest in the book that was called.
    rename_i rested
    cases listed
    refine .inr ⟨called.done.rested_new rested, fun other object found member => ?_⟩
    rw [called.object_eq] at found
    split at found
    · cases found; exact called.symbol_eq
    · exact absurd (mem_restingIds.mpr ⟨other, object, found, member⟩) (called.rested_new rested)
  · -- A closed order is taken out of the map.
    split at listed
    · cases listed
    · exact .inl listed

/-- A call tells only of the submit that it is. -/
theorem submittedIds_call {book : OrderBook} {op : BookOp} {reply : BookReply}
    {calls : List Callback} {orderId : UUID}
    (returned : orderId ∈ submittedIds (callEvents book op reply calls)) : orderId ∈ op.newIds := by
  rw [submittedIds, matchesOf_call] at returned
  unfold Event.ofReply at returned
  -- Only the reply to a submit tells of one.
  split at returned
  · exact returned
  · exact absurd returned List.not_mem_nil
  · exact absurd returned List.not_mem_nil

/-- Orders leave through sections of a cancel only. -/
theorem leaving_congr {system' : System} (thread : Nat)
    (others : ∀ other, other ≠ thread → system'.calls.get? other = system.calls.get? other)
    (before : ∀ orderId, system.calls.get? thread ≠ some (.forgetting orderId))
    (after : ∀ orderId, system'.calls.get? thread ≠ some (.forgetting orderId)) (orderId : UUID) :
    system'.Leaving orderId ↔ system.Leaving orderId := by
  constructor
  · rintro ⟨other, waits⟩
    -- The thread itself forgets nothing, so another one does.
    by_cases same : other = thread
    · exact absurd (same ▸ waits) (after orderId)
    · exact ⟨other, others other same ▸ waits⟩
  · rintro ⟨other, waits⟩
    by_cases same : other = thread
    · exact absurd (same ▸ waits) (before orderId)
    · exact ⟨other, (others other same).trans waits⟩

/-- A thread other than the one whose call goes on waits as before. -/
theorem wait_others (thread : Nat) (registry' : Registry) (pending : Pending) (other : Nat)
    (differs : other ≠ thread) :
    (system.wait thread registry' pending).calls.get? other = system.calls.get? other := by
  simp [System.wait, differs]

/-- A thread other than the one whose call ends waits as before. -/
theorem finish_others (thread : Nat) (registry' : Registry) (other : Nat)
    (differs : other ≠ thread) :
    (system.finish thread registry').calls.get? other = system.calls.get? other := by
  simp [System.finish, differs]

/-- Looking a book up, as one section of a submit, a read, or a cancel. -/
theorem SystemOk.lookup (ok : SystemOk past system (action :: later)) (owned : Ownership)
    (thread : Nat) (symbol : String) (next : Nat → Pending)
    (unforgetful : ∀ orderId, system.calls.get? thread ≠ some (.forgetting orderId))
    (forward : ∀ ref orderId, next ref ≠ .forgetting orderId)
    (entered : ∀ registry' ref, Got owned system.registry symbol registry' (.ok (some ref)) →
      Entered past system action registry' (next ref)) :
    ∃ system', (match system.registry.get owned symbol with
        | (registry, .ok (some ref)) => .ok (system.wait thread registry (next ref), [])
        | (registry, _) => .ok (system.finish thread registry, [])) =
        (.ok (system', []) : Except Fault (System × List Event)) ∧
      SystemOk (past ++ []) system' later ∧ Section owned system action system' [] := by
  have got := get_spec ok.registry_ok owned symbol
  generalize system.registry.get owned symbol = looked at got
  obtain ⟨registry', result⟩ := looked
  -- Looking a book up leaves the map alone.
  have mapped : ∀ orderId symbol, registry'.orderSymbols.get? orderId = some symbol →
      system.registry.orderSymbols.get? orderId = some symbol := by
    intro orderId symbol listed
    rwa [got.symbols_eq] at listed
  have finished : ∀ orderId, (system.finish thread registry').calls.get? thread ≠
      some (.forgetting orderId) := by simp [System.finish]
  have on : ∀ ref orderId, (system.wait thread registry' (next ref)).calls.get? thread ≠
      some (.forgetting orderId) := by simpa [System.wait] using forward
  -- The call ends here unless a book was found.
  have ended : SystemOk (past ++ []) (system.finish thread registry') later ∧
      Section owned system action (system.finish thread registry') [] :=
    ⟨ok.finish rfl thread got.ok got.grows mapped,
      .got got (leaving_congr thread (finish_others thread registry') unforgetful finished)⟩
  rcases result with error | found
  · exact ⟨_, rfl, ended⟩
  · cases found with
    | none => exact ⟨_, rfl, ended⟩
    | some ref =>
      exact ⟨_, rfl, ok.wait rfl thread got.ok got.grows mapped (entered registry' ref got),
        .got got (leaving_congr thread (wait_others thread registry' (next ref)) unforgetful (on ref))⟩

/-- A book call by which the thread's call ends. -/
theorem SystemOk.lastCall (ok : SystemOk past system (action :: later)) {thread ref : Nat}
    {book : OrderBook} (found : system.registry.objects[ref]? = some book) (op : BookOp)
    (submits : ∀ orderId ∈ op.newIds, system.Submits thread orderId)
    (unforgetful : ∀ orderId, system.calls.get? thread ≠ some (.forgetting orderId))
    (uncanceled : ∀ orderId now, op ≠ .cancel orderId now)
    (submitted : ∀ order now restAt, op = .submit order now restAt →
      order.symbol = book.symbol ∧ ∃ thread, action = .resume thread now restAt ∧
        system.calls.get? thread = some (.submitting order ref)) :
    ∃ system' events, system.callBook thread ref op none = .ok (system', events) ∧
      SystemOk (past ++ events) system' later ∧ Section owned system action system' events := by
  -- The order was announced by this thread and is not at rest yet.
  have fresh : ∀ orderId ∈ op.newIds, orderId ∉ system.registry.restingIds :=
    fun orderId new rests => (ok.spent orderId (.inr (.inl rests))).2 thread (submits orderId new)
  obtain ⟨registry', reply, calls, book', gone, expired, ran, called⟩ :=
    call_spec ok.registry_ok found op fresh
  -- The call is over, so that the thread forgets nothing.
  have finished : ∀ orderId, (system.finish thread registry').calls.get? thread ≠
      some (.forgetting orderId) := by simp [System.finish]
  refine ⟨system.finish thread registry', callEvents book op reply calls, ?_, ?_, ?_⟩
  · simp only [System.callBook, Registry.object, found, ran, Bind.bind, Except.bind, Pure.pure,
      Except.pure]
  · refine @SystemOk.frame registry' op.newIds past _ system action later ok thread _
      (fun orderId returned => submittedIds_call returned) (called.ok ok.registry_ok)
      (called.grows ok.registry_ok) ?_ ?_ ?_
    · exact fun orderId new => ⟨submits orderId new, by simp⟩
    · exact fun orderId symbol listed => called.mapped ok.registry_ok listed
    · -- The other threads wait for what they waited for.
      intro other pending waits
      rw [Dict.get?_erase] at waits
      split at waits
      · cases waits
      · exact .inl waits
  · have leaving := leaving_congr thread (finish_others thread registry') unforgetful finished
    refine .called called (fun orderId out => (leaving orderId).mpr out) ?_ submitted
    intro orderId canceled
    obtain ⟨now, same⟩ := called.done.canceled_named canceled
    exact absurd same (uncanceled orderId now)

/-- The book call of a cancel, after which the identifier has left every registered book. -/
theorem SystemOk.cancelCall (ok : SystemOk past system (action :: later)) {thread ref : Nat}
    {orderId : UUID} (waits : system.calls.get? thread = some (.canceling orderId ref)) (now : ℚ) :
    ∃ system' events, system.callBook thread ref (.cancel orderId now)
        (some (.forgetting orderId)) = .ok (system', events) ∧
      SystemOk (past ++ events) system' later ∧ Section owned system action system' events := by
  obtain ⟨⟨book, found⟩, only⟩ := ok.pending_ok thread _ waits
  obtain ⟨registry', reply, calls, book', gone, expired, ran, called⟩ :=
    call_spec ok.registry_ok found (.cancel orderId now) (by simp [BookOp.newIds])
  have grows : Grows system.registry registry' [] := called.grows ok.registry_ok
  -- The order rests in no registered book, whichever one was called.
  have nowhere : ∀ symbol, ¬ registry'.Holds symbol orderId := by
    rintro symbol ⟨other, object, listed, at_other, member⟩
    rw [called.books_eq] at listed
    rw [called.object_eq] at at_other
    split at at_other
    · -- The called book no longer holds the order: either it was taken out or it was not there.
      cases at_other
      exact canceled_absent called.done member
    · rename_i differs
      exact differs (only symbol other object listed at_other member)
  refine ⟨system.wait thread registry' (.forgetting orderId),
    callEvents book (.cancel orderId now) reply calls, ?_, ?_, ?_⟩
  · simp only [System.callBook, Registry.object, found, ran, Bind.bind, Except.bind, Pure.pure,
      Except.pure]
  · refine ok.wait ?_ thread (called.ok ok.registry_ok) grows ?_ ⟨nowhere, ?_, ?_⟩
    · exact List.eq_nil_iff_forall_not_mem.mpr fun other returned =>
        absurd (submittedIds_call returned) List.not_mem_nil
    · intro other symbol listed
      exact (called.mapped ok.registry_ok listed).resolve_right fun new =>
        absurd new.1 List.not_mem_nil
    · rintro other rfl
      exact .inr (.inr (.inr ⟨thread, _, waits, rfl⟩))
    · intro order ref' same
      cases same
  · -- The thread leaves its order, and no other one does.
    refine .called called ?_ ?_ ?_
    · -- Other threads that forget an order go on with it.
      rintro other ⟨holder, held⟩
      have differs : holder ≠ thread := by
        rintro rfl
        rw [waits] at held
        cases held
      exact ⟨holder, (wait_others thread registry' _ holder differs).trans held⟩
    · -- The cancelled order is the one that the thread forgets next.
      intro other canceled
      obtain ⟨_, same⟩ := called.done.canceled_named canceled
      cases same
      exact ⟨thread, by simp [System.wait]⟩
    · intro order now' restAt same
      cases same

/-- The next section of a call in progress never fails and keeps the system in order. -/
theorem SystemOk.resume {thread : Nat} {now restAt : ℚ}
    (ok : SystemOk past system (.resume thread now restAt :: later)) {pending : Pending}
    (waits : system.calls.get? thread = some pending) :
    ∃ system' events, system.resume owned thread now restAt pending = .ok (system', events) ∧
      SystemOk (past ++ events) system' later ∧
        Section owned system (.resume thread now restAt) system' events := by
  -- The system knows what the waiting call relies on.
  have relies := ok.pending_ok thread pending waits
  cases pending with
  | submitting order ref =>
    obtain ⟨book, found, named⟩ := relies
    refine ok.lastCall found (.submit order now restAt) ?_ ?_ ?_ ?_
    · intro orderId new
      exact ⟨order, ref, waits, (List.mem_singleton.mp new).symm⟩
    · intro orderId same
      rw [waits] at same
      cases same
    · intro orderId now' same
      cases same
    · intro order' now' restAt' same
      cases same
      exact ⟨named.symm, thread, rfl, waits⟩
  -- A read introduces no order and takes none away.
  | reading ref read =>
    obtain ⟨book, found⟩ := relies
    -- A read introduces no identifier, cancels nothing, and submits nothing.
    refine ok.lastCall found (read.toOp now) ?_ ?_ ?_ ?_
    · intro orderId new
      cases read <;> exact absurd new List.not_mem_nil
    · intro orderId same
      rw [waits] at same
      cases same
    · intro orderId now' same
      cases read <;> cases same
    · intro order' now' restAt' same
      cases read <;> cases same
  | locating orderId symbol =>
    obtain ⟨system', ran, ok', made⟩ := ok.lookup owned thread symbol (.canceling orderId)
      -- The cancel has found the book and goes on to call it.
      (by rw [waits]; simp) (by simp) fun registry' ref got => by
        refine ⟨⟨?_, ?_⟩, ?_, ?_⟩
        · obtain ⟨_, book, at_ref, _⟩ := got.found ref rfl
          exact ⟨book, at_ref⟩
        · -- A registered book that holds the order has the symbol from the map.
          intro other place book listed at_place member
          have named := got.grows.named List.not_mem_nil relies place book at_place member
          obtain ⟨book', at_place', same⟩ := got.ok.registered other place listed
          rw [at_place] at at_place'
          cases at_place'
          have here := (got.found ref rfl).1
          rw [← same, named, here] at listed
          exact (Option.some.inj listed).symm
        · rintro other rfl
          exact .inr (.inr (.inr ⟨thread, _, waits, rfl⟩))
        · intro order place same
          cases same
    exact ⟨system', [], ran, ok', made⟩
  | canceling orderId ref => exact ok.cancelCall waits now
  | forgetting orderId =>
    -- No registered book holds the order, so that its entry can go.
    have gone : ∀ symbol, ¬ system.registry.Holds symbol orderId := relies
    have registry_ok : RegistryOk (system.registry.forget orderId) :=
      ok.registry_ok.withBooks rfl fun _ _ => id
    refine ⟨_, [], rfl, ok.finish rfl thread registry_ok (.of_objects rfl fun _ _ => id) ?_,
      .forgot rfl ?_ gone⟩
    · -- Other entries of the map are kept.
      intro other symbol listed
      simp only [Registry.forget, Dict.get?_erase] at listed
      split at listed
      · cases listed
      · exact listed
    · rintro other ⟨holder, held⟩
      by_cases same : holder = thread
      · rw [same, waits] at held
        cases held
        exact .inr rfl
      · exact .inl ⟨holder, (finish_others thread _ holder same).trans held⟩

/-- A rollover changes which books are registered, and no book. -/
theorem SystemOk.rollover {sessionDate : Option Int}
    (ok : SystemOk past system (.rollover sessionDate :: later)) (owned : Ownership) :
    ∃ system' events, System.step owned system (.rollover sessionDate) = .ok (system', events) ∧
      SystemOk (past ++ events) system' later ∧
        Section owned system (.rollover sessionDate) system' events := by
  rcases rollover_cases system.registry sessionDate with ⟨date, rolled⟩ | ⟨date, rolled⟩
  · -- Adopting a date changes neither the books nor the map.
    refine ⟨{ system with registry := { system.registry with activeSessionDate := date } }, [],
      by simp only [System.step, rolled], ?_, .idle rfl rfl rfl fun _ => Iff.rfl⟩
    exact ok.calm rfl (ok.registry_ok.withBooks rfl fun _ _ => id) (.of_objects rfl fun _ _ => id)
      fun _ _ => id
  · -- Books that are no longer registered may still be in use by calls in progress.
    set cleared := { system.registry with
      books := .empty, orderSymbols := .empty, activeSessionDate := date } with cleared_eq
    have unlisted : ∀ symbol ref, cleared.books.get? symbol = some ref →
        system.registry.books.get? symbol = some ref := by
      intro symbol ref listed
      cases listed
    have ok' : ∀ events, submittedIds events = [] →
        SystemOk (past ++ events) { system with registry := cleared } later := by
      intro events silent
      refine ok.calm silent (ok.registry_ok.withBooks rfl unlisted) (.of_objects rfl unlisted) ?_
      intro orderId symbol listed
      cases listed
    -- Only books that were registered are announced as cleared.
    cases keys : system.registry.books.keys with
    | nil =>
      refine ⟨_, [], ?_, ok' _ rfl, .rolled rfl rfl rfl rfl (.inr ⟨rfl, keys⟩)⟩
      simp only [System.step, rolled, keys]
    | cons symbol others =>
      refine ⟨_, [.cleared], ?_, ok' _ rfl, .rolled rfl rfl rfl rfl (.inl rfl)⟩
      simp only [System.step, rolled, keys]

/-- A section that finds nothing to do. -/
theorem SystemOk.skip (ok : SystemOk past system (action :: later)) :
    SystemOk (past ++ []) system later ∧ Section owned system action system [] :=
  ⟨ok.calm rfl ok.registry_ok (.of_objects rfl fun _ _ => id) fun _ _ => id,
    .idle rfl rfl rfl fun _ => Iff.rfl⟩

/-- Every section succeeds, keeps the system in order, and does one of a few things. -/
theorem SystemOk.step (ok : SystemOk past system (action :: later)) (owned : Ownership) :
    ∃ system' events, System.step owned system action = .ok (system', events) ∧
      SystemOk (past ++ events) system' later ∧ Section owned system action system' events := by
  cases action with
  | submit thread order =>
    -- A thread with a call in progress starts no other one.
    cases waits : system.calls.get? thread with
    | some pending => exact ⟨system, [], by simp only [System.step, waits], ok.skip⟩
    | none =>
      obtain ⟨system', ran, made⟩ := ok.lookup owned thread order.symbol (.submitting order)
        (by rw [waits]; simp) (by simp) fun registry' ref got => by
          refine ⟨(got.found ref rfl).2, fun _ named => absurd named id, ?_⟩
          intro order' place same
          cases same
          exact List.mem_singleton_self _
      exact ⟨system', [], by simp only [System.step, waits]; exact ran, made⟩
  | cancel thread orderId =>
    cases waits : system.calls.get? thread with
    | some pending => exact ⟨system, [], by simp only [System.step, waits], ok.skip⟩
    | none =>
      -- An order that is not in the map ends the cancel at once.
      cases listed : system.registry.orderSymbols.get? orderId with
      | none => exact ⟨system, [], by simp only [System.step, waits, listed], ok.skip⟩
      | some symbol =>
        refine ⟨system.wait thread system.registry (.locating orderId symbol), [],
          by simp only [System.step, waits, listed], ?_, ?_⟩
        · refine ok.wait rfl thread ok.registry_ok (.of_objects rfl fun _ _ => id) (fun _ _ => id)
            ⟨ok.mapped orderId symbol listed, ?_, ?_⟩
          · -- The order is known from the map.
            rintro other rfl
            exact .inr (.inr (.inl ⟨symbol, listed⟩))
          · intro order ref same
            cases same
        · refine .idle rfl rfl rfl (leaving_congr thread (wait_others thread _ _) ?_ ?_)
          · rw [waits]
            simp
          · simp [System.wait]
  | read thread symbol read =>
    cases waits : system.calls.get? thread with
    | some pending => exact ⟨system, [], by simp only [System.step, waits], ok.skip⟩
    | none =>
      obtain ⟨system', ran, made⟩ := ok.lookup owned thread symbol (.reading · read)
        -- The read relies on the book that was found.
        (by rw [waits]; simp) (by simp) fun registry' ref got => by
          obtain ⟨_, book, found, _⟩ := got.found ref rfl
          refine ⟨⟨book, found⟩, fun _ named => absurd named id, ?_⟩
          intro order' place same
          cases same
      exact ⟨system', [], by simp only [System.step, waits]; exact ran, made⟩
  | resume thread now restAt =>
    -- A thread without a call has nothing to go on with.
    cases waits : system.calls.get? thread with
    | none => exact ⟨system, [], by simp only [System.step, waits], ok.skip⟩
    | some pending =>
      obtain ⟨system', events, ran, made⟩ := @SystemOk.resume owned _ _ _ _ _ _ ok pending waits
      exact ⟨system', events, by simp only [System.step, waits, ran], made⟩
  | rollover sessionDate => exact ok.rollover owned

/-- A new system is in order for any actions with distinct identifiers. -/
theorem SystemOk.new {actions : List Action} (distinct : (actions.flatMap Action.newIds).Nodup) :
    SystemOk [] .new actions := by
  -- No thread has a call in progress.
  have idle : ∀ (thread : Nat) (pending : Pending),
      System.new.calls.get? thread ≠ some pending := by simp [System.new]
  -- Nothing has been recorded, stored, listed, or named.
  have unseen : ∀ orderId, ¬ System.new.Seen [] orderId := by
    rintro orderId (returned | rests | ⟨symbol, listed⟩ | ⟨thread, pending, waits, _⟩)
    · exact absurd returned List.not_mem_nil
    · exact absurd rests List.not_mem_nil
    · cases listed
    · cases waits
  -- Every part speaks of something that is not there yet.
  refine ⟨⟨?_, ?_, ?_, .nil⟩, ?_, ?_, distinct, ?_, ?_, ?_⟩
  · exact fun book member => absurd member List.not_mem_nil
  · exact fun book member => absurd member List.not_mem_nil
  · exact fun symbol ref listed => nomatch listed
  · exact fun thread pending waits => absurd waits (idle thread pending)
  · exact fun orderId symbol listed => nomatch listed
  · rintro thread thread' orderId ⟨order, ref, waits, _⟩
    exact absurd waits (idle thread _)
  · rintro thread orderId ⟨order, ref, waits, _⟩
    exact absurd waits (idle thread _)
  · exact fun orderId seen => absurd seen (unseen orderId)

end Step

end StockMarket
