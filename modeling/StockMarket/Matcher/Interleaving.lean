import StockMarket.Matcher.Registry

/-! Client calls on one registry, interleaved at the sections that run under a lock. -/

namespace StockMarket

/-- Calls that read one book. -/
inductive BookRead where
  | getOpenOrder (orderId : UUID)
  | openOrders (side : OrderSide)
  | snapshot
  | totalQuantity (side : OrderSide)
  | bestPrice (side : OrderSide)
  | recentTrades (limit : Int)

/-- A read at a clock reading. -/
def BookRead.toOp (now : ℚ) : BookRead → BookOp
  | .getOpenOrder orderId => .getOpenOrder orderId now
  | .openOrders side => .openOrders side now
  | .snapshot => .snapshot now
  | .totalQuantity side => .totalQuantity side now
  | .bestPrice side => .bestPrice side now
  | .recentTrades limit => .recentTrades limit

/-- A call between two of its sections, with what it has found out so far. -/
inductive Pending where
  | submitting (order : Order) (ref : Nat)
  | reading (ref : Nat) (read : BookRead)
  | locating (orderId : UUID) (symbol : String)
  | canceling (orderId : UUID) (ref : Nat)
  | forgetting (orderId : UUID)

/-- A registry and the calls in progress, by the thread that makes them. -/
structure System where
  registry : Registry
  calls : Dict Nat Pending

/-- What happens next: a thread begins a call or goes on with it, or the session changes. -/
inductive Action where
  | submit (thread : Nat) (order : Order)
  | cancel (thread : Nat) (orderId : UUID)
  | read (thread : Nat) (symbol : String) (read : BookRead)
  | resume (thread : Nat) (now restAt : ℚ)
  | rollover (sessionDate : Option Int)

/-- The identifiers that an action introduces. -/
def Action.newIds : Action → List UUID
  | .submit _ order => [order.orderId]
  | _ => []

/-- Whether an action may clear the books. -/
def Action.isRollover : Action → Bool
  | .rollover _ => true
  | _ => false

/-- What becomes of an order in one section. -/
inductive Event where
  | matched (order : Order) (result : MatchResult)
  | rested (orderId : UUID)
  | filled (orderId : UUID)
  | expired (orderId : UUID) (remaining : Int)
  | canceled (taken : OpenOrder)
  | cleared
  deriving DecidableEq

/-- The submits that have returned, with their results. -/
def matchesOf (events : List Event) : List (Order × MatchResult) :=
  events.filterMap fun
    | .matched order result => some (order, result)
    | _ => none

/-- The orders that have come to rest. -/
def restsOf (events : List Event) : List UUID :=
  events.filterMap fun
    | .rested orderId => some orderId
    | _ => none

/-- The resting orders that have been filled completely. -/
def fillsOf (events : List Event) : List UUID :=
  events.filterMap fun
    | .filled orderId => some orderId
    | _ => none

/-- The orders that have expired, with the quantities that expired. -/
def expiriesOf (events : List Event) : List (UUID × Int) :=
  events.filterMap fun
    | .expired orderId remaining => some (orderId, remaining)
    | _ => none

/-- The orders that cancels have taken out of their books. -/
def cancelsOf (events : List Event) : List OpenOrder :=
  events.filterMap fun
    | .canceled taken => some taken
    | _ => none

/-- The identifiers of the orders whose submits have returned. -/
def submittedIds (events : List Event) : List UUID :=
  (matchesOf events).map fun found => found.1.orderId

/-- The executions that submits have returned. -/
def tradesOf (events : List Event) : List Trade :=
  (matchesOf events).flatMap fun found => found.2.trades

/-- The remaining quantity of an order in a book, zero when it is not there. -/
def OrderBook.remainingOf (book : OrderBook) (orderId : UUID) : Int :=
  ((book.openOrder? orderId).map (·.remainingQuantity)).getD 0

/-- What a callback tells about its order, whose quantity is the one the book held before the call. -/
def Event.ofCallback (book : OrderBook) : Callback → Event
  | .rest orderId => .rested orderId
  | .close orderId .filled => .filled orderId
  | .close orderId .expired => .expired orderId (book.remainingOf orderId)

/-- What the reply of a call tells about its order. -/
def Event.ofReply : BookOp → BookReply → List Event
  | .submit order _ _, .matched result => [.matched order result]
  | _, .canceled taken => [.canceled taken]
  | _, _ => []

/-- The events of one call on a book, in the order in which they happen. -/
def callEvents (book : OrderBook) (op : BookOp) (reply : BookReply) (calls : List Callback) :
    List Event :=
  calls.map (Event.ofCallback book) ++ Event.ofReply op reply

namespace System

/-- A matcher at its start, without threads. -/
def new : System := ⟨.new, .empty⟩

/-- No call is in progress. -/
def Quiet (system : System) : Prop := ∀ thread, system.calls.get? thread = none

/-- The thread's call goes on from here later. -/
def wait (system : System) (thread : Nat) (registry : Registry) (pending : Pending) : System :=
  ⟨registry, system.calls.set thread pending⟩

/-- The thread's call returns or raises. -/
def finish (system : System) (thread : Nat) (registry : Registry) : System :=
  ⟨registry, system.calls.erase thread⟩

/-- A section that calls a book, after which the thread's call goes on or ends. -/
def callBook (system : System) (thread ref : Nat) (op : BookOp) (next : Option Pending) :
    Except Fault (System × List Event) := do
  let book ← system.registry.object ref
  let (registry, reply, calls) ← system.registry.call ref op
  let system := match next with
    | some pending => system.wait thread registry pending
    | none => system.finish thread registry
  return (system, callEvents book op reply calls)

/-- The next section of a call in progress. -/
def resume (system : System) (owned : Ownership) (thread : Nat) (now restAt : ℚ) :
    Pending → Except Fault (System × List Event)
  | .submitting order ref => system.callBook thread ref (.submit order now restAt) none
  | .reading ref read => system.callBook thread ref (read.toOp now) none
  -- Between the map and the book the session may have changed.
  | .locating orderId symbol =>
    match system.registry.get owned symbol with
    | (registry, .ok (some ref)) => .ok (system.wait thread registry (.canceling orderId ref), [])
    | (registry, _) => .ok (system.finish thread registry, [])
  | .canceling orderId ref =>
    system.callBook thread ref (.cancel orderId now) (some (.forgetting orderId))
  -- The map is written under its own lock, after the book has answered.
  | .forgetting orderId => .ok (system.finish thread (system.registry.forget orderId), [])

/-- One section of one call, or a rollover; a thread has at most one call in progress. -/
def step (owned : Ownership) (system : System) : Action → Except Fault (System × List Event)
  | .submit thread order =>
    match system.calls.get? thread with
    -- A thread that has a call in progress begins no other one.
    | some _ => .ok (system, [])
    | none =>
      match system.registry.get owned order.symbol with
      | (registry, .ok (some ref)) => .ok (system.wait thread registry (.submitting order ref), [])
      | (registry, _) => .ok (system.finish thread registry, [])
  | .cancel thread orderId =>
    match system.calls.get? thread, system.registry.orderSymbols.get? orderId with
    | none, some symbol =>
      .ok (system.wait thread system.registry (.locating orderId symbol), [])
    | _, _ => .ok (system, [])
  | .read thread symbol read =>
    match system.calls.get? thread with
    | some _ => .ok (system, [])
    | none =>
      match system.registry.get owned symbol with
      | (registry, .ok (some ref)) => .ok (system.wait thread registry (.reading ref read), [])
      | (registry, _) => .ok (system.finish thread registry, [])
  | .resume thread now restAt =>
    match system.calls.get? thread with
    | none => .ok (system, [])
    | some pending => system.resume owned thread now restAt pending
  | .rollover sessionDate =>
    -- Only a rollover that clears books is an event.
    match system.registry.rollover sessionDate with
    | (registry, []) => .ok ({ system with registry }, [])
    | (registry, _ :: _) => .ok ({ system with registry }, [.cleared])

end System

end StockMarket
