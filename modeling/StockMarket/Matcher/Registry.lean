import StockMarket.Orderbook.Book

/-! The map of symbols to order books, and the symbols of resting orders. -/

namespace StockMarket

/-- Executions that a book keeps unless told otherwise. -/
def recentTradeCapacityDefault : Nat := 200

/-- The symbols a process matches, and the age limit its books are created with. -/
structure Ownership where
  tickers : List String
  maxAgeSeconds : ℚ

/-- Whether a symbol is matched by this process. -/
def Ownership.isOwnedSymbol (owned : Ownership) (ticker : String) : Bool := ticker ∈ owned.tickers

/--
Books by symbol, and the symbol of every resting order.

Books are objects shared by reference, so `objects` lists every book ever created, and a reference
is a position in it.
-/
structure Registry where
  objects : List OrderBook
  books : Dict String Nat
  orderSymbols : Dict UUID String
  activeSessionDate : Option Int

/-- Exceptions of registry calls. -/
inductive RegistryError where
  | lookupError (message : String)
  | book (error : BookError)
  deriving DecidableEq, Repr

namespace Registry

/-- A registry without books. -/
def new : Registry := ⟨[], .empty, .empty, none⟩

/-- Clear the matching state and return the symbols whose books are gone. -/
def resetBooks (registry : Registry) : Registry × List String :=
  ({ registry with books := .empty, orderSymbols := .empty, activeSessionDate := none },
    registry.books.keys)

/-- Start a newer trading session; the first one is adopted without clearing anything. -/
def rollover (registry : Registry) (sessionDate : Option Int) : Registry × List String :=
  match sessionDate, registry.activeSessionDate with
  | none, _ => (registry, [])
  -- The first session that is seen clears nothing.
  | some date, none => ({ registry with activeSessionDate := some date }, [])
  | some date, some active =>
    -- A session never goes back.
    if date ≤ active then (registry, [])
    else
      ({ registry with
          books := .empty
          orderSymbols := .empty
          activeSessionDate := some date },
        registry.books.keys)

/-- The reference to a symbol's book, which is created on first use. -/
def get (registry : Registry) (owned : Ownership) (symbol : String) :
    Registry × Except BookError (Option Nat) :=
  -- There is no book for a symbol of another process.
  if ¬ owned.isOwnedSymbol symbol then (registry, .ok none)
  else
    match registry.books.get? symbol with
    | some ref => (registry, .ok (some ref))
    -- The book is created with the age limit of the process.
    | none =>
      match BookConfig.create symbol recentTradeCapacityDefault owned.maxAgeSeconds with
      | .error error => (registry, .error error)
      | .ok config =>
        let ref := registry.objects.length
        ({ registry with
            objects := registry.objects ++ [OrderBook.new config]
            books := registry.books.set symbol ref },
          .ok (some ref))

/-- How many orders rest, by the map of orders. -/
def openOrderIdCount (registry : Registry) : Nat := registry.orderSymbols.items.length

/-- What the callbacks of a symbol's book do to the map of resting orders. -/
def hear (symbol : String) (orderSymbols : Dict UUID String) : Callback → Dict UUID String
  | .rest orderId => orderSymbols.set orderId symbol
  | .close orderId _ => orderSymbols.erase orderId

/-- The object behind a reference, which is never missing. -/
def object (registry : Registry) (ref : Nat) : Except Fault OrderBook :=
  match registry.objects[ref]? with
  | some book => .ok book
  | none => .error .keyError

/-- The registry once a book has changed and its callbacks have run. -/
def after (registry : Registry) (symbol : String) (ref : Nat) (book : OrderBook)
    (calls : List Callback) : Registry :=
  { registry with
    objects := registry.objects.set ref book
    orderSymbols := calls.foldl (hear symbol) registry.orderSymbols }

/-- One call on a book, whose callbacks run before it returns. -/
def call (registry : Registry) (ref : Nat) (op : BookOp) :
    Except Fault (Registry × BookReply × List Callback) := do
  let book ← registry.object ref
  let (book', reply, calls) ← book.perform op
  -- The callbacks have run by the time the book returns.
  return (registry.after book.symbol ref book' calls, reply, calls)

/-- Drop an order from the map once its cancel has been answered. -/
def forget (registry : Registry) (orderId : UUID) : Registry :=
  { registry with orderSymbols := registry.orderSymbols.erase orderId }

/-- An order is submitted to the book of its symbol. -/
def submit (registry : Registry) (owned : Ownership) (order : Order) (now restAt : ℚ) :
    Except Fault (Registry × Except RegistryError BookReply) := do
  match registry.get owned order.symbol with
  | (registry, .error error) => return (registry, .error (.book error))
  -- A symbol without a book is not simulated here.
  | (registry, .ok none) =>
    return (registry, .error (.lookupError ("symbol " ++ order.symbol ++ " is not simulated")))
  | (registry, .ok (some ref)) =>
    let (registry, reply, _) ← registry.call ref (.submit order now restAt)
    return (registry, .ok reply)

/-- Cancel an order wherever the map says it rests, then drop it from the map. -/
def cancel (registry : Registry) (owned : Ownership) (orderId : UUID) (now : ℚ) :
    Except Fault (Registry × Except RegistryError BookReply) := do
  match registry.orderSymbols.get? orderId with
  | none => return (registry, .error (.book (.orderNotFound orderId)))
  | some symbol =>
    match registry.get owned symbol with
    | (registry, .error error) => return (registry, .error (.book error))
    -- The order's symbol is known, but no longer matched here.
    | (registry, .ok none) => return (registry, .error (.book (.orderNotFound orderId)))
    | (registry, .ok (some ref)) =>
      let (registry, reply, _) ← registry.call ref (.cancel orderId now)
      -- The map forgets the order once more, in case the callback did not.
      return (registry.forget orderId, .ok reply)

end Registry

end StockMarket
