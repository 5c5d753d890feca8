import Mathlib.Logic.Function.Basic
import StockMarket.Library.Dict
import StockMarket.Library.Rounding
import StockMarket.Library.Sorted
import StockMarket.Orderbook.Types

/-! The in-memory order book: sorted price levels, queues of shared entries, and lazy deletion. -/

namespace StockMarket

/-- Levels holding more dead entries than this are rebuilt once the dead outnumber the live. -/
def compactMinDead : Int := 64

/-- A resting order as the book mutates it in place. -/
structure Entry where
  order : Order
  remainingQuantity : Int
  sequence : Nat
  restedAt : ℚ
  alive : Bool
  deriving Inhabited

/-- An entry as an open order. -/
def Entry.asOpenOrder (entry : Entry) : OpenOrder :=
  ⟨entry.order, entry.remainingQuantity, entry.sequence⟩

/--
Every entry object by its location.

Queue, index, and arrivals share an entry by holding its location, which is its sequence number.
-/
abbrev Heap := Nat → Entry

/-- Overwrite the object at one location. -/
def Heap.store (heap : Heap) (ref : Nat) (entry : Entry) : Heap := Function.update heap ref entry

/-- Lookups and deletions inside the data structures that find nothing, and unfinished loops. -/
inductive Fault where
  | keyError
  | indexError
  | unfinished
  deriving DecidableEq, Repr

/-- The queue of a price, with its total and its cancelled entries counted. -/
structure Level where
  queue : List Nat
  quantity : Int
  dead : Int

/-- A level without entries. -/
def Level.empty : Level := ⟨[], 0, 0⟩

/-- Keys ascend on both sides with the best price first, so bids are negated. -/
def OrderSide.key : OrderSide → Int → Int
  | .buy, price => -price
  | .sell, price => price

/-- One side of the book. -/
structure Side where
  side : OrderSide
  keys : List Int
  levels : Dict Int Level
  totalQuantity : Int

namespace Side

/-- A side without orders. -/
def new (side : OrderSide) : Side := ⟨side, [], Dict.empty, 0⟩

/-- A price as the heap of the side orders it. -/
def key (s : Side) (price : Int) : Int := s.side.key price

/-- The price that a key of the heap stands for. -/
def price (s : Side) (key : Int) : Int := s.side.key key

/-- The level stored for a price. -/
def level (s : Side) (price : Int) : Except Fault Level :=
  match s.levels.get? price with
  | some level => .ok level
  | none => .error .keyError

/-- The level an entry joins, opened on first use. -/
def openLevel (s : Side) (price : Int) : Side × Level :=
  match s.levels.get? price with
  | some level => (s, level)
  | none =>
    -- A price that is new to the side gets its key among the sorted ones.
    ({ s with levels := s.levels.set price .empty, keys := insort s.keys (s.key price) }, .empty)

/-- An entry joins the queue of its price. -/
def add (s : Side) (heap : Heap) (ref : Nat) : Side :=
  let entry := heap ref
  let price := entry.order.price
  let (s, level) := s.openLevel price
  let level := { level with
    queue := level.queue ++ [ref]
    quantity := level.quantity + entry.remainingQuantity }
  { s with
    levels := s.levels.set price level
    totalQuantity := s.totalQuantity + entry.remainingQuantity }

/-- The level of a price is removed. -/
def dropLevel (s : Side) (price : Int) : Except Fault Side := do
  let _ ← s.level price
  let s := { s with levels := s.levels.erase price }
  -- The keys are searched for the price, and the one that is found is deleted.
  let index := bisectLeft s.keys (s.key price)
  if index < s.keys.length then return { s with keys := s.keys.eraseIdx index }
  else throw .indexError

/-- Pop canceled entries off the front of a queue, counting each one out. -/
def skipDead (heap : Heap) : List Nat → Int → List Nat × Int
  | [], dead => ([], dead)
  -- Canceled entries were counted when they died, so that popping counts them out.
  | ref :: rest, dead => if (heap ref).alive then (ref :: rest, dead) else skipDead heap rest (dead - 1)

/-- One iteration for each price key that turns out to have no live entry. -/
def bestLoop (heap : Heap) : Nat → Side → Except Fault (Side × Option Nat)
  | 0, _ => .error .unfinished
  | fuel + 1, s =>
    match s.keys with
    -- Either no key is left, or the queue of the best key is empty and the level goes.
    | [] => .ok (s, none)
    | key :: _ => do
      let price := s.price key
      let level ← s.level price
      let (queue, dead) := skipDead heap level.queue level.dead
      let s := { s with levels := s.levels.set price { level with queue, dead } }
      match queue with
      | ref :: _ => return (s, some ref)
      | [] =>
        let s ← s.dropLevel price
        bestLoop heap fuel s

/-- The oldest live order at the best price. -/
def best (s : Side) (heap : Heap) : Except Fault (Side × Option Nat) :=
  bestLoop heap (s.keys.length + 1) s

/-- Reduce the front order, and say whether it is now fully filled. -/
def fillBest (s : Side) (heap : Heap) (ref : Nat) (quantity : Int) :
    Except Fault (Heap × Side × Bool) := do
  let price := (heap ref).order.price
  let level ← s.level price
  let remaining := (heap ref).remainingQuantity - quantity
  let heap := heap.store ref { heap ref with remainingQuantity := remaining }
  let level := { level with quantity := level.quantity - quantity }
  let s := { s with
    levels := s.levels.set price level
    totalQuantity := s.totalQuantity - quantity }
  -- A part of the order stays in front with less to give.
  if remaining ≠ 0 then return (heap, s, false)
  let heap := heap.store ref { heap ref with alive := false }
  -- The filled order is the front of its queue, since it was the best one.
  match level.queue with
  | [] => throw .indexError
  | _ :: rest =>
    let level := { level with queue := rest }
    let s := { s with levels := s.levels.set price level }
    if level.quantity = 0 then
      let s ← s.dropLevel price
      return (heap, s, true)
    else return (heap, s, true)

/-- Rebuild a queue without its dead entries. -/
def compact (heap : Heap) (level : Level) : Level :=
  { level with queue := level.queue.filter fun ref => (heap ref).alive, dead := 0 }

/-- Take a live order out of the book from anywhere in its queue. -/
def remove (s : Side) (heap : Heap) (ref : Nat) : Except Fault (Heap × Side) := do
  let entry := heap ref
  let price := entry.order.price
  let level ← s.level price
  let heap := heap.store ref { entry with alive := false }
  let level := { level with quantity := level.quantity - entry.remainingQuantity }
  let s := { s with
    levels := s.levels.set price level
    totalQuantity := s.totalQuantity - entry.remainingQuantity }
  if level.quantity = 0 then
    -- Every entry left in the queue is dead.
    let s ← s.dropLevel price
    return (heap, s)
  else
    -- The entry stays in its queue as a dead one, until the queue is rebuilt.
    let level := { level with dead := level.dead + 1 }
    let level :=
      if compactMinDead < level.dead ∧ (level.queue.length : Int) < level.dead * 2 then
        compact heap level
      else level
    return (heap, { s with levels := s.levels.set price level })

/-- Visit the levels in price order, collecting what each one contributes. -/
def walk {α : Type} (s : Side) (visit : Int → Level → List α) : List Int → Except Fault (List α)
  | [] => .ok []
  | key :: rest => do
    let level ← s.level (s.price key)
    let later ← walk s visit rest
    return visit (s.price key) level ++ later

/-- Live entries in priority order. -/
def liveEntries (s : Side) (heap : Heap) : Except Fault (List Nat) :=
  s.walk (fun _ level => level.queue.filter fun ref => (heap ref).alive) s.keys

/-- Every price level with its running total. -/
def bookLevels (s : Side) : Except Fault (List BookLevel) :=
  s.walk (fun price level => [⟨price, level.quantity⟩]) s.keys

end Side

/-- Why an order is no longer open. -/
inductive CloseReason where
  | filled
  | expired
  deriving DecidableEq, Repr

/-- Calls made to `on_rest` and `on_close`. -/
inductive Callback where
  | rest (orderId : UUID)
  | close (orderId : UUID) (reason : CloseReason)
  deriving DecidableEq, Repr

/-- The construction arguments of a book, past the checks made on them. -/
structure BookConfig where
  symbol : String
  recentTradeCapacity : Nat
  maxAgeSeconds : ℚ
  symbol_present : isBlank symbol = false
  capacity_pos : 1 ≤ recentTradeCapacity
  maxAge_nonneg : 0 ≤ maxAgeSeconds

/-- The latest time of rest that is too old: a difference of floats, which may have to be rounded. -/
def BookConfig.cutoff (config : BookConfig) (now : ℚ) : ℚ := nearest (now - config.maxAgeSeconds)

/-- A later reading of the clock has a later cut-off. -/
theorem BookConfig.cutoff_mono (config : BookConfig) {now later : ℚ} (ordered : now ≤ later) :
    config.cutoff now ≤ config.cutoff later :=
  nearest_mono (sub_le_sub_right ordered _)

/-- Check construction arguments in the order of the source. -/
def BookConfig.create (symbol : String) (recentTradeCapacity : Nat) (maxAgeSeconds : ℚ) :
    Except BookError BookConfig :=
  if named : isBlank symbol = false then
    if sized : 1 ≤ recentTradeCapacity then
      if aged : 0 ≤ maxAgeSeconds then
        .ok ⟨symbol, recentTradeCapacity, maxAgeSeconds, named, sized, aged⟩
      else .error (.valueError "max_age_seconds must not be negative")
    else .error (.valueError "recent_trade_capacity must be at least 1")
  else .error (.valueError "symbol must not be blank")

/-- The book of a symbol. -/
structure OrderBook where
  config : BookConfig
  sides : OrderSide → Side
  index : Dict UUID Nat
  recentTrades : List Trade
  sequence : Nat
  arrivals : List Nat
  expiredTotal : Nat
  heap : Heap

/-- A bounded tape keeps the newest executions. -/
def extendTape (capacity : Nat) (tape trades : List Trade) : List Trade :=
  (tape ++ trades).drop ((tape ++ trades).length - capacity)

/-- The newest executions first, at most as many as asked for. -/
def newestTrades (tape : List Trade) (limit : Nat) : List Trade :=
  (tape.drop (tape.length - limit)).reverse

/-- The book after a call, the calls it made back, and what the caller receives. -/
structure Answer (α : Type) where
  book : OrderBook
  result : Except BookError α
  calls : List Callback

namespace OrderBook

/-- A book without orders. -/
def new (config : BookConfig) : OrderBook where
  config := config
  sides := Side.new
  index := Dict.empty
  recentTrades := []
  sequence := 0
  arrivals := []
  expiredTotal := 0
  heap := fun _ => default

/-- The symbol of a book. -/
def symbol (book : OrderBook) : String := book.config.symbol

/-- A side of the book is replaced. -/
def setSide (book : OrderBook) (side : OrderSide) (s : Side) : OrderBook :=
  { book with sides := Function.update book.sides side s }

/-- A closed order leaves the index before the callback hears of it. -/
def close (book : OrderBook) (ref : Nat) (reason : CloseReason) : OrderBook × Callback :=
  let orderId := (book.heap ref).order.orderId
  ({ book with index := book.index.erase orderId }, .close orderId reason)

/-- Walk the arrivals up to the first live entry that is still young. -/
def expireLoop (deadline : ℚ) : List Nat → OrderBook → Except Fault (OrderBook × List Callback)
  | [], book => .ok ({ book with arrivals := [] }, [])
  | ref :: rest, book =>
    -- Arrivals come in the order of their times, so a young one ends the walk.
    if (book.heap ref).alive ∧ deadline < (book.heap ref).restedAt then
      .ok ({ book with arrivals := ref :: rest }, [])
    -- What was filled or canceled before is only forgotten.
    else if ¬ (book.heap ref).alive then expireLoop deadline rest book
    else do
      let side := (book.heap ref).order.side
      let (heap, s) ← (book.sides side).remove book.heap ref
      let book := { book.setSide side s with heap, expiredTotal := book.expiredTotal + 1 }
      let (book, closed) := book.close ref .expired
      let (book, calls) ← expireLoop deadline rest book
      return (book, closed :: calls)

/-- Drop the orders that have rested too long, when a maximum age is set. -/
def expire (book : OrderBook) (now : ℚ) : Except Fault (OrderBook × List Callback) :=
  if book.config.maxAgeSeconds = 0 then .ok (book, [])
  else expireLoop (book.config.cutoff now) book.arrivals book

/-- One iteration for each resting order an incoming order trades with. -/
def matchLoop (order : Order) :
    Nat → OrderBook → Int → Except Fault (OrderBook × Int × List Trade × List Callback)
  | 0, _, _ => .error .unfinished
  | fuel + 1, book, remaining =>
    if remaining = 0 then .ok (book, remaining, [], [])
    else do
      let opposing := order.side.opposite
      let (s, front) ← (book.sides opposing).best book.heap
      let book := book.setSide opposing s
      match front with
      | none => return (book, remaining, [], [])
      | some ref =>
        let resting := book.heap ref
        -- The best order does not cross, and so no other one does.
        if ¬ crosses order resting.order then return (book, remaining, [], [])
        let matched := min remaining resting.remainingQuantity
        let trade := tradeAgainst book.symbol order resting.order matched
        let (heap, s, filled) ← (book.sides opposing).fillBest book.heap ref matched
        let book := { book.setSide opposing s with heap }
        let (book, closed) :=
          if filled then
            let (book, closed) := book.close ref .filled
            (book, [closed])
          else (book, [])
        let (book, remaining, trades, calls) ← matchLoop order fuel book (remaining - matched)
        return (book, remaining, trade :: trades, closed ++ calls)

/-- Put the rest of an order into the book; its sequence number is its location. -/
def rest (book : OrderBook) (order : Order) (remaining : Int) (restAt : ℚ) : OrderBook × Callback :=
  let ref := book.sequence + 1
  let heap := book.heap.store ref {
    order := order
    remainingQuantity := remaining
    sequence := ref
    -- Without an age limit the clock is not read.
    restedAt := if book.config.maxAgeSeconds = 0 then 0 else restAt
    alive := true }
  let s := (book.sides order.side).add heap ref
  ({ book.setSide order.side s with
      heap := heap
      sequence := ref
      index := book.index.set order.orderId ref
      -- Without an age limit nothing ever walks the arrivals.
      arrivals := if book.config.maxAgeSeconds = 0 then book.arrivals else book.arrivals ++ [ref] },
    .rest order.orderId)

/-- Match an order against a book whose expired orders are gone, and rest what is left. -/
def place (book : OrderBook) (order : Order) (restAt : ℚ) :
    Except Fault (OrderBook × MatchResult × List Callback) := do
  -- Every iteration but the last trades at least one unit.
  let (book, remaining, trades, filled) ←
    matchLoop order (order.quantity.toNat + 1) book order.quantity
  let (book, rested) :=
    if remaining ≠ 0 then
      let (book, rested) := book.rest order remaining restAt
      (book, [rested])
    else (book, [])
  -- The tape is extended last, and keeps its newest trades.
  let book := { book with
    recentTrades := extendTape book.config.recentTradeCapacity book.recentTrades trades }
  return (book, ⟨order.orderId, trades, remaining⟩, filled ++ rested)

/-- Match an order, and rest what is left of it. -/
def submit (book : OrderBook) (order : Order) (now restAt : ℚ) :
    Except Fault (Answer MatchResult) := do
  -- An order of another symbol is refused before anything expires.
  if order.symbol ≠ book.symbol then
    return ⟨book, .error (.valueError ("order symbol must be " ++ book.symbol)), []⟩
  let (book, expired) ← book.expire now
  let (book, result, calls) ← book.place order restAt
  return ⟨book, .ok result, expired ++ calls⟩

/-- The newest trades, the newest first. -/
def recentTradesNewest (book : OrderBook) (limit : Int) : Except BookError (List Trade) :=
  if limit < 1 then .error (.valueError "limit must be at least 1")
  else .ok (newestTrades book.recentTrades limit.toNat)

/-- The open orders of a side, by priority. -/
def openOrders (book : OrderBook) (side : OrderSide) (now : ℚ) :
    Except Fault (Answer (List OpenOrder)) := do
  let (book, expired) ← book.expire now
  let live ← (book.sides side).liveEntries book.heap
  return ⟨book, .ok (live.map fun ref => (book.heap ref).asOpenOrder), expired⟩

/-- Take one order out of a book whose expired orders are gone. -/
def takeOut (book : OrderBook) (orderId : UUID) :
    Except Fault (OrderBook × Except BookError OpenOrder) := do
  match book.index.get? orderId with
  | none => return (book, .error (.orderNotFound orderId))
  | some ref =>
    -- The identifier leaves the index before the side is touched.
    let book := { book with index := book.index.erase orderId }
    let canceled := (book.heap ref).asOpenOrder
    let side := (book.heap ref).order.side
    let (heap, s) ← (book.sides side).remove book.heap ref
    return ({ book.setSide side s with heap }, .ok canceled)

/-- Cancel an open order. -/
def cancel (book : OrderBook) (orderId : UUID) (now : ℚ) :
    Except Fault (Answer OpenOrder) := do
  let (book, expired) ← book.expire now
  let (book, result) ← book.takeOut orderId
  return ⟨book, result, expired⟩

/-- The open order behind an identifier. -/
def openOrder? (book : OrderBook) (orderId : UUID) : Option OpenOrder :=
  (book.index.get? orderId).map fun ref => (book.heap ref).asOpenOrder

/-- The open order of an id, if there is one. -/
def getOpenOrder (book : OrderBook) (orderId : UUID) (now : ℚ) :
    Except Fault (Answer (Option OpenOrder)) := do
  let (book, expired) ← book.expire now
  return ⟨book, .ok (book.openOrder? orderId), expired⟩

/-- The levels of both sides. -/
def snapshot (book : OrderBook) (now : ℚ) : Except Fault (Answer BookSnapshot) := do
  let (book, expired) ← book.expire now
  let bids ← (book.sides .buy).bookLevels
  let asks ← (book.sides .sell).bookLevels
  return ⟨book, .ok ⟨book.symbol, bids, asks⟩, expired⟩

/-- The open quantity of a side. -/
def totalQuantity (book : OrderBook) (side : OrderSide) (now : ℚ) :
    Except Fault (Answer Int) := do
  let (book, expired) ← book.expire now
  return ⟨book, .ok (book.sides side).totalQuantity, expired⟩

/-- The best price of a side, if it has orders. -/
def bestPrice (book : OrderBook) (side : OrderSide) (now : ℚ) :
    Except Fault (Answer (Option Int)) := do
  let (book, expired) ← book.expire now
  let (s, front) ← (book.sides side).best book.heap
  -- Looking for the best order may have popped dead ones.
  let book := book.setSide side s
  return ⟨book, .ok (front.map fun ref => (book.heap ref).order.price), expired⟩

/-- How many orders are in the index. -/
def openOrderCount (book : OrderBook) : Nat := book.index.items.length

end OrderBook

/-- Public operations, each with the clock readings it may take. -/
inductive BookOp where
  | submit (order : Order) (now restAt : ℚ)
  | cancel (orderId : UUID) (now : ℚ)
  | getOpenOrder (orderId : UUID) (now : ℚ)
  | openOrders (side : OrderSide) (now : ℚ)
  | snapshot (now : ℚ)
  | totalQuantity (side : OrderSide) (now : ℚ)
  | bestPrice (side : OrderSide) (now : ℚ)
  | recentTrades (limit : Int)

/-- What the caller of an operation sees. -/
inductive BookReply where
  | matched (result : MatchResult)
  | canceled (order : OpenOrder)
  | openOrder (order : Option OpenOrder)
  | openOrders (orders : List OpenOrder)
  | snapshot (snapshot : BookSnapshot)
  | quantity (quantity : Int)
  | price (price : Option Int)
  | trades (trades : List Trade)
  | raised (error : BookError)
  deriving DecidableEq, Repr

/-- Either the value of a call under its kind of reply, or the exception it raised. -/
def BookReply.ofResult {α : Type} (kind : α → BookReply) : Except BookError α → BookReply
  | .ok value => kind value
  | .error error => .raised error

/-- Report a call's answer as a reply. -/
def Answer.reply {α : Type} (answer : Answer α) (kind : α → BookReply) :
    OrderBook × BookReply × List Callback :=
  (answer.book, .ofResult kind answer.result, answer.calls)

/-- Carry out one operation. -/
def OrderBook.perform (book : OrderBook) :
    BookOp → Except Fault (OrderBook × BookReply × List Callback)
  | .submit order now restAt => (book.submit order now restAt).map (·.reply .matched)
  | .cancel orderId now => (book.cancel orderId now).map (·.reply .canceled)
  | .getOpenOrder orderId now => (book.getOpenOrder orderId now).map (·.reply .openOrder)
  | .openOrders side now => (book.openOrders side now).map (·.reply .openOrders)
  | .snapshot now => (book.snapshot now).map (·.reply .snapshot)
  | .totalQuantity side now => (book.totalQuantity side now).map (·.reply .quantity)
  | .bestPrice side now => (book.bestPrice side now).map (·.reply .price)
  | .recentTrades limit => .ok (book, .ofResult .trades (book.recentTradesNewest limit), [])

end StockMarket
