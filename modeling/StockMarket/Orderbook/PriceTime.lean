import StockMarket.Library.Consume
import StockMarket.Orderbook.Representation

/-! The plain price-time book: two lists of resting orders in priority order, expired eagerly. -/

namespace StockMarket

/-- A resting order together with the time it came to rest. -/
structure Rested where
  order : Order
  remainingQuantity : Int
  sequence : Nat
  restedAt : ℚ

/-- A rested order as an open one. -/
def Rested.asOpenOrder (rested : Rested) : OpenOrder :=
  ⟨rested.order, rested.remainingQuantity, rested.sequence⟩

/-- Lower the remaining quantity of a resting order. -/
def Rested.reduce (rested : Rested) (quantity : Int) : Rested :=
  { rested with remainingQuantity := rested.remainingQuantity - quantity }

/-- The resting order that a heap entry represents. -/
def Entry.rested (entry : Entry) : Rested :=
  ⟨entry.order, entry.remainingQuantity, entry.sequence, entry.restedAt⟩

/-- Sums of remaining quantity over runs of one price. -/
def priceLevels : List Rested → List BookLevel
  | [] => []
  | first :: rest =>
    match priceLevels rest with
    | [] => [⟨first.order.price, first.remainingQuantity⟩]
    | level :: later =>
      if level.price = first.order.price then
        ⟨level.price, first.remainingQuantity + level.quantity⟩ :: later
      else ⟨first.order.price, first.remainingQuantity⟩ :: level :: later

/-- The clock reading at which a call is made. -/
def BookOp.reading : BookOp → Option ℚ
  | .submit _ now _ => some now
  | .cancel _ now => some now
  | .getOpenOrder _ now => some now
  | .openOrders _ now => some now
  | .snapshot now => some now
  | .totalQuantity _ now => some now
  | .bestPrice _ now => some now
  | .recentTrades _ => none

/-- The identifiers an operation introduces. -/
def BookOp.newIds : BookOp → List UUID
  | .submit order _ _ => [order.orderId]
  | _ => []

/-- Everything a price-time book remembers. -/
structure PlainBook where
  config : BookConfig
  resting : OrderSide → List Rested
  tape : List Trade
  sequence : Nat

namespace PlainBook

/-- A plain book without orders. -/
def new (config : BookConfig) : PlainBook := ⟨config, fun _ => [], [], 0⟩

/-- Keep only the orders a test accepts, on both sides. -/
def keep (book : PlainBook) (test : Rested → Bool) : PlainBook :=
  { book with resting := fun side => (book.resting side).filter test }

/-- Remove every order that came to rest at or before the deadline. -/
def expireBefore (book : PlainBook) (deadline : ℚ) : PlainBook :=
  book.keep fun rested => deadline < rested.restedAt

/-- The opposite orders within reach of a limit: a prefix in priority order. -/
def reached (book : PlainBook) (order : Order) : List Rested :=
  (book.resting order.side.opposite).takeWhile fun rested => crosses order rested.order

/-- The opposite orders out of reach of a limit. -/
def beyond (book : PlainBook) (order : Order) : List Rested :=
  (book.resting order.side.opposite).dropWhile fun rested => crosses order rested.order

/-- Take the order's quantity from the orders within reach. -/
def taken (book : PlainBook) (order : Order) : Consumed Rested :=
  consume Rested.remainingQuantity Rested.reduce order.quantity (book.reached order)

/-- Replace the resting orders of one side. -/
def setResting (book : PlainBook) (side : OrderSide) (resting : List Rested) : PlainBook :=
  { book with resting := Function.update book.resting side resting }

/-- The orders of a side once a newcomer has taken its place in priority order. -/
def joined (side : OrderSide) (newcomer : Rested) (resting : List Rested) : List Rested :=
  insertAfter
    (fun rested => side.key rested.order.price ≤ side.key newcomer.order.price) newcomer resting

/-- Let an unmatched quantity come to rest. -/
def rest (book : PlainBook) (order : Order) (remaining : Int) (restedAt : ℚ) : PlainBook :=
  { book.setResting order.side
      (joined order.side ⟨order, remaining, book.sequence + 1, restedAt⟩
        (book.resting order.side)) with
    sequence := book.sequence + 1 }

/-- The executions of an incoming order. -/
def tradesOf (book : PlainBook) (order : Order) : List Trade :=
  (book.taken order).fills.map fun fill =>
    tradeAgainst book.config.symbol order fill.1.order fill.2

/-- Match an order in price-time priority, rest what is left, and record the executions. -/
def place (book : PlainBook) (order : Order) (restedAt : ℚ) : PlainBook × MatchResult :=
  let left := (book.taken order).left
  let matched := book.setResting order.side.opposite ((book.taken order).kept ++ book.beyond order)
  let rested := if left = 0 then matched else matched.rest order left restedAt
  ({ rested with
      tape := extendTape book.config.recentTradeCapacity book.tape (book.tradesOf order) },
    ⟨order.orderId, book.tradesOf order, left⟩)

/-- All resting orders, bids first. -/
def allResting (book : PlainBook) : List Rested := book.resting .buy ++ book.resting .sell

/-- The resting order with an identifier. -/
def find? (book : PlainBook) (orderId : UUID) : Option Rested :=
  book.allResting.find? fun rested => rested.order.orderId = orderId

/-- The order of an id is taken out of the book. -/
def takeOut (book : PlainBook) (orderId : UUID) : PlainBook × Except BookError OpenOrder :=
  match book.find? orderId with
  | none => (book, .error (.orderNotFound orderId))
  | some rested =>
    (book.keep fun other => other.order.orderId ≠ orderId, .ok rested.asOpenOrder)

/-- Expiry at the start of a call; a maximum age of zero turns it off. -/
def expireAt (book : PlainBook) (now : ℚ) : PlainBook :=
  if book.config.maxAgeSeconds = 0 then book
  else book.expireBefore (book.config.cutoff now)

/-- The rest time an order gets; without expiry no clock is read. -/
def stamp (book : PlainBook) (restAt : ℚ) : ℚ :=
  if book.config.maxAgeSeconds = 0 then 0 else restAt

/-- The callbacks of a match report the makers that were filled completely. -/
def filledCalls (fills : List (Rested × Int)) : List Callback :=
  (fills.filter fun fill => fill.2 = fill.1.remainingQuantity).map
    fun fill => .close fill.1.order.orderId .filled

/-- Carry out one operation on a book whose expired orders are gone. -/
def act (book : PlainBook) : BookOp → PlainBook × BookReply
  | .submit order _ restAt =>
    if order.symbol ≠ book.config.symbol then
      (book, .raised (.valueError ("order symbol must be " ++ book.config.symbol)))
    else ((book.place order (book.stamp restAt)).1, .matched (book.place order (book.stamp restAt)).2)
  | .cancel orderId _ => ((book.takeOut orderId).1, .ofResult .canceled (book.takeOut orderId).2)
  | .getOpenOrder orderId _ => (book, .openOrder ((book.find? orderId).map (·.asOpenOrder)))
  | .openOrders side _ => (book, .openOrders ((book.resting side).map (·.asOpenOrder)))
  | .snapshot _ =>
    (book, .snapshot ⟨book.config.symbol, priceLevels (book.resting .buy),
      priceLevels (book.resting .sell)⟩)
  | .totalQuantity side _ =>
    (book, .quantity (supply Rested.remainingQuantity (book.resting side)))
  | .bestPrice side _ =>
    (book, .price ((book.resting side).head?.map fun rested => rested.order.price))
  | .recentTrades limit =>
    (book, .ofResult .trades (if limit < 1 then .error (.valueError "limit must be at least 1")
      else .ok (newestTrades book.tape limit.toNat)))

/-- The calls that an operation makes back, apart from those of expiry. -/
def callsOf (book : PlainBook) : BookOp → List Callback
  | .submit order _ _ =>
    if order.symbol ≠ book.config.symbol then []
    else filledCalls (book.taken order).fills ++
      if (book.taken order).left = 0 then [] else [.rest order.orderId]
  | _ => []

/-- Expire every order that is due, then carry out the operation. -/
def perform (book : PlainBook) (op : BookOp) : PlainBook × BookReply :=
  match op.reading with
  | some now => (book.expireAt now).act op
  | none => book.act op

end PlainBook

/-- The plain book that an order book represents. -/
def OrderBook.plain (book : OrderBook) : PlainBook where
  config := book.config
  resting side := ((book.sides side).liveRefs book.heap).map fun ref => (book.heap ref).rested
  tape := book.recentTrades
  sequence := book.sequence

end StockMarket
