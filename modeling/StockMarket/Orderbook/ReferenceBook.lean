import Mathlib.Data.List.Sort
import Mathlib.Data.Prod.Lex
import StockMarket.Orderbook.Book

/-! The list-based order book that is kept as an oracle for the indexed one. -/

namespace StockMarket

/-- Both sides are plain lists, re-sorted after every addition. -/
structure ReferenceBook where
  symbol : String
  recentTradeCapacity : Nat
  bids : List OpenOrder
  asks : List OpenOrder
  recentTrades : List Trade
  sequence : Nat

namespace ReferenceBook

/-- A reference book without orders. -/
def new (symbol : String) (recentTradeCapacity : Nat) : ReferenceBook :=
  ⟨symbol, recentTradeCapacity, [], [], [], 0⟩

/-- The list of one side. -/
def orders (book : ReferenceBook) : OrderSide → List OpenOrder
  | .buy => book.bids
  | .sell => book.asks

/-- The orders of a side are replaced. -/
def setOrders (book : ReferenceBook) (side : OrderSide) (orders : List OpenOrder) : ReferenceBook :=
  match side with
  | .buy => { book with bids := orders }
  | .sell => { book with asks := orders }

/-- One iteration for each resting order an incoming order trades with. -/
def matchLoop (symbol : String) (order : Order) :
    Nat → List OpenOrder → Int → Except Fault (List OpenOrder × Int × List Trade)
  | 0, _, _ => .error .unfinished
  | _ + 1, [], remaining => .ok ([], remaining, [])
  | fuel + 1, resting :: later, remaining =>
    -- The orders are sorted, so the first one that does not cross ends the loop.
    if remaining = 0 ∨ ¬ crosses order resting.order then .ok (resting :: later, remaining, [])
    else do
      let matched := min remaining resting.remainingQuantity
      let trade := tradeAgainst symbol order resting.order matched
      let opposing :=
        -- A filled order is dropped from the front, and a part of one stays there.
        if matched = resting.remainingQuantity then later
        else { resting with remainingQuantity := resting.remainingQuantity - matched } :: later
      let (opposing, remaining, trades) ← matchLoop symbol order fuel opposing (remaining - matched)
      return (opposing, remaining, trade :: trades)

/-- The sorting key: the better price first, then the earlier arrival. -/
def sortKey (side : OrderSide) (item : OpenOrder) : Int ×ₗ Nat :=
  toLex (side.key item.order.price, item.sequence)

/-- A stable sort by the key. -/
def sortOrders (side : OrderSide) (orders : List OpenOrder) : List OpenOrder :=
  orders.insertionSort fun first second => sortKey side first ≤ sortKey side second

/-- What is left of an order rests behind the others of its price. -/
def rest (book : ReferenceBook) (order : Order) (remaining : Int) : ReferenceBook :=
  let book := { book with sequence := book.sequence + 1 }
  book.setOrders order.side
    -- The newcomer is appended, and then the whole side is sorted again.
    (sortOrders order.side (book.orders order.side ++ [⟨order, remaining, book.sequence⟩]))

/-- Match an order against the sorted list, and rest what is left of it. -/
def submit (book : ReferenceBook) (order : Order) :
    Except Fault (ReferenceBook × Except BookError MatchResult) := do
  if order.symbol ≠ book.symbol then
    return (book, .error (.valueError ("order symbol must be " ++ book.symbol)))
  let opposing := order.side.opposite
  let (orders, remaining, trades) ←
    matchLoop book.symbol order (order.quantity.toNat + 1) (book.orders opposing) order.quantity
  let book := book.setOrders opposing orders
  let book := if remaining ≠ 0 then book.rest order remaining else book
  let book := { book with
    recentTrades := extendTape book.recentTradeCapacity book.recentTrades trades }
  return (book, .ok ⟨order.orderId, trades, remaining⟩)

/-- The newest trades, the newest first. -/
def recentTradesNewest (book : ReferenceBook) (limit : Int) : Except BookError (List Trade) :=
  if limit < 1 then .error (.valueError "limit must be at least 1")
  else .ok (newestTrades book.recentTrades limit.toNat)

/-- Pop the first order with an identifier. -/
def popOrder (orderId : UUID) : List OpenOrder → Option (OpenOrder × List OpenOrder)
  | [] => none
  | first :: later =>
    -- Identifiers are compared from the front, and the first match goes.
    if first.order.orderId = orderId then some (first, later)
    else (popOrder orderId later).map fun (found, others) => (found, first :: others)

/-- Cancel an open order, on whichever side it rests. -/
def cancel (book : ReferenceBook) (orderId : UUID) :
    ReferenceBook × Except BookError OpenOrder :=
  match popOrder orderId book.bids with
  | some (found, bids) => ({ book with bids }, .ok found)
  | none =>
    -- The asks are searched only if no bid has the identifier.
    match popOrder orderId book.asks with
    | some (found, asks) => ({ book with asks }, .ok found)
    | none => (book, .error (.orderNotFound orderId))

/-- The open order of an id, if there is one. -/
def getOpenOrder (book : ReferenceBook) (orderId : UUID) : Option OpenOrder :=
  (book.bids.find? fun item => item.order.orderId = orderId).or
    (book.asks.find? fun item => item.order.orderId = orderId)

/-- Quantities by price, in order of first appearance. -/
def quantitiesByPrice (orders : List OpenOrder) (start : Dict Int Int) : Dict Int Int :=
  orders.foldl (fun quantities item =>
    -- A price keeps the place of its first order.
    quantities.set item.order.price
      ((quantities.get? item.order.price).getD 0 + item.remainingQuantity)) start

/-- The levels that a list of orders adds up to. -/
def levels (orders : List OpenOrder) : List BookLevel :=
  (quantitiesByPrice orders .empty).items.map fun (price, quantity) => ⟨price, quantity⟩

/-- The levels of both sides. -/
def snapshot (book : ReferenceBook) : BookSnapshot :=
  ⟨book.symbol, levels book.bids, levels book.asks⟩

/-- What the oracle says the remaining quantity of one side is. -/
def totalQuantity (book : ReferenceBook) (side : OrderSide) : Int :=
  ((book.orders side).map OpenOrder.remainingQuantity).sum

/-- What the oracle says the best price of one side is. -/
def bestPrice (book : ReferenceBook) (side : OrderSide) : Option Int :=
  (book.orders side).head?.map fun item => item.order.price

/-- Carry out one operation; the oracle has no clock. -/
def perform (book : ReferenceBook) : BookOp → Except Fault (ReferenceBook × BookReply)
  | .submit order _ _ => (book.submit order).map fun (book, result) =>
    (book, .ofResult .matched result)
  | .cancel orderId _ =>
    let (book, result) := book.cancel orderId
    .ok (book, .ofResult .canceled result)
  | .getOpenOrder orderId _ => .ok (book, .openOrder (book.getOpenOrder orderId))
  | .openOrders side _ => .ok (book, .openOrders (book.orders side))
  | .snapshot _ => .ok (book, .snapshot book.snapshot)
  | .totalQuantity side _ => .ok (book, .quantity (book.totalQuantity side))
  | .bestPrice side _ => .ok (book, .price (book.bestPrice side))
  | .recentTrades limit => .ok (book, .ofResult .trades (book.recentTradesNewest limit))

end ReferenceBook

end StockMarket
