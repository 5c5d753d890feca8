import Mathlib.Algebra.Order.Ring.Rat
import StockMarket.Library.Text

/-! Orders, trades, and the values an order book returns. -/

namespace StockMarket

/-- Identifiers are 128-bit UUIDs. -/
abbrev UUID := BitVec 128

/-- Whether an order buys or sells. -/
inductive OrderSide where
  | buy
  | sell
  deriving DecidableEq, Repr

/-- The side an order on this side trades against. -/
def OrderSide.opposite : OrderSide → OrderSide
  | .buy => .sell
  | .sell => .buy

/-- A limit order whose fields have passed the checks made on construction. -/
structure Order where
  userId : String
  symbol : String
  side : OrderSide
  price : Int
  quantity : Int
  orderId : UUID
  userId_present : isBlank userId = false
  symbol_present : isBlank symbol = false
  price_pos : 0 < price
  quantity_pos : 0 < quantity
  deriving DecidableEq, Repr

/-- Exceptions that reach the caller of an order book. -/
inductive BookError where
  | valueError (message : String)
  | orderNotFound (orderId : UUID)
  deriving DecidableEq, Repr

/-- Construct an order, or name the first field that fails its check. -/
def Order.create (userId symbol : String) (side : OrderSide) (price quantity : Int)
    (orderId : UUID) : Except BookError Order :=
  if user : isBlank userId = false then
    if named : isBlank symbol = false then
      if priced : 0 < price then
        if sized : 0 < quantity then
          .ok ⟨userId, symbol, side, price, quantity, orderId, user, named, priced, sized⟩
        else .error (.valueError "quantity must be a positive integer")
      else .error (.valueError "price must be a positive integer")
    else .error (.valueError "symbol must not be blank")
  else .error (.valueError "user_id must not be blank")

/-- An order that stands in unused heap locations. -/
instance : Inhabited Order :=
  ⟨⟨"-", "-", .buy, 1, 1, 0, by decide, by decide, by decide, by decide⟩⟩

/-- An execution, without its generated identifier and timestamp. -/
structure Trade where
  symbol : String
  price : Int
  quantity : Int
  buyOrderId : UUID
  sellOrderId : UUID
  deriving DecidableEq, Repr

/-- What an order traded, and what is left of it. -/
structure MatchResult where
  orderId : UUID
  trades : List Trade
  remainingQuantity : Int
  deriving DecidableEq, Repr

/-- A resting order with its remaining quantity. -/
structure OpenOrder where
  order : Order
  remainingQuantity : Int
  sequence : Nat
  deriving DecidableEq, Repr

/-- The quantity that rests at a price. -/
structure BookLevel where
  price : Int
  quantity : Int
  deriving DecidableEq, Repr

/-- The levels of both sides of a book. -/
structure BookSnapshot where
  symbol : String
  bids : List BookLevel
  asks : List BookLevel
  deriving DecidableEq, Repr

/-- An incoming order crosses a resting one when its limit reaches the resting price. -/
def crosses (incoming resting : Order) : Bool :=
  match incoming.side with
  | .buy => resting.price ≤ incoming.price
  | .sell => incoming.price ≤ resting.price

/-- The buyer and the seller of a match. -/
def tradeOrders (incoming resting : Order) : Order × Order :=
  match incoming.side with
  | .buy => (incoming, resting)
  | .sell => (resting, incoming)

/-- The execution of one quantity against a resting order, at the resting order's price. -/
def tradeAgainst (symbol : String) (incoming resting : Order) (quantity : Int) : Trade where
  symbol := symbol
  price := resting.price
  quantity := quantity
  buyOrderId := (tradeOrders incoming resting).1.orderId
  sellOrderId := (tradeOrders incoming resting).2.orderId

end StockMarket
