import StockMarket.Orderbook.Types

/-! Settings of traders and the orders they intend, independent of storage and transport. -/

namespace StockMarket

/-- A `ValueError` with its text. -/
structure ValueError where
  message : String
  deriving DecidableEq

/-- The default lifetime of an order. -/
def orderTtlSecondsDefault : Int := 16

/-- How a participant trades. -/
inductive Strategy where
  | noise
  | momentum
  | meanReversion
  | liquidityProvider
  | eventReactive
  deriving DecidableEq

/-- The strategies that are supported, by their names. -/
def supportedStrategies : List (String × Strategy) :=
  [("noise", .noise), ("momentum", .momentum), ("mean_reversion", .meanReversion),
   ("liquidity_provider", .liquidityProvider), ("event_reactive", .eventReactive)]

/-- An order that a participant intends. -/
structure OrderIntent where
  userId : String
  symbol : String
  side : OrderSide
  price : Int
  quantity : Int
  orderTtlSeconds : Option Int
  deriving DecidableEq

/-- The settings of one trader, past their checks. -/
structure TraderSettings where
  userId : String
  symbol : String
  strategy : Strategy
  referencePrice : Int
  priceStep : Int
  maxOffsetSteps : Int
  quantityMin : Int
  quantityMax : Int
  orderTtlSeconds : Int
  intervalSeconds : Int
  seed : Int
  userId_present : isBlank userId = false
  symbol_present : isBlank symbol = false
  referencePrice_pos : 1 ≤ referencePrice
  priceStep_pos : 1 ≤ priceStep
  maxOffsetSteps_nonneg : 0 ≤ maxOffsetSteps
  quantityMin_pos : 1 ≤ quantityMin
  quantity_range : quantityMin ≤ quantityMax
  orderTtlSeconds_pos : 1 ≤ orderTtlSeconds
  intervalSeconds_pos : 1 ≤ intervalSeconds

/-- An interval of the wall clock in ticks of the runner, at least one. -/
def ticksForInterval (intervalSeconds tickIntervalMs : Int) : Except ValueError Int :=
  if intervalSeconds < 1 then .error ⟨"interval_seconds must be at least 1"⟩
  else if tickIntervalMs < 1 then .error ⟨"tick_interval_ms must be at least 1"⟩
  else .ok (max 1 ((intervalSeconds * 1000 + tickIntervalMs - 1) / tickIntervalMs))

end StockMarket
