import StockMarket.Participants.EventReactive
import StockMarket.Participants.Planner

/-! The strategies of the simulated traders, and the prices that they ask for. -/

namespace StockMarket

/-- What all strategies share: the settings of a trader, and the ticks at which it is due. -/
structure BaseTrader where
  settings : TraderSettings
  intervalTicks : Int
  phase : Int
  intervalTicks_pos : 1 ≤ intervalTicks

/-- A valid interval is at least one tick long. -/
theorem one_le_of_ticksForInterval {intervalSeconds tickIntervalMs ticks : Int}
    (counted : ticksForInterval intervalSeconds tickIntervalMs = .ok ticks) : 1 ≤ ticks := by
  unfold ticksForInterval at counted
  split_ifs at counted
  cases counted
  exact le_max_left _ _

namespace BaseTrader

/-- The seed of a trader shifts its due ticks against those of others. -/
def create (settings : TraderSettings) (tickIntervalMs : Int) : Except ValueError BaseTrader :=
  match counted : ticksForInterval settings.intervalSeconds tickIntervalMs with
  | .error error => .error error
  | .ok ticks =>
    .ok ⟨settings, ticks, settings.seed % ticks, one_le_of_ticksForInterval counted⟩

/-- Whether it is the trader's turn at a tick. -/
def isDue (trader : BaseTrader) (tick : Int) : Bool :=
  (tick + trader.phase) % trader.intervalTicks = 0

/-- The middle of a book with two sides, the best price of one, or the reference of none. -/
def midpoint (trader : BaseTrader) (snapshot : BookSnapshot) : Int :=
  match snapshot.bids, snapshot.asks with
  -- The division rounds down, as that of the source does.
  | bid :: _, ask :: _ => (bid.price + ask.price) / 2
  | bid :: _, [] => bid.price
  | [], ask :: _ => ask.price
  | [], [] => trader.settings.referencePrice

/-- The best price of a side, or another price when nothing rests there. -/
def bestPrice (levels : List BookLevel) (otherwise : Int) : Int :=
  match levels with
  | best :: _ => best.price
  | [] => otherwise

variable {G : Type} (source : RandomSource G)

/-- Draw the quantity of an order. -/
def quantity (trader : BaseTrader) (random : G) : Int × G :=
  source.randint random trader.settings.quantityMin trader.settings.quantityMax

/-- An order at a price, which is raised to one step when it is below. -/
def intent (trader : BaseTrader) (side : OrderSide) (price : Int) (random : G) : OrderIntent × G :=
  let (quantity, random) := trader.quantity source random
  (⟨trader.settings.userId, trader.settings.symbol, side, max trader.settings.priceStep price,
    quantity, some trader.settings.orderTtlSeconds⟩, random)

/-- One order at a random side and at a random number of steps from the reference. -/
def noiseIntents (trader : BaseTrader) (tick : Int) (random : G) : List OrderIntent × G :=
  if ¬ trader.isDue tick then ([], random)
  else
    -- The side is drawn before the offset, and the quantity last.
    let (buys, random) := source.chooseFirst random
    let side : OrderSide := if buys then .buy else .sell
    let (offsetSteps, random) := source.randint random (-trader.settings.maxOffsetSteps)
      trader.settings.maxOffsetSteps
    let price := trader.settings.referencePrice + offsetSteps * trader.settings.priceStep
    let (intent, random) := trader.intent source side price random
    ([intent], random)

/-- An order in the direction that the midpoint has moved since the last due tick. -/
def momentumIntents (trader : BaseTrader) (previousMidpoint : Option Int) (tick : Int)
    (snapshot : BookSnapshot) (random : G) : List OrderIntent × Option Int × G :=
  if ¬ trader.isDue tick then ([], previousMidpoint, random)
  else
    let midpoint := trader.midpoint snapshot
    match previousMidpoint with
    -- The first due tick has nothing to compare its midpoint with.
    | none => ([], some midpoint, random)
    | some previous =>
      if midpoint = previous then ([], some midpoint, random)
      else if previous < midpoint then
        -- A rising price is met at the best ask, so that the order trades.
        let price := bestPrice snapshot.asks (midpoint + trader.settings.priceStep)
        let (intent, random) := trader.intent source .buy price random
        ([intent], some midpoint, random)
      else
        let price := bestPrice snapshot.bids (midpoint - trader.settings.priceStep)
        let (intent, random) := trader.intent source .sell price random
        ([intent], some midpoint, random)

/-- An order towards the reference when the midpoint is at least a step away from it. -/
def meanReversionIntents (trader : BaseTrader) (tick : Int) (snapshot : BookSnapshot) (random : G) :
    List OrderIntent × G :=
  if ¬ trader.isDue tick then ([], random)
  else
    let midpoint := trader.midpoint snapshot
    let threshold := trader.settings.priceStep
    -- A price that is too low is bought, and one that is too high is sold.
    if midpoint ≤ trader.settings.referencePrice - threshold then
      let price := bestPrice snapshot.asks (midpoint + threshold)
      let (intent, random) := trader.intent source .buy price random
      ([intent], random)
    else if trader.settings.referencePrice + threshold ≤ midpoint then
      let price := bestPrice snapshot.bids (midpoint - threshold)
      let (intent, random) := trader.intent source .sell price random
      ([intent], random)
    else ([], random)

/-- The midpoint, kept within the largest distance from the reference. -/
def center (trader : BaseTrader) (snapshot : BookSnapshot) : Int :=
  let maxDistance := trader.settings.maxOffsetSteps * trader.settings.priceStep
  min (trader.settings.referencePrice + maxDistance)
    (max (trader.settings.referencePrice - maxDistance) (trader.midpoint snapshot))

/-- One passive bid and one passive ask around the center. -/
def liquidityIntents (trader : BaseTrader) (tick : Int) (snapshot : BookSnapshot) (random : G) :
    List OrderIntent × G :=
  if ¬ trader.isDue tick then ([], random)
  else
    let center := trader.center snapshot
    -- The bid's quantity is drawn before that of the ask.
    let (bid, random) :=
      trader.intent source .buy (center - trader.settings.priceStep) random
    let (ask, random) :=
      trader.intent source .sell (center + trader.settings.priceStep) random
    ([bid, ask], random)

end BaseTrader

/-- A trader of some strategy, with what its strategy remembers. -/
inductive TradingParticipant (G : Type) where
  | noise (trader : BaseTrader) (random : G)
  | momentum (trader : BaseTrader) (previousMidpoint : Option Int) (random : G)
  | meanReversion (trader : BaseTrader) (random : G)
  | liquidityProvider (trader : BaseTrader) (random : G)
  | eventReactive (trader : EventReactiveTrader)

/--
Construct the trader of a strategy, at the start of its random numbers.

A generator ignores the sign of its seed.
-/
def buildTrader {G : Type} (source : RandomSource G) (settings : TraderSettings)
    (tickIntervalMs : Int) : Except ValueError (TradingParticipant G) := do
  let trader ← BaseTrader.create settings tickIntervalMs
  let random := source.ofSeed settings.seed.natAbs
  match settings.strategy with
  | .noise => return .noise trader random
  | .momentum => return .momentum trader none random
  | .meanReversion => return .meanReversion trader random
  | .liquidityProvider => return .liquidityProvider trader random
  -- A trader of this kind draws nothing itself.
  | .eventReactive => return .eventReactive (.dormant settings)

/-- A call on a trader; the last two are for those that react to events. -/
inductive TraderCall where
  | nextIntents (tick : Int) (snapshot : BookSnapshot)
  | applyPlan (plan : ResolvedReactionPlan)
  | dropLateOrders (elapsedMs tickIntervalMs maxSchedulerLagMs : Int)

namespace TradingParticipant

variable {G : Type} (source : RandomSource G)

/-- The orders that a trader intends at a tick. -/
def nextIntents (participant : TradingParticipant G) (tick : Int) (snapshot : BookSnapshot) :
    TradingParticipant G × List OrderIntent :=
  match participant with
  | .noise trader random =>
    let (intents, random) := trader.noiseIntents source tick random
    (.noise trader random, intents)
  | .momentum trader previousMidpoint random =>
    let (intents, previousMidpoint, random) :=
      trader.momentumIntents source previousMidpoint tick snapshot random
    (.momentum trader previousMidpoint random, intents)
  | .meanReversion trader random =>
    let (intents, random) := trader.meanReversionIntents source tick snapshot random
    (.meanReversion trader random, intents)
  | .liquidityProvider trader random =>
    let (intents, random) := trader.liquidityIntents source tick snapshot random
    (.liquidityProvider trader random, intents)
  | .eventReactive trader =>
    let (trader, intents) := trader.nextIntents tick snapshot
    (.eventReactive trader, intents)

/-- Make a call; a plan that is refused changes nothing, and other strategies take none. -/
def call (participant : TradingParticipant G) :
    TraderCall → TradingParticipant G × List OrderIntent
  | .nextIntents tick snapshot => participant.nextIntents source tick snapshot
  | .applyPlan plan =>
    match participant with
    | .eventReactive trader =>
      match trader.applyPlan plan with
      -- The plan is followed from the next tick on.
      | .ok applied => (.eventReactive applied, [])
      | .error _ => (.eventReactive trader, [])
    | other => (other, [])
  | .dropLateOrders elapsedMs tickIntervalMs maxSchedulerLagMs =>
    match participant with
    | .eventReactive trader =>
      (.eventReactive (trader.dropLateOrders elapsedMs tickIntervalMs maxSchedulerLagMs).1, [])
    | other => (other, [])

end TradingParticipant

end StockMarket
