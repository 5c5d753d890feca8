import StockMarket.Library.Machine
import StockMarket.Participants.ReactionOrders
import StockMarket.Participants.Traders

/-! Whatever the books and the draws are, every intended order is one that an exchange accepts. -/

namespace StockMarket

/-- All levels of a book have positive prices. -/
def BookSnapshot.Priced (snapshot : BookSnapshot) : Prop :=
  ∀ level ∈ snapshot.bids ++ snapshot.asks, 1 ≤ level.price

/-- The snapshot that comes with a call has positive prices. -/
def TraderCall.Priced : TraderCall → Prop
  | .nextIntents _ snapshot => snapshot.Priced
  | .applyPlan _ => True
  | .dropLateOrders .. => True

/-- An order of a trader that passes the checks on its price and its quantity. -/
structure OrderIntent.Sound (settings : TraderSettings) (intent : OrderIntent) : Prop where
  userId_eq : intent.userId = settings.userId
  symbol_eq : intent.symbol = settings.symbol
  price_pos : 1 ≤ intent.price
  quantity_pos : 1 ≤ intent.quantity
  quantity_range : settings.strategy ≠ .eventReactive →
    settings.quantityMin ≤ intent.quantity ∧ intent.quantity ≤ settings.quantityMax

/-- A bid and an ask that do not cross, within one step of the band around the reference. -/
structure QuotesBothSides (settings : TraderSettings) (intents : List OrderIntent) : Prop where
  quotes : ∃ bid ask, intents = [bid, ask] ∧ bid.side = .buy ∧ ask.side = .sell ∧
    bid.price < ask.price ∧
    ask.price ≤ settings.referencePrice + (settings.maxOffsetSteps + 1) * settings.priceStep ∧
    max settings.priceStep
      (settings.referencePrice - (settings.maxOffsetSteps + 1) * settings.priceStep) ≤ bid.price

/-- What a trader answers to a call. -/
structure Conforms (trader : BaseTrader) (call : TraderCall) (intents : List OrderIntent) :
    Prop where
  sound : ∀ intent ∈ intents, intent.Sound trader.settings
  /-- The construction of an order from an intent never fails. -/
  accepted : ∀ intent ∈ intents, ∀ orderId, ∃ order, Order.create intent.userId intent.symbol
    intent.side intent.price intent.quantity orderId = .ok order
  /-- A liquidity provider that is due quotes both sides. -/
  quotes : trader.settings.strategy = .liquidityProvider → ∀ tick snapshot,
    call = .nextIntents tick snapshot → trader.isDue tick = true →
      QuotesBothSides trader.settings intents

/-- An intent that is sound can be made an order. -/
theorem OrderIntent.Sound.accepted {settings : TraderSettings} {intent : OrderIntent}
    (sound : intent.Sound settings) (orderId : UUID) :
    ∃ order, Order.create intent.userId intent.symbol intent.side intent.price intent.quantity
      orderId = .ok order := by
  -- The names were checked with the settings, and the numbers are positive.
  unfold Order.create
  rw [dif_pos (sound.userId_eq ▸ settings.userId_present),
    dif_pos (sound.symbol_eq ▸ settings.symbol_present),
    dif_pos (by have := sound.price_pos; omega), dif_pos (by have := sound.quantity_pos; omega)]
  exact ⟨_, rfl⟩

/-- Answers of sound intents conform when no liquidity provider is due. -/
theorem Conforms.of_sound {trader : BaseTrader} {call : TraderCall} {intents : List OrderIntent}
    (sound : ∀ intent ∈ intents, intent.Sound trader.settings)
    (quotes : trader.settings.strategy = .liquidityProvider → ∀ tick snapshot,
      call = .nextIntents tick snapshot → trader.isDue tick = true →
        QuotesBothSides trader.settings intents) : Conforms trader call intents :=
  ⟨sound, fun intent member => (sound intent member).accepted, quotes⟩

namespace BaseTrader

variable {G : Type} {source : RandomSource G} {trader : BaseTrader} {snapshot : BookSnapshot}

/-- Every intent of a trader is sound, whatever price it was asked to have. -/
theorem intent_sound (sound : source.Sound) (trader : BaseTrader) (side : OrderSide) (price : Int)
    (random : G) : (trader.intent source side price random).1.Sound trader.settings := by
  -- The price is raised to a step, and the quantity is drawn from its range.
  have drawn := sound.randint_range random _ _ trader.settings.quantity_range
  have least := trader.settings.quantityMin_pos
  have raised := trader.settings.priceStep_pos
  exact ⟨rfl, rfl, raised.trans (le_max_left _ _), least.trans drawn.1, fun _ => drawn⟩

/-- An intent keeps the side it is made for. -/
@[simp] theorem intent_side (trader : BaseTrader) (side : OrderSide) (price : Int) (random : G) :
    (trader.intent source side price random).1.side = side := rfl

/-- The price of an intent is at least one step. -/
@[simp] theorem intent_price (trader : BaseTrader) (side : OrderSide) (price : Int) (random : G) :
    (trader.intent source side price random).1.price = max trader.settings.priceStep price := rfl

/-- No intents are sound, and so is a single intent of a trader. -/
theorem silent_sound (settings : TraderSettings) :
    ∀ intent ∈ ([] : List OrderIntent), intent.Sound settings :=
  fun _ member => absurd member List.not_mem_nil

/-- A single intent is sound. -/
theorem single_sound (sound : source.Sound) (trader : BaseTrader) (side : OrderSide) (price : Int)
    (random : G) : ∀ intent ∈ [(trader.intent source side price random).1],
      intent.Sound trader.settings := by
  intro intent member
  obtain rfl := List.mem_singleton.mp member
  exact intent_sound sound trader side price random

/-- What a noise trader intends is sound. -/
theorem noiseIntents_sound (sound : source.Sound) (tick : Int) (random : G) :
    ∀ intent ∈ (trader.noiseIntents source tick random).1, intent.Sound trader.settings := by
  unfold noiseIntents
  split_ifs
  · exact single_sound sound trader _ _ _
  · exact silent_sound _

/-- What a momentum trader intends is sound. -/
theorem momentumIntents_sound (sound : source.Sound) (previousMidpoint : Option Int) (tick : Int)
    (snapshot : BookSnapshot) (random : G) :
    ∀ intent ∈ (trader.momentumIntents source previousMidpoint tick snapshot random).1,
      intent.Sound trader.settings := by
  unfold momentumIntents
  split_ifs
  · -- The first due tick only notes the midpoint, as does one at which it has not moved.
    cases previousMidpoint with
    | none => exact silent_sound _
    | some previous =>
      simp only
      split_ifs
      · exact silent_sound _
      · exact single_sound sound trader _ _ _
      · exact single_sound sound trader _ _ _
  · exact silent_sound _

/-- What a mean reversion trader intends is sound. -/
theorem meanReversionIntents_sound (sound : source.Sound) (tick : Int) (snapshot : BookSnapshot)
    (random : G) : ∀ intent ∈ (trader.meanReversionIntents source tick snapshot random).1,
      intent.Sound trader.settings := by
  unfold meanReversionIntents
  simp only
  split_ifs
  · -- The order goes towards the reference, or none is made.
    exact single_sound sound trader _ _ _
  · exact single_sound sound trader _ _ _
  · exact silent_sound _
  · exact silent_sound _

/-- What a liquidity provider intends is sound. -/
theorem liquidityIntents_sound (sound : source.Sound) (tick : Int) (snapshot : BookSnapshot)
    (random : G) : ∀ intent ∈ (trader.liquidityIntents source tick snapshot random).1,
      intent.Sound trader.settings := by
  unfold liquidityIntents
  split_ifs
  · -- The bid comes first, and the ask after it.
    intro intent member
    rcases List.mem_cons.mp member with rfl | member
    · exact intent_sound sound trader _ _ _
    · exact single_sound sound trader _ _ _ intent member
  · exact silent_sound _

/-- The midpoint of a book with positive prices is positive. -/
theorem one_le_midpoint (trader : BaseTrader) (priced : snapshot.Priced) :
    1 ≤ trader.midpoint snapshot := by
  -- Half the sum of two positive prices is rounded down to at least one.
  obtain ⟨symbol, bids, asks⟩ := snapshot
  rcases bids with _ | ⟨bid, bids⟩ <;> rcases asks with _ | ⟨ask, asks⟩
  · -- An empty book stands at the reference, and one side alone at its best price.
    exact trader.settings.referencePrice_pos
  · exact priced ask (by simp)
  · exact priced bid (by simp)
  · have bid_pos := priced bid (by simp)
    have ask_pos := priced ask (by simp)
    show 1 ≤ (bid.price + ask.price) / 2
    omega

/-- The center is positive, and within the band around the reference. -/
theorem center_range (trader : BaseTrader) (priced : snapshot.Priced) :
    1 ≤ trader.center snapshot ∧
      trader.settings.referencePrice - trader.settings.maxOffsetSteps * trader.settings.priceStep ≤
        trader.center snapshot ∧
      trader.center snapshot ≤
        trader.settings.referencePrice +
          trader.settings.maxOffsetSteps * trader.settings.priceStep := by
  -- The band may extend below zero, but neither the midpoint nor its upper end does.
  have middle := trader.one_le_midpoint priced
  have reference := trader.settings.referencePrice_pos
  have step := trader.settings.priceStep_pos
  have distance := Int.mul_nonneg trader.settings.maxOffsetSteps_nonneg
    (by omega : 0 ≤ trader.settings.priceStep)
  unfold center
  simp only
  omega

/-- A liquidity provider that is due quotes both sides without crossing itself. -/
theorem liquidityIntents_quotes (priced : snapshot.Priced) {tick : Int}
    (due : trader.isDue tick = true) (random : G) :
    QuotesBothSides trader.settings (trader.liquidityIntents source tick snapshot random).1 := by
  obtain ⟨positive, above, below⟩ := trader.center_range priced
  have step := trader.settings.priceStep_pos
  have reference := trader.settings.referencePrice_pos
  unfold liquidityIntents
  rw [if_neg (not_not.mpr due)]
  -- A bid that is raised to one step still stays below the ask, as the center is positive.
  refine ⟨_, _, rfl, rfl, rfl, ?_, ?_, ?_⟩
  all_goals
    simp only [intent_price, Int.add_mul, Int.one_mul]
    omega

end BaseTrader

namespace EventReactiveTrader

variable {trader : EventReactiveTrader} {snapshot : BookSnapshot}

/-- The limit of a reaction is positive. -/
theorem one_le_reactionPrice (trader : EventReactiveTrader) (side : OrderSide)
    (priced : snapshot.Priced) : 1 ≤ trader.reactionPrice side snapshot := by
  have step := trader.settings.priceStep_pos
  obtain ⟨symbol, bids, asks⟩ := snapshot
  cases side with
  -- Without an offer to hit, the limit is raised to a step.
  | buy =>
    rcases asks with _ | ⟨best, asks⟩
    · exact step.trans (le_max_left _ _)
    · exact priced best (by simp)
  | sell =>
    rcases bids with _ | ⟨best, bids⟩
    · exact step.trans (le_max_left _ _)
    · exact priced best (by simp)

/-- The orders of a plan have the quantities of the plan, which are positive. -/
theorem nextIntents_sound {settings : TraderSettings} (same : trader.settings = settings)
    (reactive : settings.strategy = .eventReactive) (priced : snapshot.Priced) (tick : Int) :
    ∀ intent ∈ (trader.nextIntents tick snapshot).2, intent.Sound settings := by
  subst same
  cases current : trader.plan with
  | none =>
    -- A trader without a plan is silent.
    intro intent member
    unfold nextIntents at member
    split at member
    · exact absurd member List.not_mem_nil
    · rename_i followed
      cases current.symm.trans followed
  | some plan =>
    by_cases active : plan.activated = true
    · rw [nextIntents_active current active]
      intro intent member
      obtain ⟨index, left, rfl⟩ := List.mem_map.mp member
      -- The order stands in the plan, so its quantity is one of those that were checked.
      have placed := @places_reactionIntent trader plan index
        (List.mem_range.mp (left_sublist.subset left)) snapshot
      exact ⟨rfl, rfl, trader.one_le_reactionPrice _ priced,
        plan.quantities_pos _ (List.mem_of_getElem? placed.quantity),
        fun other => absurd reactive other⟩
    · rw [nextIntents_inactive current active]
      exact fun _ member => absurd member List.not_mem_nil

end EventReactiveTrader

/-- A participant of the strategy that its settings choose. -/
inductive Follows {G : Type} (base : BaseTrader) : TradingParticipant G → Prop where
  | noise (chosen : base.settings.strategy = .noise) (random : G) : Follows base (.noise base random)
  | momentum (chosen : base.settings.strategy = .momentum) (previousMidpoint : Option Int)
      (random : G) : Follows base (.momentum base previousMidpoint random)
  | meanReversion (chosen : base.settings.strategy = .meanReversion) (random : G) :
      Follows base (.meanReversion base random)
  | liquidityProvider (chosen : base.settings.strategy = .liquidityProvider) (random : G) :
      Follows base (.liquidityProvider base random)
  | eventReactive (chosen : base.settings.strategy = .eventReactive) (trader : EventReactiveTrader)
      (same : trader.settings = base.settings) : Follows base (.eventReactive trader)

section Calls

variable {G : Type} {source : RandomSource G} {base : BaseTrader}
  {participant : TradingParticipant G}

/-- A strategy other than that of the liquidity providers owes no quotes. -/
theorem not_provider {strategy : Strategy} (chosen : base.settings.strategy = strategy)
    (other : strategy ≠ .liquidityProvider) {conclusion : Prop} :
    base.settings.strategy = .liquidityProvider → conclusion :=
  fun provider => absurd (chosen.symm.trans provider) other

/-- A trader that is asked for its intents keeps its strategy, and answers as it should. -/
theorem nextIntents_conforms (sound : source.Sound) (follows : Follows base participant) (tick : Int)
    {snapshot : BookSnapshot} (priced : snapshot.Priced) :
    Follows base (participant.nextIntents source tick snapshot).1 ∧
      Conforms base (.nextIntents tick snapshot)
        (participant.nextIntents source tick snapshot).2 := by
  cases follows with
  | noise chosen random =>
    exact ⟨.noise chosen _, .of_sound (BaseTrader.noiseIntents_sound sound tick random)
      (not_provider chosen (by decide))⟩
  | momentum chosen previousMidpoint random =>
    exact ⟨.momentum chosen _ _,
      .of_sound (BaseTrader.momentumIntents_sound sound previousMidpoint tick snapshot random)
        (not_provider chosen (by decide))⟩
  | meanReversion chosen random =>
    exact ⟨.meanReversion chosen _,
      .of_sound (BaseTrader.meanReversionIntents_sound sound tick snapshot random)
        (not_provider chosen (by decide))⟩
  | liquidityProvider chosen random =>
    refine ⟨.liquidityProvider chosen _,
      .of_sound (BaseTrader.liquidityIntents_sound sound tick snapshot random) ?_⟩
    -- The call was for the intents at this tick.
    rintro _ _ _ ⟨⟩ due
    exact BaseTrader.liquidityIntents_quotes priced due random
  | eventReactive chosen trader same =>
    exact ⟨.eventReactive chosen _ ((trader.nextIntents_spec tick snapshot).1.trans same),
      .of_sound (EventReactiveTrader.nextIntents_sound same chosen priced tick)
        (not_provider chosen (by decide))⟩

/-- A call that asks for no intents has none, and the trader keeps its strategy. -/
theorem call_silent (source : RandomSource G) (follows : Follows base participant)
    {call : TraderCall} (other : ∀ tick snapshot, call ≠ .nextIntents tick snapshot) :
    Follows base (participant.call source call).1 ∧ (participant.call source call).2 = [] := by
  cases call with
  | nextIntents tick snapshot => exact absurd rfl (other tick snapshot)
  | applyPlan plan =>
    cases follows with
    | eventReactive chosen trader same =>
      -- A plan for another trader is refused, and one for this trader keeps its settings.
      simp only [TradingParticipant.call]
      cases took : trader.applyPlan plan with
      | error refused => exact ⟨.eventReactive chosen trader same, rfl⟩
      | ok applied =>
        obtain ⟨_, _, settings, _⟩ := EventReactiveTrader.applyPlan_ok took
        exact ⟨.eventReactive chosen applied (settings.trans same), rfl⟩
    | noise chosen random => exact ⟨.noise chosen random, rfl⟩
    | momentum chosen previousMidpoint random => exact ⟨.momentum chosen previousMidpoint random, rfl⟩
    | meanReversion chosen random => exact ⟨.meanReversion chosen random, rfl⟩
    | liquidityProvider chosen random => exact ⟨.liquidityProvider chosen random, rfl⟩
  -- Dropping concerns the reactive trader alone, whose settings stay.
  | dropLateOrders elapsedMs tickIntervalMs lag =>
    cases follows with
    | eventReactive chosen trader same =>
      have settings := (trader.dropLateOrders_spec elapsedMs tickIntervalMs lag).1
      exact ⟨.eventReactive chosen _ (settings.trans same), rfl⟩
    | noise chosen random => exact ⟨.noise chosen random, rfl⟩
    | momentum chosen previousMidpoint random => exact ⟨.momentum chosen previousMidpoint random, rfl⟩
    | meanReversion chosen random => exact ⟨.meanReversion chosen random, rfl⟩
    | liquidityProvider chosen random => exact ⟨.liquidityProvider chosen random, rfl⟩

/-- Every call keeps the strategy of a trader, and is answered as it should be. -/
theorem call_conforms (sound : source.Sound) (participant : TradingParticipant G)
    (call : TraderCall) (follows : Follows base participant) (priced : call.Priced) :
    Follows base (participant.call source call).1 ∧
      Conforms base call (participant.call source call).2 := by
  by_cases asked : ∃ tick snapshot, call = .nextIntents tick snapshot
  · -- Only the first kind of call is asked for intents.
    obtain ⟨tick, snapshot, rfl⟩ := asked
    exact nextIntents_conforms sound follows tick priced
  · have other : ∀ tick snapshot, call ≠ .nextIntents tick snapshot :=
      fun tick snapshot same => asked ⟨tick, snapshot, same⟩
    obtain ⟨kept, silent⟩ := call_silent source follows other
    rw [silent]
    exact ⟨kept, .of_sound (BaseTrader.silent_sound _)
      fun _ tick snapshot same => absurd same (other tick snapshot)⟩

/-- Every trader that is built has the strategy that its settings choose. -/
theorem buildTrader_follows (source : RandomSource G) {settings : TraderSettings}
    {tickIntervalMs : Int} (created : BaseTrader.create settings tickIntervalMs = .ok base)
    (same : base.settings = settings) :
    ∃ participant, buildTrader source settings tickIntervalMs = .ok participant ∧
      Follows base participant := by
  unfold buildTrader
  rw [created]
  subst same
  -- Each strategy has its own class of trader over the same base.
  cases chosen : base.settings.strategy with
  | noise => exact ⟨_, rfl, .noise chosen _⟩
  | momentum => exact ⟨_, rfl, .momentum chosen _ _⟩
  | meanReversion => exact ⟨_, rfl, .meanReversion chosen _⟩
  | liquidityProvider => exact ⟨_, rfl, .liquidityProvider chosen _⟩
  | eventReactive => exact ⟨_, rfl, .eventReactive chosen _ rfl⟩

/--
A trader of any settings can be built, and answers every sequence of calls with orders that an
exchange accepts; when it provides liquidity, it quotes both sides at every due tick.
-/
theorem traders_conform (sound : source.Sound) (settings : TraderSettings) {tickIntervalMs : Int}
    (positive : 1 ≤ tickIntervalMs) : ∃ base participant,
      BaseTrader.create settings tickIntervalMs = .ok base ∧ base.settings = settings ∧
      buildTrader source settings tickIntervalMs = .ok participant ∧
      ∀ calls : List TraderCall, (∀ call ∈ calls, call.Priced) →
        List.Forall₂ (Conforms base) calls
          (Machine.runTotal (TradingParticipant.call source) participant calls).2 := by
  obtain ⟨base, created, same⟩ : ∃ base, BaseTrader.create settings tickIntervalMs = .ok base ∧
      base.settings = settings := by
    -- A positive interval of a positive tick has a number of ticks.
    obtain ⟨ticks, counted, _⟩ := ticksForInterval_spec settings.intervalSeconds_pos positive
    unfold BaseTrader.create
    split
    · rename_i raised
      cases counted.symm.trans raised
    · exact ⟨_, rfl, rfl⟩
  obtain ⟨participant, built, follows⟩ := buildTrader_follows source created same
  -- Every call keeps the strategy, and so every answer conforms.
  exact ⟨base, participant, created, same, built, fun calls priced =>
    Machine.runTotal_related (Follows base) TraderCall.Priced (Conforms base)
      (call_conforms sound) calls participant follows priced⟩

/-- The band of the provider is not negative. -/
theorem providerBand_nonneg : (0 : Int) ≤ 200 := by decide

/-- A liquidity provider whose band reaches below zero. -/
def provider : TraderSettings :=
  { reactor with
    strategy := .liquidityProvider
    maxOffsetSteps := 200
    maxOffsetSteps_nonneg := providerBand_nonneg }

/-- A provider with nothing but a cheap offer in the book is asked twice. -/
theorem traders_conform_provider : ∃ base participant,
    BaseTrader.create provider 1000 = .ok base ∧
    buildTrader .least provider 1000 = .ok participant ∧
    List.Forall₂ (Conforms base)
      [.nextIntents 1 ⟨"005930", [], [⟨1, 5⟩]⟩, .nextIntents 2 ⟨"005930", [], []⟩]
      (Machine.runTotal (TradingParticipant.call .least) participant
        [.nextIntents 1 ⟨"005930", [], [⟨1, 5⟩]⟩, .nextIntents 2 ⟨"005930", [], []⟩]).2 := by
  obtain ⟨base, participant, created, _, built, conforms⟩ :=
    traders_conform least_sound provider (show 1 ≤ 1000 by decide)
  refine ⟨base, participant, created, built, conforms _ fun call member => ?_⟩
  -- All prices of both books are positive.
  rcases List.mem_cons.mp member with rfl | member
  · simp [TraderCall.Priced, BookSnapshot.Priced]
  · obtain rfl := List.mem_singleton.mp member
    simp [TraderCall.Priced, BookSnapshot.Priced]

/-- The bid is raised to one step, and the ask stays above it. -/
example : (buildTrader RandomSource.least provider 1000).map (fun participant =>
    (participant.nextIntents .least 1 ⟨"005930", [], [⟨1, 5⟩]⟩).2.map fun intent =>
      (intent.side, intent.price)) = .ok [(.buy, 1), (.sell, 2)] := by rfl

end Calls

end StockMarket
