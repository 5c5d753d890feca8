import Mathlib.Data.Finset.Insert
import Mathlib.Data.List.Lex
import StockMarket.Events.MarketEvents
import StockMarket.Participants.EventReactive
import StockMarket.Participants.Planner

/-! The coordinator, which hands the reactions to news events out to dormant traders. -/

namespace StockMarket

/-- What has become of one event: the orders it planned, and those submitted or dropped so far. -/
structure EventRunState where
  eventId : CodePoints
  planned : Nat
  submitted : Nat
  dropped : Nat
  activated : Nat
  firstReactionLogged : Bool
  completed : Bool
  userIds : Finset String
  deriving DecidableEq

/-- An event of which nothing has happened. -/
def EventRunState.start (eventId : CodePoints) : EventRunState :=
  ⟨eventId, 0, 0, 0, 0, false, false, ∅⟩

/-- The scheduled events, in the order of their times, and how many of them have been taken. -/
structure SyntheticEventSource where
  events : List NewsShockEvent
  nextIndex : Nat

namespace SyntheticEventSource

/-- Events are taken by their times, and by their ids at the same time. -/
def create (events : List NewsShockEvent) : SyntheticEventSource :=
  ⟨events.insertionSort fun first second => first.startsAfterMs < second.startsAfterMs ∨
    first.startsAfterMs = second.startsAfterMs ∧ first.eventId ≤ second.eventId, 0⟩

/-- Take the events whose time has come. -/
def dueEvents (source : SyntheticEventSource) (elapsedMs : Int) :
    SyntheticEventSource × List NewsShockEvent :=
  let due := (source.events.drop source.nextIndex).takeWhile fun event =>
    event.startsAfterMs ≤ elapsedMs
  -- The cursor moves before any of the events is applied.
  ({ source with nextIndex := source.nextIndex + due.length }, due)

end SyntheticEventSource

/-- The coordinator with its planner, its traders and its running events. -/
structure EventCoordinator where
  tickIntervalMs : Int
  startedMs : Int
  source : SyntheticEventSource
  traders : Dict String EventReactiveTrader
  planner : ReactionPlanner
  traderEvent : Dict String CodePoints
  eventMaxLag : Dict CodePoints Int
  runs : Dict CodePoints EventRunState
  eventsReceived : Nat
  eventsDeduplicated : Nat
  activatedTraders : Nat
  reactionsPlanned : Nat
  reactionsSubmitted : Nat
  reactionsDropped : Nat
  schedulerLagMaxMs : Int
  liveEvents : Dict CodePoints NewsShockEvent
  liveEventIds : Finset CodePoints

/-- What applying an event comes to; a plan is reported with the orders dropped to make room. -/
inductive Applied where
  | deduplicated
  | planned (plan : ResolvedEventPlan) (abandoned : Nat)

/-- The presets of market events by their impacts. -/
def presetByImpact : List (String × EventPreset) :=
  [("low", .minorNews), ("medium", .breakingNews), ("high", .marketPanic)]

namespace EventCoordinator

/-- The traders among the participants, by user; of two with one user, the later one counts. -/
def reactiveTraders (participants : List TraderSettings) : Dict String EventReactiveTrader :=
  (participants.filter fun settings => settings.strategy = .eventReactive).foldl
    (fun traders settings => traders.set settings.userId (.dormant settings)) .empty

/-- A coordinator before anything has happened; all traders are dormant. -/
def create (events : List NewsShockEvent) (participants : List TraderSettings)
    (tickIntervalMs now : Int) : Except ValueError EventCoordinator :=
  if valid : 1 ≤ tickIntervalMs then
    .ok ⟨tickIntervalMs, now, .create events, reactiveTraders participants,
      ⟨tickIntervalMs, .empty, valid⟩, .empty, .empty, .empty, 0, 0, 0, 0, 0, 0, 0, .empty, ∅⟩
  else .error ⟨"tick_interval_ms must be positive"⟩

/-- The symbols that have traders who react. -/
def eventSymbols (coordinator : EventCoordinator) : List String :=
  (coordinator.traders.items.map fun item => item.2.symbol).dedup.insertionSort (· ≤ ·)

/-- The orders of an event that its traders still have to emit. -/
def remainingOf (coordinator : EventCoordinator) (eventId : CodePoints) : Nat :=
  coordinator.traders.total fun userId trader =>
    if coordinator.traderEvent.get? userId = some eventId then trader.remainingReactionOrders else 0

/-- Count dropped orders; an event with orders has a run. -/
def recordDrops (coordinator : EventCoordinator) (eventId : CodePoints) (dropped : Nat) :
    EventCoordinator :=
  { coordinator with
    reactionsDropped := coordinator.reactionsDropped + dropped
    runs := coordinator.runs.modify eventId fun run => { run with dropped := run.dropped + dropped } }

/-- Count a submitted order of an event, with the time by which it was late. -/
def recordSubmit (coordinator : EventCoordinator) (eventId : CodePoints) (lag : Int) :
    EventCoordinator :=
  { coordinator with
    reactionsSubmitted := coordinator.reactionsSubmitted + 1
    runs := coordinator.runs.modify eventId fun run =>
      { run with submitted := run.submitted + 1, firstReactionLogged := true }
    schedulerLagMaxMs := max coordinator.schedulerLagMaxMs lag }

/-- A run is complete once its traders have nothing left. -/
def maybeComplete (coordinator : EventCoordinator) (eventId : CodePoints) : EventCoordinator :=
  { coordinator with
    runs := coordinator.runs.modify eventId fun run =>
      -- A run without orders is never completed.
      if run.completed ∨ run.planned = 0 then run
      else if coordinator.remainingOf eventId ≠ 0 then run
      else { run with completed := true } }

/-- Take a trader off its event, and count what it still had to do as dropped. -/
def abandonPreviousEvent (coordinator : EventCoordinator) (trader : EventReactiveTrader)
    (userId : String) : EventCoordinator × Nat :=
  let previous := coordinator.traderEvent.get? userId
  let coordinator := { coordinator with traderEvent := coordinator.traderEvent.erase userId }
  let leftover := trader.remainingReactionOrders
  match previous with
  | none => (coordinator, 0)
  | some previousEventId =>
    if leftover = 0 then (coordinator, 0)
    -- What was left over is dropped, which may complete the event before.
    else ((coordinator.recordDrops previousEventId leftover).maybeComplete previousEventId, leftover)

/-- Assign a trader that reacts to its event. -/
def activate (coordinator : EventCoordinator) (eventId : CodePoints) (reaction : ResolvedReactionPlan) :
    EventCoordinator :=
  if ¬ reaction.activated then coordinator
  else { coordinator with
    runs := coordinator.runs.modify eventId fun run =>
      { run with
        activated := run.activated + 1
        planned := run.planned + reaction.orderCount
        userIds := insert reaction.userId run.userIds }
    traderEvent := coordinator.traderEvent.set reaction.userId eventId
    activatedTraders := coordinator.activatedTraders + 1
    reactionsPlanned := coordinator.reactionsPlanned + reaction.orderCount }

/-- Hand the reactions of an event out one by one, and add up what was dropped to make room. -/
def assignPlans (eventId : CodePoints) :
    EventCoordinator → List ResolvedReactionPlan → EventCoordinator × Except ValueError Nat
  | coordinator, [] => (coordinator, .ok 0)
  | coordinator, reaction :: later =>
    match coordinator.traders.get? reaction.userId with
    | none => assignPlans eventId coordinator later
    | some trader =>
      let (coordinator, abandoned) := coordinator.abandonPreviousEvent trader reaction.userId
      -- A trader has been taken off its event even if it refuses the plan.
      match trader.applyPlan reaction with
      | .error error => (coordinator, .error error)
      | .ok applied =>
        let coordinator :=
          { coordinator with traders := coordinator.traders.set reaction.userId applied }
        let (coordinator, others) := assignPlans eventId (coordinator.activate eventId reaction) later
        (coordinator, others.map fun more => abandoned + more)

/-- The traders that have nothing left to do. -/
def candidates (coordinator : EventCoordinator) : List ReactionCandidate :=
  ((coordinator.traders.items.map Prod.snd).filter fun trader =>
    trader.remainingReactionOrders = 0).map EventReactiveTrader.reactionCandidate

/-- Receive an event: remember its bound on late orders, and open a run unless there is one. -/
def openRun (coordinator : EventCoordinator) (eventId : CodePoints) (maxSchedulerLagMs : Int) :
    EventCoordinator :=
  { coordinator with
    eventsReceived := coordinator.eventsReceived + 1
    eventMaxLag := coordinator.eventMaxLag.set eventId maxSchedulerLagMs
    runs := match coordinator.runs.get? eventId with
      -- An event that is received again keeps its run.
      | some _ => coordinator.runs
      | none => coordinator.runs.set eventId (.start eventId) }

section Apply

variable {G : Type} (random : RandomSource G)

/-- Plan the reactions to an event, once, and hand them out. -/
def applyEvent (coordinator : EventCoordinator) (event : NewsShockEvent) :
    EventCoordinator × Except ValueError Applied :=
  let (planner, planned) := coordinator.planner.planOnce random event coordinator.candidates
  -- The planner may have noted the event before an error is raised.
  let coordinator := { coordinator with planner }
  match planned with
  | .error error => (coordinator, .error error)
  | .ok none =>
    ({ coordinator with eventsDeduplicated := coordinator.eventsDeduplicated + 1 },
      .ok .deduplicated)
  | .ok (some plan) =>
    let (coordinator, assigned) :=
      assignPlans event.eventId (coordinator.openRun event.eventId plan.maxSchedulerLagMs)
        plan.reactions
    (coordinator, assigned.map fun abandoned => .planned plan abandoned)

/-- Whether a market event says the same as the one that was received first. -/
def samePayload (existing : NewsShockEvent) (symbol : String) (preset : EventPreset)
    (directionHint : DirectionHint) (label source : String) : Bool :=
  existing.symbol = symbol ∧ existing.preset = preset ∧ existing.directionHint = directionHint ∧
    existing.label = label ∧ existing.source = source

/-- Apply a market event in a tick, or apply the one received first again if it says the same. -/
def applyMarketEvent (coordinator : EventCoordinator)
    (eventId : CodePoints) (symbol direction impact label source : String) (tick : Int) :
    EventCoordinator × Except ValueError Applied :=
  if tick < 1 then (coordinator, .error ⟨"tick must be positive"⟩)
  else match directionHints.lookup direction with
  | none => (coordinator, .error ⟨"market event direction is invalid"⟩)
  | some directionHint =>
    match presetByImpact.lookup impact with
    | none => (coordinator, .error ⟨"market event impact is invalid"⟩)
    | some preset =>
      match coordinator.liveEvents.get? eventId with
      | some existing =>
        -- The event is compared with the one that came first.
        if ¬ samePayload existing symbol preset directionHint label source then
          (coordinator, .error ⟨"event_id was already used with a different payload"⟩)
        else coordinator.applyEvent random existing
      | none =>
        match NewsShockEvent.create eventId symbol (tick * coordinator.tickIntervalMs) preset
            directionHint label source 42 with
        | .error error => (coordinator, .error error)
        | .ok event =>
          -- It is live from here on, whether or not its plan can be made.
          let coordinator := { coordinator with
            liveEvents := coordinator.liveEvents.set eventId event
            liveEventIds := insert eventId coordinator.liveEventIds }
          coordinator.applyEvent random event

/-- Apply events in order; the first one that fails keeps the later ones from being applied. -/
def applyDue : EventCoordinator → List NewsShockEvent →
    EventCoordinator × List (Except ValueError Applied)
  | coordinator, [] => (coordinator, [])
  | coordinator, event :: later =>
    match coordinator.applyEvent random event with
    -- The rest of the batch is lost with the error.
    | (coordinator, .error error) => (coordinator, [.error error])
    | (coordinator, .ok applied) =>
      let (coordinator, outcomes) := applyDue coordinator later
      (coordinator, .ok applied :: outcomes)

end Apply

/-- Drop the late orders of one trader; live events are on time by the tick, others by the clock. -/
def dropLateOrdersOf (elapsedMs tick : Int) (coordinator : EventCoordinator) (userId : String) :
    EventCoordinator :=
  match coordinator.traders.get? userId, coordinator.traderEvent.get? userId with
  | some trader, some eventId =>
    let schedulerMs :=
      if eventId ∈ coordinator.liveEventIds then tick * coordinator.tickIntervalMs else elapsedMs
    -- An event that has traders has a bound on its lag.
    let maxLagMs := (coordinator.eventMaxLag.get? eventId).getD 0
    let (trader, dropped) := trader.dropLateOrders schedulerMs coordinator.tickIntervalMs maxLagMs
    let coordinator := { coordinator with traders := coordinator.traders.set userId trader }
    -- Without drops the run of the event is not touched.
    if dropped = 0 then coordinator else coordinator.recordDrops eventId dropped
  | _, _ => coordinator

/-- Every trader drops its late orders. -/
def dropLateOrders (coordinator : EventCoordinator) (elapsedMs tick : Int) : EventCoordinator :=
  coordinator.traders.keys.foldl (dropLateOrdersOf elapsedMs tick) coordinator

/-- Before a tick the due events are applied; when that succeeds, late orders are dropped. -/
def beforeTick {G : Type} (random : RandomSource G) (coordinator : EventCoordinator)
    (tick now : Int) : EventCoordinator × List (Except ValueError Applied) :=
  let elapsed := now - coordinator.startedMs
  let (source, due) := coordinator.source.dueEvents elapsed
  let (coordinator, outcomes) := applyDue random { coordinator with source } due
  -- An error leaves the tick before any order is dropped.
  if outcomes.any fun outcome => outcome.toOption.isNone then (coordinator, outcomes)
  else
    let coordinator := coordinator.dropLateOrders elapsed tick
    -- Every run is looked at, in the order in which they were opened.
    (coordinator.runs.keys.foldl maybeComplete coordinator, outcomes)

/-- An intent comes back; it counts for the event to which its trader is assigned by now. -/
def afterSubmit (coordinator : EventCoordinator) (intent : OrderIntent) (submitted : Bool)
    (tick now : Int) : EventCoordinator :=
  match coordinator.traderEvent.get? intent.userId with
  | none => coordinator
  | some eventId =>
    -- An order that was not accepted counts as dropped.
    if ¬ submitted then (coordinator.recordDrops eventId 1).maybeComplete eventId
    else
      let scheduledMs := tick * coordinator.tickIntervalMs
      let currentMs :=
        -- A live event is timed by ticks, and so it is never late here.
        if eventId ∈ coordinator.liveEventIds then scheduledMs else now - coordinator.startedMs
      let lag := max 0 (currentMs - scheduledMs)
      (coordinator.recordSubmit eventId lag).maybeComplete eventId

/-- A trader of the coordinator emits the orders whose tick has come. -/
def nextIntents (coordinator : EventCoordinator) (userId : String) (tick : Int)
    (snapshot : BookSnapshot) : EventCoordinator × List OrderIntent :=
  match coordinator.traders.get? userId with
  | none => (coordinator, [])
  | some trader =>
    let (trader, intents) := trader.nextIntents tick snapshot
    ({ coordinator with traders := coordinator.traders.set userId trader }, intents)

end EventCoordinator

end StockMarket
