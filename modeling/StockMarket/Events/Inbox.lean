import StockMarket.Events.MarketEvents
import StockMarket.Library.Program

/-! The inbox of market events: its requests as programs of database operations. -/

namespace StockMarket

/-- A stored event and how far it has come. -/
structure InboxRow where
  event : MarketEvent
  state : EventState
  deriving DecidableEq

/-- The rows by their event identifiers. -/
abbrev Inbox := Dict String InboxRow

/-- Queries and saves, each of which is atomic. -/
inductive InboxOp where
  | get (eventId : String)
  | create (event : MarketEvent)
  | pendingRows
  | select (symbols : List String)
  | save (eventId : String) (state : EventState)

/-- What an operation replies; a creation or a save replies whether it went through. -/
def InboxOp.Reply : InboxOp → Type
  | .get _ => Option InboxRow
  | .create _ => Bool
  | .pendingRows => List InboxRow
  | .select _ => List MarketEvent
  | .save _ _ => Bool

/-- The order of the pending results: first the oldest detection, then the identifier. -/
def MarketEvent.precedes (first second : MarketEvent) : Bool :=
  first.detectedAt < second.detectedAt ∨
    first.detectedAt = second.detectedAt ∧ first.eventId ≤ second.eventId

namespace Inbox

/-- The rows that are still to be acknowledged, in their order. -/
def pendingRows (inbox : Inbox) : List InboxRow :=
  (inbox.items.map Prod.snd).filter fun row => row.state = .pending

/-- At most a hundred pending events of some symbols, in order. -/
def select (inbox : Inbox) (symbols : List String) : List MarketEvent :=
  (((inbox.pendingRows.map InboxRow.event).filter fun event =>
    event.symbol ∈ symbols).mergeSort MarketEvent.precedes).take 100

/-- A save writes the state alone, to a row that must exist. -/
def save (inbox : Inbox) (eventId : String) (state : EventState) : Inbox × Bool :=
  match inbox.get? eventId with
  | some row => (inbox.set eventId { row with state }, true)
  | none => (inbox, false)

/-- A creation fails when the identifier is taken. -/
def create (inbox : Inbox) (event : MarketEvent) : Inbox × Bool :=
  match inbox.get? event.eventId with
  | some _ => (inbox, false)
  | none => (inbox.set event.eventId ⟨event, .pending⟩, true)

/-- What an operation does to the inbox. -/
def exec (inbox : Inbox) : (op : InboxOp) → Inbox × op.Reply
  | .get eventId => (inbox, inbox.get? eventId)
  | .create event => inbox.create event
  | .pendingRows => (inbox, inbox.pendingRows)
  | .select symbols => (inbox, inbox.select symbols)
  | .save eventId state => inbox.save eventId state

end Inbox

/-- What an answer says. -/
inductive InboxBody where
  | event (eventId status : String) (state : EventState)
  | stale (eventId : String)
  | pending (marketOpen : Bool) (results : List EventItem)
  | detail (text : String)
  | errors (errors : FieldErrors)
  deriving DecidableEq

/-- An answer with its status. -/
structure InboxResponse where
  status : Nat
  body : InboxBody
  deriving DecidableEq

/-- The answer to a database error. -/
def InboxResponse.serverError : InboxResponse := ⟨500, .detail "Server Error (500)"⟩

/-- What a view does, one operation after the other. -/
abbrev InboxProgram := Program InboxOp InboxOp.Reply

namespace InboxProgram

/-- Look an event up. -/
def getRow (eventId : String) : InboxProgram (Option InboxRow) := Program.perform (InboxOp.get eventId)

/-- Store a new event; the answer tells whether it was new. -/
def createRow (event : MarketEvent) : InboxProgram Bool := Program.perform (InboxOp.create event)

/-- Read the rows that are pending. -/
def readPending : InboxProgram (List InboxRow) := Program.perform InboxOp.pendingRows

/-- Select the pending events of some symbols. -/
def selectEvents (symbols : List String) : InboxProgram (List MarketEvent) :=
  Program.perform (InboxOp.select symbols)

/-- Save the state of an event; the answer tells whether it was there. -/
def saveState (eventId : String) (state : EventState) : InboxProgram Bool :=
  Program.perform (InboxOp.save eventId state)

end InboxProgram

open InboxProgram

/-- The row of an event and whether it is new; a row that vanishes in between is an error. -/
def getOrCreate (event : MarketEvent) : InboxProgram (Option (InboxRow × Bool)) := do
  match ← getRow event.eventId with
  | some row => return some (row, false)
  | none =>
    -- Another request may have created the row in between, so it is read again.
    if ← createRow event then return some (⟨event, .pending⟩, true)
    else return (← getRow event.eventId).map fun row => (row, false)

/-- A stored event has the same payload as a request, which leaves the identifier out. -/
def InboxRow.marketEventMatches (row : InboxRow) (event : MarketEvent) : Bool :=
  { row.event with eventId := event.eventId } = event

/-- Take an event in, unless it is known with other fields. -/
def ingestMarketEvent (fields : MarketEventFields) : InboxProgram InboxResponse :=
  match fields.serialize with
  | .error errors => return ⟨400, .errors errors⟩
  | .ok event => do
    match ← getOrCreate event with
    | none => return .serverError
    | some (row, true) => return ⟨201, .event row.event.eventId "accepted" row.state⟩
    | some (row, false) =>
      -- A known identifier is a duplicate or a conflict, by its payload.
      if row.marketEventMatches event then
        return ⟨200, .event row.event.eventId "duplicate" row.state⟩
      else return ⟨409, .detail "event_id already exists with a different payload"⟩

/-- The settings of the pending query. -/
structure InboxSettings where
  mode : MarketMode
  maxAgeSeconds : Int

/-- The moment that an event's age is counted from. -/
def MarketEvent.referenceTime (event : MarketEvent) : Instant :=
  event.occurredAt.getD event.detectedAt

/-- Save the rows that are too old as stale, one after the other. -/
def markStaleMarketEvents (cutoff : Instant) : List InboxRow → InboxProgram Bool
  | [] => return true
  | row :: rows => do
    if row.event.referenceTime < cutoff then
      -- A row that has vanished is an error of the database.
      if ← saveState row.event.eventId .stale then markStaleMarketEvents cutoff rows
      else return false
    else markStaleMarketEvents cutoff rows

/-- Show the pending events of some symbols. -/
def pendingMarketEvents (settings : InboxSettings) (raw : String) (openAt now : Instant) :
    InboxProgram InboxResponse :=
  match parseEventSymbols raw with
  | .error errors => return ⟨400, .errors errors⟩
  | .ok [] => return ⟨400, .errors [("symbols", ["at least one six-digit symbol is required"])]⟩
  | .ok symbols =>
    -- While the market is closed no event is given out, and none gets stale.
    if ¬ isOpen settings.mode openAt then return ⟨200, .pending false []⟩
    else do
      let rows ← readPending
      -- What has become too old is saved as stale before the query is answered.
      if ← markStaleMarketEvents (now - settings.maxAgeSeconds * 1000000) rows then
        return ⟨200, .pending true ((← selectEvents symbols).map MarketEvent.dispatchPayload)⟩
      else return .serverError

/-- Acknowledge an event. -/
def acknowledgeMarketEvent (eventId : String) : InboxProgram InboxResponse := do
  match ← getRow eventId with
  | none => return ⟨404, .detail "No MarketEventInbox matches the given query."⟩
  | some row =>
    match row.state with
    -- A stale event is not acknowledged any more.
    | .stale => return ⟨409, .stale row.event.eventId⟩
    -- A second acknowledgement says so, and changes nothing.
    | .dispatched => return ⟨200, .event row.event.eventId "duplicate" .dispatched⟩
    | .pending =>
      if ← saveState row.event.eventId .dispatched then
        return ⟨200, .event row.event.eventId "acknowledged" .dispatched⟩
      else return .serverError

/-- Requests to the inbox, the pending query with its clock readings. -/
inductive InboxRequest where
  | ingest (fields : MarketEventFields)
  | pending (symbols : String) (openAt now : Instant)
  | acknowledge (eventId : String)

/-- The view that serves a request. -/
def InboxRequest.program (settings : InboxSettings) : InboxRequest → InboxProgram InboxResponse
  | .ingest fields => ingestMarketEvent fields
  | .pending symbols openAt now => pendingMarketEvents settings symbols openAt now
  | .acknowledge eventId => acknowledgeMarketEvent eventId

/-- Requests are served by any number of threads on one inbox, and no operation waits. -/
def inboxService (settings : InboxSettings) :
    Service InboxOp InboxOp.Reply InboxResponse Inbox Nat InboxRequest Unit where
  exec inbox _ op := some (inbox.exec op)
  serve inbox _ request := some (inbox, request.program settings)

/-- The inbox with the requests on the way. -/
abbrev InboxSystem := Shared InboxOp InboxOp.Reply InboxResponse Inbox Nat InboxRequest

/-- A request arrives, or a view takes a step. -/
abbrev InboxTurn := Turn Nat InboxRequest Unit

/-- An inbox without events, and no request on the way. -/
def InboxSystem.new : InboxSystem := ⟨.empty, .empty⟩

end StockMarket
