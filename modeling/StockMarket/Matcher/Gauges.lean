import StockMarket.Matcher.SessionIsolation

/-! The gauges of depth and open orders, as the requests of a matcher process set them. -/

namespace StockMarket

/-- What the gauges of a matcher process show; a gauge is absent until it is first set. -/
structure Gauges where
  orderbookDepth : Dict (String × OrderSide) Int
  orderbookOpenOrders : Dict String Nat

namespace Gauges

/-- Gauges that nothing was written to. -/
def new : Gauges := ⟨.empty, .empty⟩

/-- Set the depth of one side of a symbol. -/
def setDepth (gauges : Gauges) (symbol : String) (side : OrderSide) (quantity : Int) : Gauges :=
  { gauges with orderbookDepth := gauges.orderbookDepth.set (symbol, side) quantity }

/-- Set the number of open orders of a symbol. -/
def setOpenOrders (gauges : Gauges) (symbol : String) (count : Nat) : Gauges :=
  { gauges with orderbookOpenOrders := gauges.orderbookOpenOrders.set symbol count }

/-- Set the depth of one side to the quantity that its book replied. -/
def showDepth (gauges : Gauges) (symbol : String) (side : OrderSide) : BookReply → Gauges
  | .quantity quantity => gauges.setDepth symbol side quantity
  | _ => gauges

/-- Set all gauges of a symbol to zero. -/
def clear (gauges : Gauges) (symbol : String) : Gauges :=
  ((gauges.setDepth symbol .buy 0).setDepth symbol .sell 0).setOpenOrders symbol 0

/-- The gauges of a symbol show the quantity and the number of the given orders. -/
structure Shows (gauges : Gauges) (symbol : String) (resting : OrderSide → List Rested) : Prop where
  depth : ∀ side, gauges.orderbookDepth.get? (symbol, side) =
    some (supply Rested.remainingQuantity (resting side))
  openOrders : gauges.orderbookOpenOrders.get? symbol =
    some ((resting .buy).length + (resting .sell).length)

end Gauges

/-- The books of a matcher process together with its gauges. -/
structure Metered where
  registry : Registry
  gauges : Gauges

namespace Metered

/-- A matcher at its start, with its gauges. -/
def new : Metered := ⟨.new, .new⟩

/-- Start a newer session before a request, and set the gauges of the cleared symbols to zero. -/
def rolloverMarketSession (metered : Metered) (settings : MatcherSettings) (now : Instant) :
    Metered :=
  if settings.mode = .alwaysOpen then metered
  else
    let (registry, clearedSymbols) := metered.registry.rollover (sessionDate settings.mode now)
    ⟨registry, clearedSymbols.foldl Gauges.clear metered.gauges⟩

/-- Read the totals of a symbol's book into its gauges. -/
def updateOrderbookDepth (metered : Metered) (owned : Ownership) (symbol : String)
    (buyAt sellAt : ℚ) : Except Fault (Metered × Except BookError Unit) := do
  match metered.registry.get owned symbol with
  | (registry, .ok (some ref)) =>
    let (registry, bought, _) ← registry.call ref (.totalQuantity .buy buyAt)
    let gauges := metered.gauges.showDepth symbol .buy bought
    let (registry, sold, _) ← registry.call ref (.totalQuantity .sell sellAt)
    let gauges := gauges.showDepth symbol .sell sold
    -- The count takes no clock reading, so it is of the orders that the last total left.
    let book ← registry.object ref
    return (⟨registry, gauges.setOpenOrders symbol book.openOrderCount⟩, .ok ())
  | (registry, .ok none) => return (⟨registry, metered.gauges⟩, .ok ())
  | (registry, .error error) => return (⟨registry, metered.gauges⟩, .error error)

/-- The answer after reading the totals, which an exception replaces. -/
def answerWith (response : Response) : Metered × Except BookError Unit → Metered × Response
  | (metered, .ok _) => (metered, response)
  | (metered, .error _) => (metered, serverError)

/-- Match a valid order that this process owns, and then read the totals. -/
def placeOrder (metered : Metered) (settings : MatcherSettings) (clock : Readings)
    (order : Order) : Except Fault (Metered × Response) := do
  let (registry, outcome) ←
    metered.registry.submit settings.owned order clock.bookAt clock.restAt
  let metered : Metered := ⟨registry, metered.gauges⟩
  match outcome with
  | .ok (.matched result) =>
    return answerWith ⟨201, .matchResult result⟩ (← metered.updateOrderbookDepth settings.owned
      order.symbol clock.buyDepthAt clock.sellDepthAt)
  | _ => return (metered, serverError)

/-- Cancel an order, and read the totals unless there was nothing to cancel. -/
def takeOrder (metered : Metered) (settings : MatcherSettings) (clock : Readings)
    (orderId : UUID) : Except Fault (Metered × Response) := do
  let (registry, outcome) ← metered.registry.cancel settings.owned orderId clock.bookAt
  let metered : Metered := ⟨registry, metered.gauges⟩
  match outcome with
  | .ok (.canceled taken) =>
    return answerWith (canceledAnswer taken) (← metered.updateOrderbookDepth settings.owned
      taken.order.symbol clock.buyDepthAt clock.sellDepthAt)
  | .ok (.raised (.orderNotFound _)) | .error (.book (.orderNotFound _)) =>
    return (metered, alreadyClosed orderId)
  | _ => return (metered, serverError)

/-- Call the book of a symbol and answer with what it replies; no gauge is set. -/
def readBook (metered : Metered) (settings : MatcherSettings) (symbol : String) (op : BookOp)
    (answer : BookReply → Response) : Except Fault (Metered × Response) := do
  let (registry, response) ← metered.registry.readBook settings symbol op answer
  return (⟨registry, metered.gauges⟩, response)

/-- Carry out a settled request. -/
def carryOut (metered : Metered) (settings : MatcherSettings) (clock : Readings) :
    Task → Except Fault (Metered × Response)
  | .refuse response => .ok (metered, response)
  | .place order => metered.placeOrder settings clock order
  | .take orderId => metered.takeOrder settings clock orderId
  | .look symbol op answer => metered.readBook settings symbol op answer

/-- Answer one request, which a closed market may refuse before the session is looked at. -/
def handle (metered : Metered) (settings : MatcherSettings) (clock : Readings)
    (request : Request) : Except Fault (Metered × Response) :=
  if request.isOrder = true ∧ ¬ isOpen settings.mode clock.openAt then
    .ok (metered, marketClosed)
  else (metered.rolloverMarketSession settings clock.sessionAt).carryOut settings clock
    (request.task settings clock)

/-- Answer one request and note the answer. -/
def answer (metered : Metered) (settings : MatcherSettings) :
    Readings × Request → Except Fault (Metered × Answered)
  | (clock, request) => (metered.handle settings clock request).map fun (metered, response) =>
    (metered, ⟨clock, request, response⟩)

/-- Answer requests one at a time. -/
def serve (settings : MatcherSettings) : Metered → List (Readings × Request) →
    Except Fault (Metered × List Answered) :=
  Machine.run fun metered => metered.answer settings

end Metered

/-- The books and the answer of a request, without the gauges. -/
def Metered.unmetered {α : Type} (outcome : Except Fault (Metered × α)) :
    Except Fault (Registry × α) :=
  outcome.map fun (metered, answer) => (metered.registry, answer)

section Same

variable (metered : Metered) (settings : MatcherSettings) (clock : Readings)

/-- The gauges do not change which session a request starts. -/
theorem rolloverMarketSession_registry (now : Instant) :
    (metered.rolloverMarketSession settings now).registry =
      metered.registry.rolloverMarketSession settings now := by
  unfold Metered.rolloverMarketSession Registry.rolloverMarketSession
  split <;> rfl

/-- A book that was called is still there. -/
theorem object_of_call {registry registry' : Registry} {ref : Nat} {op : BookOp}
    {reply : BookReply} {calls : List Callback}
    (ran : registry.call ref op = .ok (registry', reply, calls)) :
    ∃ book, registry'.object ref = .ok book := by
  -- A call replaces an object, and never removes one.
  obtain ⟨book, found, ran⟩ := Outcome.bind_eq_ok ran
  obtain ⟨⟨book', reply', calls'⟩, _, ran⟩ := Outcome.bind_eq_ok ran
  cases ran
  refine ⟨book', ?_⟩
  have inside : ref < registry.objects.length := by
    unfold Registry.object at found
    cases there : registry.objects[ref]? with
    | none =>
      rw [there] at found
      cases found
    | some _ => exact (List.getElem?_eq_some_iff.mp there).1
  simp [Registry.object, Registry.after, inside]

/-- The totals are read from the books as before. -/
theorem updateOrderbookDepth_registry (owned : Ownership) (symbol : String) (buyAt sellAt : ℚ) :
    Metered.unmetered (metered.updateOrderbookDepth owned symbol buyAt sellAt) =
      metered.registry.updateOrderbookDepth owned symbol buyAt sellAt := by
  -- The gauges are set beside the same two calls.
  unfold Metered.updateOrderbookDepth Registry.updateOrderbookDepth
  obtain ⟨registry, _ | _ | ref⟩ := metered.registry.get owned symbol
  · rfl
  · rfl
  · simp only [Bind.bind, Except.bind, Pure.pure, Except.pure]
    cases registry.call ref (.totalQuantity .buy buyAt) with
    | error fault => rfl
    | ok called =>
      simp only
      cases again : called.1.call ref (.totalQuantity .sell sellAt) with
      | error fault => rfl
      | ok called' =>
        obtain ⟨book, found⟩ := object_of_call again
        simp only [found, Metered.unmetered, Except.map]

/-- An answer that follows the reading of the totals does not depend on the gauges. -/
theorem answerWith_registry (owned : Ownership) (symbol : String) (buyAt sellAt : ℚ)
    (response : Response) :
    Metered.unmetered (do
      return Metered.answerWith response
        (← metered.updateOrderbookDepth owned symbol buyAt sellAt)) = (do
      return Registry.answerWith response
        (← metered.registry.updateOrderbookDepth owned symbol buyAt sellAt)) := by
  rw [← updateOrderbookDepth_registry]
  cases metered.updateOrderbookDepth owned symbol buyAt sellAt with
  | error fault => rfl
  | ok updated => obtain ⟨metered, _ | _⟩ := updated <;> rfl

/-- A settled request is carried out on the books as before. -/
theorem carryOut_registry (task : Task) :
    Metered.unmetered (metered.carryOut settings clock task) =
      metered.registry.carryOut settings clock task := by
  -- Each task does the same with the registry, and the gauges are set afterwards.
  cases task with
  | refuse response => rfl
  | place order =>
    simp only [Metered.carryOut, Registry.carryOut, Metered.placeOrder, Registry.placeOrder]
    cases metered.registry.submit settings.owned order clock.bookAt clock.restAt with
    | error fault => rfl
    | ok submitted =>
      obtain ⟨registry, _ | reply⟩ := submitted
      · rfl
      · cases reply with
        | matched result => exact answerWith_registry ⟨registry, metered.gauges⟩ _ _ _ _ _
        | _ => rfl
  -- A cancel may end with an error, which sets no gauge.
  | take orderId =>
    simp only [Metered.carryOut, Registry.carryOut, Metered.takeOrder, Registry.takeOrder]
    cases metered.registry.cancel settings.owned orderId clock.bookAt with
    | error fault => rfl
    | ok canceled =>
      obtain ⟨registry, error | reply⟩ := canceled
      · rcases error with _ | _ | _ <;> rfl
      · cases reply with
        | canceled taken => exact answerWith_registry ⟨registry, metered.gauges⟩ _ _ _ _ _
        | raised error => cases error <;> rfl
        | _ => rfl
  | look symbol op answer =>
    simp only [Metered.carryOut, Registry.carryOut, Metered.readBook]
    cases metered.registry.readBook settings symbol op answer <;> rfl

/-- The gauges change neither the books nor the answer of a request. -/
theorem handle_registry (request : Request) :
    Metered.unmetered (metered.handle settings clock request) =
      metered.registry.handle settings clock request := by
  rw [handle_eq, ← rolloverMarketSession_registry, ← carryOut_registry]
  unfold Metered.handle
  split <;> rfl

end Same

end StockMarket
