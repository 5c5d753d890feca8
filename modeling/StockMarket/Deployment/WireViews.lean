import StockMarket.Deployment.WireRequests

/-! The bytes of the runner's calls are answered as the calls themselves are. -/

namespace StockMarket

namespace BackendApiClient

section Views

variable {nesting : Nat} {prints : Json → CodePoints} {symbol : String}

/-- A path of the exchange is resolved by the routes of the exchange. -/
theorem resolve_exchange (path : List Char) :
    resolve ("/api/v1/".toList ++ path) = resolveExchange path := by
  -- The path is neither that of the metrics nor of the administration.
  have metrics : "/api/v1/".toList ++ path ≠ "/metrics/".toList := by
    intro same
    have second := congrArg (fun path => path[1]?) same
    simp at second
  have administration : Path.after? "/admin/" ("/api/v1/".toList ++ path) = none := rfl
  rw [resolve, if_neg metrics, administration, Path.after?_append]
  rfl

/-- The path of a book leads to its view. -/
theorem resolve_book (named : symbol ≠ "") (clean : '/' ∉ symbol.toList) :
    resolve ("/api/v1/books/".toList ++ (symbol.toList ++ ['/'])) = some (.bookDetail symbol) := by
  have something : symbol.toList ≠ [] := fun nothing => named (String.toList_eq_nil_iff.mp nothing)
  obtain ⟨run, rest⟩ := takeWhile_run clean []
  have own : matchParts [.literal "books/", .str, .literal "/"]
      ("books/".toList ++ (symbol.toList ++ ['/'])) = some [symbol] := by
    simp only [matchParts, Path.after?_append, Option.bind_some, run, rest, if_neg something]
    rw [show Path.after? "/" ['/'] = some [] from rfl]
    simp
  -- The routes that are tried first begin with other texts.
  have other : ∀ literal ∈ ["health/", "ready/", "prometheus-sd/", "orders/", "events/",
      "events/pending/"], ∀ rest, Path.after? literal ("books/".toList ++ rest) = none := by
    simp only [List.forall_mem_cons]
    exact ⟨fun _ => rfl, fun _ => rfl, fun _ => rfl, fun _ => rfl, fun _ => rfl, fun _ => rfl,
      fun _ member => absurd member List.not_mem_nil⟩
  simp only [List.forall_mem_cons] at other
  obtain ⟨health, ready, discovery, orders, events, pending, _⟩ := other
  -- No other route begins like that of the books.
  have found : resolveExchange ("books/".toList ++ (symbol.toList ++ ['/'])) =
      some (.bookDetail symbol) := by
    simp only [resolveExchange, urlpatterns, List.findSome?_cons, own]
    simp only [matchParts, health, ready, discovery, orders, events, pending, Option.bind_none,
      Option.bind_some, capturing]
  have whole : "/api/v1/books/".toList ++ (symbol.toList ++ ['/']) =
      "/api/v1/".toList ++ ("books/".toList ++ (symbol.toList ++ ['/'])) := by
    rw [← List.append_assoc]
    rfl
  rw [whole, resolve_exchange, found]

/-- The path of an order leads to its cancellation. -/
theorem resolve_cancel (orderId : UUID) :
    resolve ("/api/v1/orders/".toList ++ (uuidText orderId ++ ['/'])) =
      some (.cancelOrder (String.ofList (uuidText orderId))) := by
  have usual := isUuidText_uuidText orderId
  have sized : (uuidText orderId).length = 36 := (of_decide_eq_true usual).1
  generalize uuidText orderId = text at usual sized ⊢
  have taken : (text ++ ['/']).take 36 = text := by rw [← sized, List.take_left]
  have dropped : (text ++ ['/']).drop 36 = ['/'] := by rw [← sized, List.drop_left]
  have own : matchParts [.literal "orders/", .uuid, .literal "/"]
      ("orders/".toList ++ (text ++ ['/'])) = some [String.ofList text] := by
    simp only [matchParts, Path.after?_append, Option.bind_some, taken, dropped, usual, if_true]
    rw [show Path.after? "/" ['/'] = some [] from rfl]
    simp
  -- The route of orders themselves takes nothing behind the slash.
  have create : matchParts [.literal "orders/"] ("orders/".toList ++ (text ++ ['/'])) = none := by
    rw [matchParts, Path.after?_append, Option.bind_some, matchParts, if_neg (by simp)]
  have other : ∀ literal ∈ ["health/", "ready/", "prometheus-sd/", "events/", "events/pending/"],
      ∀ rest, Path.after? literal ("orders/".toList ++ rest) = none := by
    simp only [List.forall_mem_cons]
    exact ⟨fun _ => rfl, fun _ => rfl, fun _ => rfl, fun _ => rfl, fun _ => rfl,
      fun _ member => absurd member List.not_mem_nil⟩
  simp only [List.forall_mem_cons] at other
  obtain ⟨health, ready, discovery, events, pending, _⟩ := other
  -- The route of one order is tried, and captures the identifier.
  have found : resolveExchange ("orders/".toList ++ (text ++ ['/'])) =
      some (.cancelOrder (String.ofList text)) := by
    simp only [resolveExchange, urlpatterns, List.findSome?_cons, own, create]
    simp only [matchParts, health, ready, discovery, events, pending, Option.bind_none,
      Option.bind_some, capturing]
  have whole : "/api/v1/orders/".toList ++ (text ++ ['/']) =
      "/api/v1/".toList ++ ("orders/".toList ++ (text ++ ['/'])) := by
    rw [← List.append_assoc]
    rfl
  rw [whole, resolve_exchange, found]

/-- The fields of an order are read from its body as they were written. -/
theorem orderData_call {intent : OrderIntent} (price : isUnwritable intent.price = false)
    (quantity : isUnwritable intent.quantity = false) (deep : 1 ≤ nesting) :
    orderData prints nesting (encodeText (Json.write Json.defaultStyle (orderPayload intent))) =
      .given ⟨.given intent.userId, .given intent.symbol, .given intent.side.value,
        .given intent.price, .given intent.quantity⟩ := by
  -- The body is read back as it was written, and each field is taken as it is.
  have loaded := loadsWith_orderBody true price quantity deep
  have decoded : Utf8.strict? (encodeText (Json.write Json.defaultStyle (orderPayload intent))) =
      some (Json.write Json.defaultStyle (orderPayload intent)) := Utf8.strict?_encode _
  obtain ⟨fields, payload, userId, symbol, side, limit, amount⟩ := exists_orderFields intent
  have same (text : String) : String.ofList (codePoints text).characters = text := by
    rw [characters_codePoints, String.ofList_toList]
  have shown : isShowable prints (some (.text (codePoints intent.side.value))) = true :=
    CodePoints.isEncodable_codePoints _
  rw [orderData, if_neg (orderBody_ne_nil intent), decoded]
  simp only [loaded.trans (congrArg _ payload), userId, symbol, side, limit, amount, textInput,
    choiceInput, integerInput, printedString, Json.printed, same, shown,
    CodePoints.isEncodable_codePoints, if_true]

/-- The view gets the call as it was meant. -/
theorem viewRequest_call {call : Call} (sendable : call.IsSendable) (deep : 1 ≤ nesting)
    (orderId : UUID) :
    viewRequest nesting prints orderId call.wire = some (call.request orderId).view := by
  -- Each call is resolved to its own view, with what it asks for.
  cases call with
  | fetchBook symbol =>
    have named := (strip_of_isShortCode (Cluster.shortCode_of_isTicker sendable)).2
    have clean : '/' ∉ symbol.toList := fun member =>
      ne_of_isPlain (isPlain_ticker sendable _ member) (by decide) rfl
    obtain ⟨target, seen⟩ := splitTarget_book sendable
    have resolved := resolve_book named clean
    rw [← characters_bookPath] at resolved
    simp only [viewRequest, Call.wire, target, seen, Option.bind_some, resolved]
    rfl
  | submitOrder intent =>
    obtain ⟨target, seen⟩ := splitTarget_orders intent
    have resolved : resolve "/api/v1/orders/".toList = some .createOrder := by decide +kernel
    have data : orderData prints nesting (orderRequest intent).body = _ :=
      orderData_call sendable.1 sendable.2 deep
    simp only [viewRequest, Call.wire, target, seen, Option.bind_some, resolved, data]
    rfl
  -- The identifier of the path is read back as it was written.
  | cancelOrder canceled symbol =>
    obtain ⟨target, seen⟩ := splitTarget_cancel sendable canceled
    have query := parse_symbol (isPlain_ticker sendable)
    have resolved := resolve_cancel canceled
    simp only [viewRequest, Call.wire, target, seen, Option.bind_some, resolved, query,
      uuidOf_uuidText, String.ofList_toList]
    rfl

end Views

end BackendApiClient

/-- What a client of the gateway is answered, as bytes; only a routing error is answered by itself. -/
def WireAnswer.ofGateway (rendering : Rendering) : Cluster.GatewayAnswer → WireAnswer
  | .ok response => .answered (response.transport rendering)
  | .error (.routingError status detail) => .answered (writeError status detail)
  | .error .valueError => .dropped

namespace Cluster

open BackendApiClient

section Calls

variable (settings : ClusterSettings) {python : WireInterpreter}

/-- The bytes of a call are answered as the call is. -/
theorem answerWire_call (deep : 1 ≤ python.nesting) (cluster : Cluster settings)
    (nature : WireNature) {call : Call} (sendable : call.IsSendable) :
    answerWire settings python cluster (nature, call.wire) =
      (handle settings cluster (nature.clock, call.request nature.orderId)).map
        (Prod.map id (WireAnswer.ofGateway nature.rendering)) := by
  have routed := @routeRawRequest_call python.nesting python.prints settings.tickers
    settings.shardCount call sendable deep settings.shardCount_pos nature.orderId
  have view := @viewRequest_call python.nesting python.prints call sendable deep nature.orderId
  rw [answerWire, handle, ← routed]
  cases raw : routeRawRequest python.nesting python.prints call.wire.raw settings.tickers
      settings.shardCount with
  | error exception =>
    -- Only a routing error is answered; the others leave the connection without an answer.
    cases exception <;> rfl
  | ok route =>
    simp only [Except.mapError]
    split_ifs with inside
    · simp only [answerAt, view]
      cases (cluster ⟨route.shardIndex, inside⟩).handle (settings.matcher ⟨route.shardIndex, inside⟩)
        nature.clock (call.request nature.orderId).view <;> rfl
    · rfl

/-- Every sequence of calls is answered over the wire as it is answered without one. -/
theorem serveWire_calls (deep : 1 ≤ python.nesting) (cluster : Cluster settings)
    (turns : List (WireNature × Call)) (sendable : ∀ turn ∈ turns, turn.2.IsSendable) :
    serveWire settings python cluster (turns.map fun turn => (turn.1, turn.2.wire)) =
      (run settings cluster
        (turns.map fun turn => (turn.1.clock, turn.2.request turn.1.orderId))).map
          (Prod.map id (turns.zipWith fun turn => WireAnswer.ofGateway turn.1.rendering)) := by
  -- Each call is answered alike, and so are all of them.
  have each : ∀ cluster, ∀ turn ∈ turns, answerWire settings python cluster (turn.1, turn.2.wire) =
      (handle settings cluster (turn.1.clock, turn.2.request turn.1.orderId)).map
        (Prod.map id (WireAnswer.ofGateway turn.1.rendering)) := fun cluster turn member =>
    answerWire_call settings deep cluster turn.1 (sendable turn member)
  exact Machine.run_translated (fun turn => (turn.1.clock, turn.2.request turn.1.orderId))
    (fun turn => (turn.1, turn.2.wire)) (fun turn => WireAnswer.ofGateway turn.1.rendering) turns each
    cluster

end Calls

end Cluster

end StockMarket
