import StockMarket.Deployment.WireLaws

/-! Bytes of any kind keep the deployment in order, and the runner's calls go through afterwards. -/

namespace StockMarket

/-- A view brings in no identifier but the one that was drawn for the request. -/
theorem viewRequest_newIds {nesting : Nat} {prints : Json → CodePoints} {drawn : UUID}
    {request : WireRequest} {view : Request}
    (viewed : viewRequest nesting prints drawn request = some view) :
    ∀ orderId ∈ view.newIds, orderId = drawn := by
  unfold viewRequest at viewed
  split at viewed
  split at viewed
  · -- Only the view that creates orders brings in an identifier.
    split_ifs at viewed
    cases viewed
    exact fun orderId member => List.mem_singleton.mp member
  · split_ifs at viewed
    cases viewed
    exact fun _ member => absurd member List.not_mem_nil
  · split_ifs at viewed
    cases viewed
    exact fun _ member => absurd member List.not_mem_nil
  · split_ifs at viewed
    cases viewed
    exact fun _ member => absurd member List.not_mem_nil
  · cases viewed

namespace Cluster

open BackendApiClient

variable {settings : ClusterSettings} {python : WireInterpreter} {cluster : Cluster settings}

/-- Identifiers that are used up do no harm. -/
theorem ClusterOk.weaken {used : List UUID} (ok : ClusterOk cluster used) (more : List UUID) :
    ClusterOk cluster (used ++ more) :=
  ⟨ok.matchers, fun shard orderId member => List.mem_append_left _ (ok.known shard orderId member),
    ok.apart⟩

/-- Bytes of any kind are answered, dropped, or left alone, and keep the matchers in order. -/
theorem ClusterOk.answerWire_spec {used : List UUID} (ok : ClusterOk cluster used)
    (nature : WireNature) (fresh : nature.orderId ∉ used) (request : WireRequest) :
    ∃ cluster' answer, answerWire settings python cluster (nature, request) = .ok (cluster', answer) ∧
      ClusterOk cluster' (used ++ [nature.orderId]) := by
  have unchanged := ok.weaken [nature.orderId]
  rw [answerWire]
  cases routeRawRequest python.nesting python.prints request.raw settings.tickers
      settings.shardCount with
  | error exception => cases exception <;> exact ⟨cluster, _, rfl, unchanged⟩
  | ok route =>
    simp only
    split_ifs with inside
    · rw [answerAt]
      cases viewed : viewRequest python.nesting python.prints nature.orderId request with
      | none => exact ⟨cluster, .elsewhere, rfl, unchanged⟩
      | some view =>
        -- The matcher handles the request under an identifier that none of its orders has.
        have unused : ∀ orderId ∈ view.newIds,
            orderId ∉ (cluster ⟨route.shardIndex, inside⟩).restingIds := by
          intro orderId new rests
          rw [viewRequest_newIds viewed orderId new] at rests
          exact fresh (ok.known _ _ rests)
        -- The identifier becomes a used one, whether or not the order rests.
        have new : ∀ orderId ∈ [nature.orderId], orderId ∉ used := by
          intro orderId member
          rw [List.mem_singleton.mp member]
          exact fresh
        obtain ⟨registry, response, ran, matcher, origin⟩ :=
          (ok.matchers ⟨route.shardIndex, inside⟩).handled nature.clock view unused
        refine ⟨Function.update cluster ⟨route.shardIndex, inside⟩ registry,
          .answered (response.transport nature.rendering), ?_,
          ok.update new _ matcher fun orderId member => ?_⟩
        · simp only [ran, Bind.bind, Except.bind, Pure.pure, Except.pure]
        · refine (origin orderId member).imp_left fun brought => ?_
          exact List.mem_singleton.mpr (viewRequest_newIds viewed orderId brought)
    · exact ⟨cluster, _, rfl, unchanged⟩

/-- Every sequence of bytes is served without a fault, and keeps the matchers in order. -/
theorem ClusterOk.serveWire_spec (python : WireInterpreter) (turns : List (WireNature × WireRequest)) :
    ∀ {cluster : Cluster settings} {used : List UUID}, ClusterOk cluster used →
      (used ++ turns.map fun turn => turn.1.orderId).Nodup →
      ∃ cluster' answers, serveWire settings python cluster turns = .ok (cluster', answers) ∧
        ClusterOk cluster' (used ++ turns.map fun turn => turn.1.orderId) := by
  induction turns with
  | nil =>
    intro cluster used ok _
    exact ⟨cluster, [], rfl, ok.weaken []⟩
  | cons turn later ih =>
    intro cluster used ok distinct
    have split : used ++ (turn :: later).map (fun turn => turn.1.orderId) =
        (used ++ [turn.1.orderId]) ++ later.map fun turn => turn.1.orderId := by simp
    rw [split] at distinct ⊢
    -- The identifier of the first request is apart from those that are used already.
    have fresh : turn.1.orderId ∉ used := by
      have apart := (List.nodup_append'.mp (List.nodup_append'.mp distinct).1).2.2
      exact fun known => apart known (List.mem_singleton_self _)
    obtain ⟨next, answer, answered, ok'⟩ := ok.answerWire_spec turn.1 fresh turn.2
    obtain ⟨cluster', answers, served, ok''⟩ := ih ok' distinct
    refine ⟨cluster', answer :: answers, ?_, ok''⟩
    rw [serveWire, Machine.run_cons answered]
    rw [serveWire] at served
    rw [served]
    rfl

/-- No matcher holds anything at the start. -/
theorem ClusterOk.start (settings : ClusterSettings) : ClusterOk (start settings) [] :=
  ⟨fun _ => .new _, fun _ _ member => absurd member List.not_mem_nil,
    fun _ _ _ member => absurd member List.not_mem_nil⟩

/-- A call about a ticker of the universe is handled by the matcher of the ticker. -/
theorem ClusterOk.call_spec {used : List UUID} (ok : ClusterOk cluster used)
    (deep : 1 ≤ python.nesting) (nature : WireNature) (call : Call)
    (fresh : ∀ orderId ∈ (call.request nature.orderId).view.newIds, orderId ∉ used)
    (sendable : call.IsSendable) (six : isTicker call.symbol = true)
    (member : call.symbol ∈ settings.tickers) : ∃ shard registry response,
      shardForTicker settings.tickers call.symbol settings.shardCount = some shard.val ∧
      answerWire settings python cluster (nature, call.wire) =
        .ok (Function.update cluster shard registry,
          .answered (response.transport nature.rendering)) ∧
      (((call.request nature.orderId).view.isOrder = true ∧
          ¬ isOpen settings.mode nature.clock.openAt ∧ registry = cluster shard ∧
          response = marketClosed) ∨
        (¬ ((call.request nature.orderId).view.isOrder = true ∧
            ¬ isOpen settings.mode nature.clock.openAt) ∧
          Carried (settings.matcher shard) nature.clock
            ((cluster shard).rolloverMarketSession (settings.matcher shard) nature.clock.sessionAt)
            ((call.request nature.orderId).view.task (settings.matcher shard) nature.clock)
            registry response)) := by
  -- The ticker is in the universe, so it has a shard.
  have assigned : shardForTicker settings.tickers call.symbol settings.shardCount =
      some (settings.tickers.idxOf call.symbol % settings.shardCount) :=
    (shardForTicker_eq_some_iff settings.shardCount_pos).mpr ⟨member, rfl⟩
  have inside := shardForTicker_lt assigned
  -- The gateway reads the call's own symbol, and looks its shard up.
  have routed : routeRequest (call.request nature.orderId).http settings.tickers
      settings.shardCount = .ok ⟨settings.tickers.idxOf call.symbol % settings.shardCount,
        some call.symbol, none⟩ := by
    rw [routed_of_names six (call.names nature.orderId) settings.tickers settings.shardCount_pos]
    simp only [routeSymbol, assigned]
  have unused : ∀ orderId ∈ (call.request nature.orderId).view.newIds,
      orderId ∉ (cluster ⟨_, inside⟩).restingIds :=
    fun orderId new rests => fresh orderId new (ok.known _ _ rests)
  obtain ⟨registry, response, ran, cases⟩ := (ok.matchers ⟨_, inside⟩).handle_spec nature.clock
    (call.request nature.orderId).view unused
  refine ⟨⟨_, inside⟩, registry, response, assigned, ?_, cases⟩
  rw [answerWire_call settings deep cluster nature sendable,
    handle_routed settings ⟨_, inside⟩ routed ran]
  rfl

section Answers

variable {client : Interpreter}


/-- An interpreter that allows a thousand levels of nesting, and never has to print a container. -/
def usualInterpreter : WireInterpreter := ⟨1000, fun _ => []⟩

/-- The runner's interpreter, which can send any URL. -/
def usualClient : Interpreter := ⟨1000, fun _ => [], fun _ => false⟩

/-- Answers without stamps, whose refusals are failures of the server. -/
def usualRendering : Rendering := ⟨fun _ => ("", ""), fun _ => encodeText "Server Error (500)".toList⟩

/-- Noon, when an order under this identifier arrives. -/
def noonNature (orderId : UUID) : WireNature :=
  ⟨⟨43200, 43200, 43200, 43200, 43200, 43200⟩, orderId, usualRendering⟩

/-- What the client makes of an answer whose numbers cannot be written. -/
def serverFailure (rendering : Rendering) : ClientException :=
  .backendApiError (some 500)
    (some ((Utf8.replacing (rendering.refusal serverError.body)).map Char.toNat))

/-- An answer with a number that cannot be written is the server's own error. -/
theorem request_unwritable {path : CodePoints} {response : Response} {rendering : Rendering}
    (sends : client.refusesUrl path = false) (long : response.body.isWritable = false) :
    BackendApiClient.request client path (response.transport rendering) =
      .error (serverFailure rendering) := by
  have failed : ¬(200 ≤ 500 ∧ 500 < 300) := by decide
  rw [Response.transport, if_neg (by simp [long]), BackendApiClient.request,
    if_neg (by simp [sends])]
  simp only [if_neg failed, serverFailure]

/--
In every state that bytes of any kind lead to, the client reads the book of a ticker as it is.

The only other outcome is that a level's quantity has more digits than can be written.
-/
theorem fetchBook_over_wire (settings : ClusterSettings) (deep : 1 ≤ python.nesting)
    (deep' : 3 ≤ client.nesting) (turns : List (WireNature × WireRequest))
    (distinct : (turns.map fun turn => turn.1.orderId).Nodup) :
    ∃ cluster answers, serveWire settings python (start settings) turns = .ok (cluster, answers) ∧
      ∀ nature, ∀ ticker ∈ settings.tickers, isTicker ticker = true →
        client.refusesUrl (bookPath ticker) = false →
        ∃ cluster' shard book transport,
          answerWire settings python cluster (nature, bookRequest ticker) =
            .ok (cluster', .answered transport) ∧
          shardForTicker settings.tickers ticker settings.shardCount = some shard.val ∧
          (cluster' shard).bookOf ticker = some book ∧ book.shown.symbol = ticker ∧
          fetchBook client ticker transport =
            if (ResponseBody.snapshot book.shown).isWritable then .ok book.shown
            else .error (serverFailure nature.rendering) := by
  obtain ⟨cluster, answers, served, ok⟩ :=
    (ClusterOk.start settings).serveWire_spec python turns distinct
  refine ⟨cluster, answers, served, ?_⟩
  intro nature ticker member six sends
  obtain ⟨shard, registry, response, assigned, answered, closed | ⟨_, carried⟩⟩ :=
    ok.call_spec deep nature (.fetchBook ticker) (fun _ new => absurd new List.not_mem_nil) six six
      member
  · exact absurd closed.1 Bool.false_ne_true
  · change shardForTicker settings.tickers ticker settings.shardCount = some shard.val at assigned
    have rolled := (ok.matchers shard).rolled nature.clock.sessionAt
    -- The matcher owns the ticker, which is not blank, so its book is looked at.
    cases carried with
    | foreign disowned =>
      rw [isOwnedSymbol_of_assigned assigned] at disowned
      cases disowned
    | unnamed blank =>
      rw [isBlank_of_isTicker six] at blank
      cases blank
    | @looked _ _ _ _ book _ named owns ran turned =>
      obtain ⟨book_ok, symbol, _⟩ := turned.ok.book_ok turned.book_eq
      -- The book is looked at after the session has rolled over.
      have before := (rolled.bookOrNew_spec named).1
      obtain ⟨_, rfl⟩ := look_shown before ran
      have own : book.shown.symbol = ticker := symbol
      refine ⟨_, shard, book, _, answered, assigned, ?_, own, ?_⟩
      · rw [Function.update_self]
        exact turned.book_eq
      · have sends' : client.refusesUrl (bookPath book.shown.symbol) = false := by
          rw [own]
          exact sends
        -- The levels are read back, unless one of them cannot be written.
        split_ifs with short
        · have read := @fetchBook_transport client nature.rendering book.shown sends' deep'
            short (shown_positive book_ok)
          rwa [own] at read
        · rw [Bool.not_eq_true] at short
          rw [fetchBook, request_unwritable sends short]
          rfl

/-- A body that is no text, and an offer of one share. -/
def bytesBefore : List (WireNature × WireRequest) :=
  [(noonNature 1, ⟨"POST", "/api/v1/orders/".toList, [0xFF]⟩),
    (noonNature 2, orderRequest ⟨"trader-1", "000660", .sell, 70000, 1, none⟩)]

/-- The book of a ticker, behind a body that is no text and an offer. -/
theorem fetchBook_over_wire_offered : ∃ cluster answers,
    serveWire twoShards usualInterpreter (start twoShards) bytesBefore = .ok (cluster, answers) ∧
      ∃ cluster' shard book transport,
        answerWire twoShards usualInterpreter cluster (noonNature 3, bookRequest "000660") =
          .ok (cluster', .answered transport) ∧
        shardForTicker twoShards.tickers "000660" twoShards.shardCount = some shard.val ∧
        (cluster' shard).bookOf "000660" = some book ∧ book.shown.symbol = "000660" ∧
        fetchBook usualClient "000660" transport =
          if (ResponseBody.snapshot book.shown).isWritable then .ok book.shown
          else .error (serverFailure (noonNature 3).rendering) := by
  -- The bodies are nested no deeper than the usual limits allow.
  have deep : 1 ≤ usualInterpreter.nesting := by decide
  have deep' : 3 ≤ usualClient.nesting := by decide
  obtain ⟨cluster, answers, served, reads⟩ :=
    fetchBook_over_wire twoShards deep deep' bytesBefore (by decide)
  exact ⟨cluster, answers, served, reads (noonNature 3) "000660" (by decide) (by decide) rfl⟩

/-- A bid for two shares. -/
def twoBid : OrderIntent := ⟨"trader-2", "000660", .buy, 70000, 2, some 5⟩

/-- An offer, a look at the book, and the cancellation of the offer. -/
def callsInTurn : List (WireNature × Call) :=
  [(noonNature 1, .submitOrder ⟨"trader-1", "000660", .sell, 70000, 1, none⟩),
    (noonNature 2, .fetchBook "000660"), (noonNature 3, .cancelOrder 1 "000660")]

/-- The three calls, over the wire and without one. -/
theorem serveWire_calls_inTurn :
    serveWire twoShards usualInterpreter (start twoShards)
        (callsInTurn.map fun turn => (turn.1, turn.2.wire)) =
      (run twoShards (start twoShards)
        (callsInTurn.map fun turn => (turn.1.clock, turn.2.request turn.1.orderId))).map
          (Prod.map id (callsInTurn.zipWith fun turn => WireAnswer.ofGateway turn.1.rendering)) := by
  -- Each of the calls can be sent.
  have deep : 1 ≤ usualInterpreter.nesting := by decide
  have offer : (Call.submitOrder ⟨"trader-1", "000660", .sell, 70000, 1, none⟩).IsSendable :=
    ⟨writable_of_small (by decide), writable_of_small (by decide)⟩
  have six : isTicker "000660" = true := by decide
  refine serveWire_calls twoShards deep (start twoShards) callsInTurn ?_
  simp only [callsInTurn, List.forall_mem_cons]
  exact ⟨offer, six, six, fun _ member => absurd member List.not_mem_nil⟩

end Answers

end Cluster

end StockMarket
