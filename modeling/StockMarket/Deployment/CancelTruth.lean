import StockMarket.Deployment.Cluster

/-! A cancel answers truthfully about the one matcher that it is routed to, and about no other. -/

namespace StockMarket

namespace Cluster

variable {settings : ClusterSettings} {cluster cluster' : Cluster settings}

/-- Every matcher is in order, and no order rests at two of them. -/
structure ClusterOk (cluster : Cluster settings) (used : List UUID) : Prop where
  matchers : ∀ shard, MatcherOk (settings.matcher shard) (cluster shard)
  known : ∀ shard, ∀ orderId ∈ (cluster shard).restingIds, orderId ∈ used
  apart : ∀ shard other orderId, orderId ∈ (cluster shard).restingIds →
    orderId ∈ (cluster other).restingIds → shard = other

/-- An order at rest in a symbol's book is at rest in the registry. -/
theorem RestsAt.resting {shard : Fin settings.shardCount} {orderId : UUID}
    (rests : cluster.RestsAt shard orderId) : orderId ∈ (cluster shard).restingIds := by
  obtain ⟨symbol, book, here, member⟩ := rests
  exact resting_of_bookOf here member

/-- One matcher changes, and takes in no order but new ones. -/
theorem ClusterOk.update {used newcomers : List UUID} (ok : ClusterOk cluster used)
    (fresh : ∀ orderId ∈ newcomers, orderId ∉ used) (shard : Fin settings.shardCount)
    {registry : Registry} (matcher : MatcherOk (settings.matcher shard) registry)
    (origin : ∀ orderId ∈ registry.restingIds,
      orderId ∈ newcomers ∨ orderId ∈ (cluster shard).restingIds) :
    ClusterOk (Function.update cluster shard registry)
      (used ++ newcomers) := by
  have known : ∀ orderId ∈ registry.restingIds, orderId ∈ used ++ newcomers := fun orderId member =>
    List.mem_append.mpr ((origin orderId member).symm.imp_left (ok.known shard orderId))
  -- An order of the changed matcher and of another one was there before.
  have unshared : ∀ other, other ≠ shard → ∀ orderId ∈ registry.restingIds,
      orderId ∉ (cluster other).restingIds := by
    intro other differs orderId member elsewhere
    rcases origin orderId member with new | before
    · exact fresh orderId new (ok.known other orderId elsewhere)
    · exact differs (ok.apart other shard orderId elsewhere before)
  refine ⟨fun other => ?_, fun other => ?_, fun first second orderId => ?_⟩
  · -- Only the matcher of the shard has changed.
    by_cases same : other = shard
    · subst same
      rw [Function.update_self]
      exact matcher
    · rw [Function.update_of_ne same]
      exact ok.matchers other
  · by_cases same : other = shard
    · subst same
      rw [Function.update_self]
      exact known
    · rw [Function.update_of_ne same]
      exact fun orderId member => List.mem_append_left _ (ok.known other orderId member)
  · -- Of two matchers that hold the same order, at most one has changed.
    by_cases here : first = shard <;> by_cases there : second = shard
    · exact fun _ _ => here.trans there.symm
    · subst here
      -- What the changed matcher holds is new or was its own, and no other one has it.
      rw [Function.update_self, Function.update_of_ne there]
      exact fun member elsewhere => absurd elsewhere (unshared second there orderId member)
    · subst there
      rw [Function.update_self, Function.update_of_ne here]
      exact fun elsewhere member => absurd elsewhere (unshared first here orderId member)
    · rw [Function.update_of_ne here, Function.update_of_ne there]
      exact ok.apart first second orderId

/-- What becomes of a request: the gateway refuses it, or the matcher of its symbol answers it. -/
inductive Forwarded (cluster : Cluster settings) (clock : Readings) (request : ClientRequest) :
    Cluster settings → GatewayAnswer → Prop where
  | refused {failure : RoutingFailure}
      (routed : routeRequest request.http settings.tickers settings.shardCount = .error failure) :
      Forwarded cluster clock request cluster (.error failure)
  | answered {shard : Fin settings.shardCount} {symbol : String} {registry : Registry}
      {response : Response}
      (routed : routeRequest request.http settings.tickers settings.shardCount =
        .ok ⟨shard, some symbol, none⟩)
      (assigned : shardForTicker settings.tickers symbol settings.shardCount = some shard.val)
      (ran : (cluster shard).handle (settings.matcher shard) clock request.view =
        .ok (registry, response)) :
      Forwarded cluster clock request (Function.update cluster shard registry) (.ok response)

/-- The gateway routes what clients send by its symbol. -/
theorem routeRequest_http (request : ClientRequest) (tickers : List String) {count : Nat}
    (positive : 1 ≤ count) : routeRequest request.http tickers count =
      routeSymbol tickers count
        (symbolFromRequest request.http request.http.normalizedPath) := by
  -- Each request has its own path, which decides where the symbol is read.
  cases request with
  | createOrder payload userId side price qty orderId =>
    exact routeRequest_under positive (by simp) (createOrder_path (.object payload))
  | cancelOrder orderId query =>
    have path : (HttpRequest.cancelOrder orderId query).normalizedPath =
        "/api/v1/orders".toList ++ ('/' :: (uuidText orderId ++ ['/'])) := by
      rw [cancelOrder_path]
      generalize uuidText orderId ++ ['/'] = rest
      rfl
    exact routeRequest_under positive (by simp) path
  | bookDetail symbol => exact routeRequest_under positive (by simp) (bookDetail_path symbol)
  | recentTradeList query limit =>
    exact routeRequest_under positive (by simp) (recentTradeList_path query)

variable (settings) in
/-- A routed request is answered by the matcher that it is routed to. -/
theorem handle_routed {clock : Readings} {request : ClientRequest}
    (shard : Fin settings.shardCount) {symbol : String} {registry : Registry} {response : Response}
    (routed : routeRequest request.http settings.tickers settings.shardCount =
      .ok ⟨shard, some symbol, none⟩)
    (ran : (cluster shard).handle (settings.matcher shard) clock request.view =
      .ok (registry, response)) :
    handle settings cluster (clock, request) =
      .ok (Function.update cluster shard registry, .ok response) := by
  simp only [handle, routed, dif_pos shard.isLt, Fin.eta, ran, Bind.bind, Except.bind, Pure.pure,
    Except.pure]

variable (settings) in
/-- A request with a new identifier is answered, and keeps the matchers in order. -/
theorem ClusterOk.handle_spec {used : List UUID} (ok : ClusterOk cluster used) (clock : Readings)
    (request : ClientRequest) (fresh : ∀ orderId ∈ request.view.newIds, orderId ∉ used) :
    ∃ cluster' answer, handle settings cluster (clock, request) = .ok (cluster', answer) ∧
      Forwarded cluster clock request cluster' answer ∧
      ClusterOk cluster' (used ++ request.view.newIds) := by
  have unchanged : ClusterOk cluster (used ++ request.view.newIds) :=
    ⟨ok.matchers, fun shard orderId member => List.mem_append_left _ (ok.known shard orderId member),
      ok.apart⟩
  have named := routeRequest_http request settings.tickers settings.shardCount_pos
  -- The gateway's routing decides first; a refused request reaches no matcher.
  cases routed : routeRequest request.http settings.tickers settings.shardCount with
  | error failure =>
    refine ⟨cluster, .error failure, ?_, .refused routed, unchanged⟩
    simp only [handle, routed, Pure.pure, Except.pure]
  | ok route =>
    rw [routed] at named
    cases read : symbolFromRequest request.http request.http.normalizedPath with
    | error failure =>
      rw [read] at named
      cases named
    | ok symbol =>
      rw [read] at named
      simp only [routeSymbol] at named
      split at named
      · cases named
      · -- A symbol with a shard is handled by the matcher of that shard.
        rename_i shard assigned
        cases named
        -- The shard of a symbol is one of the deployment's.
        have inside := shardForTicker_lt assigned
        obtain ⟨registry, response, ran, matcher, origin⟩ :=
          (ok.matchers ⟨shard, inside⟩).handled clock request.view
            fun orderId new rests => fresh orderId new (ok.known _ orderId rests)
        exact ⟨Function.update cluster ⟨shard, inside⟩ registry, .ok response,
          handle_routed settings ⟨shard, inside⟩ routed ran, .answered routed assigned ran,
          ok.update fresh ⟨shard, inside⟩ matcher origin⟩

/-- Between requests the matchers are in order, and the requests to come bring new identifiers. -/
def Prepared (cluster : Cluster settings) (later : List (Readings × ClientRequest)) : Prop :=
  ∃ used, ClusterOk cluster used ∧ (used ++ newIds later).Nodup

variable (settings) in
/-- Every sequence of requests with new identifiers is answered, and keeps the matchers in order. -/
theorem run_ok (requests : List (Readings × ClientRequest)) (distinct : (newIds requests).Nodup) :
    ∃ cluster answers, run settings (start settings) requests = .ok (cluster, answers) ∧
      ∃ used, ClusterOk cluster used := by
  have fresh : Prepared (start settings) requests := by
    refine ⟨[], ⟨fun shard => .new _, ?_, ?_⟩, distinct⟩
    · exact fun shard orderId member => absurd member List.not_mem_nil
    · exact fun shard other orderId member => absurd member List.not_mem_nil
  obtain ⟨cluster, answers, ran, used, ok, _⟩ := Machine.run_invariant
    (@Prepared settings)
    (fun cluster request later held => by
      obtain ⟨used, ok, distinct⟩ := held
      obtain ⟨clock, request⟩ := request
      -- The identifiers of this request are apart from those used and from those to come.
      rw [newIds, List.flatMap_cons, ← List.append_assoc] at distinct
      have new : ∀ orderId ∈ request.view.newIds, orderId ∉ used := fun orderId member known =>
        (List.nodup_append'.mp (List.nodup_append'.mp distinct).1).2.2 known member
      obtain ⟨cluster', answer, handled, _, ok'⟩ := ok.handle_spec settings clock request new
      exact ⟨cluster', answer, handled, _, ok', distinct⟩)
    requests (start settings) fresh
  exact ⟨cluster, answers, ran, used, ok⟩

/-- The shard that a symbol is assigned to owns it. -/
theorem isOwnedSymbol_of_assigned {shard : Fin settings.shardCount} {symbol : String}
    (assigned : shardForTicker settings.tickers symbol settings.shardCount = some shard.val) :
    (settings.matcher shard).owned.isOwnedSymbol symbol = true :=
  decide_eq_true (owned_of_shardForTicker assigned (settings.matcher shard).owned_slice)

/-- A cancel that is routed by its only symbol passes the checks of the matcher. -/
theorem cancel_task {shard : Fin settings.shardCount} {symbol named : String} (clock : Readings)
    (orderId : UUID) (read : requiredQuerySymbol [("symbol", symbol)] = .ok named)
    (assigned : shardForTicker settings.tickers named settings.shardCount = some shard.val) :
    (ClientRequest.cancelOrder orderId [("symbol", symbol)]).view.task (settings.matcher shard)
      clock = .take orderId := by
  -- The gateway reads the symbol without blanks, as the matcher does.
  have same : strip symbol = named := by
    rw [requiredQuerySymbol_eq] at read
    split at read
    · cases read
    · cases read
      rfl
  -- Only symbols of the universe are assigned, and these are simulated.
  have simulated : (settings.matcher shard).isSimulatedSymbol named = true :=
    decide_eq_true ((shardForTicker_eq_some_iff settings.shardCount_pos).mp assigned).1
  have got : queryGet [("symbol", symbol)] "symbol" = some symbol := rfl
  simp only [ClientRequest.view, Request.task, got, Option.getD_some, same, simulated,
    isOwnedSymbol_of_assigned assigned, not_true_eq_false, and_false, if_false]

/--
What is asked of the answer to a cancel.

A closed order is held by no matcher, a canceled one was at rest with the quantity that is told,
and anything else is the client's error.
-/
inductive Truthful (cluster cluster' : Cluster settings) (orderId : UUID) : GatewayAnswer → Prop where
  | closed (gone : ∀ shard, ¬ cluster'.RestsAt shard orderId) :
      Truthful cluster cluster' orderId (.ok (alreadyClosed orderId))
  | canceled {shard : Fin settings.shardCount} {symbol : String} {book : OrderBook}
      {rested : Rested} (here : (cluster shard).bookOf symbol = some book)
      (rests : rested ∈ book.plain.allResting) (named : rested.order.orderId = orderId) :
      Truthful cluster cluster' orderId (.ok (canceledAnswer rested.asOpenOrder))
  | refused {status : Nat} {body : ResponseBody} (clientError : 400 ≤ status ∧ status < 500) :
      Truthful cluster cluster' orderId (.ok ⟨status, body⟩)
  | unrouted {status : Nat} {detail : String} (clientError : 400 ≤ status ∧ status < 500) :
      Truthful cluster cluster' orderId (.error (.routingError status detail))

/-- A truthful answer that an order is closed means that no matcher holds it. -/
theorem Truthful.gone {orderId : UUID} {answer : GatewayAnswer}
    (truthful : Truthful cluster cluster' orderId answer)
    (closed : answer = .ok (alreadyClosed orderId)) (shard : Fin settings.shardCount) :
    ¬ cluster'.RestsAt shard orderId := by
  -- All other truthful answers differ in status or body.
  cases truthful with
  | closed gone => exact gone shard
  | canceled here rests named => simp [alreadyClosed, canceledAnswer] at closed
  | refused clientError =>
    cases closed
    exact absurd clientError (by decide)
  | unrouted clientError => cases closed

/-- The order rests at no matcher but the one that the gateway picks for the cancel. -/
def RestsNowhereElse (cluster : Cluster settings) (orderId : UUID) (symbol : String) : Prop :=
  ∀ route, routeRequest (.cancelOrder orderId [("symbol", symbol)]) settings.tickers
      settings.shardCount = .ok route →
    ∀ shard : Fin settings.shardCount, shard.val ≠ route.shardIndex →
      ¬ cluster.RestsAt shard orderId

/-- The route of a cancel is that of the symbol in its query. -/
theorem cancel_route (orderId : UUID) (symbol : String) :
    routeRequest (.cancelOrder orderId [("symbol", symbol)]) settings.tickers settings.shardCount =
      routeSymbol settings.tickers settings.shardCount (requiredQuerySymbol [("symbol", symbol)]) :=
  route_cancelOrder settings.shardCount_pos orderId [("symbol", symbol)]

/-- The gateway refuses blank and unknown symbols alike. -/
theorem cancel_refused {orderId : UUID} {symbol : String} {failure : RoutingFailure}
    (routed : routeRequest (.cancelOrder orderId [("symbol", symbol)]) settings.tickers
      settings.shardCount = .error failure) : ∃ detail, failure = .routingError 400 detail := by
  -- A blank symbol is refused when it is read, and an unknown one when it is routed.
  rw [cancel_route, requiredQuerySymbol_eq] at routed
  split at routed
  · exact ⟨_, (Except.error.inj routed).symm⟩
  · simp only [routeSymbol] at routed
    split at routed
    · exact ⟨_, (Except.error.inj routed).symm⟩
    · cases routed

/-- The symbol that a cancel is routed by is the one in its query. -/
theorem cancel_asked {orderId : UUID} {symbol asked : String} {shard : Nat}
    (routed : routeRequest (.cancelOrder orderId [("symbol", symbol)]) settings.tickers
      settings.shardCount = .ok ⟨shard, some asked, none⟩) :
    requiredQuerySymbol [("symbol", symbol)] = .ok asked := by
  rw [cancel_route] at routed
  cases read : requiredQuerySymbol [("symbol", symbol)] with
  | error failure =>
    rw [read] at routed
    cases routed
  -- The symbol that is read goes into the route as it is.
  | ok other =>
    rw [read] at routed
    simp only [routeSymbol] at routed
    split at routed
    · cases routed
    · cases routed
      rfl

/-- A cancel is answered truthfully when the order rests at no other matcher, and only then. -/
theorem ClusterOk.cancel_spec {used : List UUID} (ok : ClusterOk cluster used)
    (clock : Readings) (orderId : UUID) (symbol : String) :
    ∃ cluster' answer, handle settings cluster
        (clock, .cancelOrder orderId [("symbol", symbol)]) = .ok (cluster', answer) ∧
      (Truthful cluster cluster' orderId answer ↔ cluster.RestsNowhereElse orderId symbol) := by
  obtain ⟨cluster', answer, handled, forwarded, ok'⟩ := ok.handle_spec settings clock
    (.cancelOrder orderId [("symbol", symbol)]) (by simp [ClientRequest.view, Request.newIds])
  refine ⟨cluster', answer, handled, ?_⟩
  cases forwarded with
  | @refused failure routed =>
    change routeRequest (.cancelOrder orderId [("symbol", symbol)]) _ _ = _ at routed
    obtain ⟨detail, rfl⟩ := cancel_refused routed
    refine iff_of_true (.unrouted (by decide)) fun route routed' => ?_
    -- The cancel is not routed, so there is no route to compare with.
    rw [routed] at routed'
    cases routed'
  | @answered shard asked registry response routed assigned ran =>
    change routeRequest (.cancelOrder orderId [("symbol", symbol)]) _ _ = _ at routed
    have read := cancel_asked routed
    -- The matcher starts its session and takes the order out.
    obtain ⟨registry', response', ran', cases⟩ := (ok.matchers shard).handle_spec clock
      (ClientRequest.cancelOrder orderId [("symbol", symbol)]).view
      (by simp [ClientRequest.view, Request.newIds])
    rw [ran] at ran'
    cases ran'
    obtain ⟨_, carried⟩ := cases.resolve_left fun closed => Bool.false_ne_true closed.1
    rw [cancel_task clock orderId read assigned] at carried
    have rolled := (ok.matchers shard).rolled clock.sessionAt
    have before := bookOf_rolled (cluster shard) (settings.matcher shard) clock.sessionAt
    generalize (cluster shard).rolloverMarketSession (settings.matcher shard) clock.sessionAt =
      started at carried rolled before
    -- Starting a session can only drop books.
    have kept : ∀ {symbol book}, started.bookOf symbol = some book →
        (cluster shard).bookOf symbol = some book := fun {symbol book} here => by
      rcases before symbol with same | gone
      · exact same ▸ here
      · rw [gone] at here
        cases here
    -- What matters from here on is whether another matcher holds the order.
    by_cases elsewhere : ∃ other, other ≠ shard ∧ cluster.RestsAt other orderId
    · -- No matcher holds what another one does, so this one answers that the order is closed.
      obtain ⟨other, differs, rests⟩ := elsewhere
      have unheld : response = alreadyClosed orderId := by
        refine take_unheld carried fun symbol book here member => ?_
        have here' : cluster.RestsAt shard orderId := ⟨symbol, book, kept here, member⟩
        exact differs (ok.apart other shard orderId rests.resting here'.resting)
      rw [unheld]
      refine iff_of_false (fun truthful => ?_) fun nowhere => ?_
      · refine truthful.gone rfl other ?_
        obtain ⟨symbol, book, here, member⟩ := rests
        exact ⟨symbol, book, by rwa [Function.update_of_ne differs], member⟩
      · exact nowhere _ routed other (fun same => differs (Fin.ext same)) rests
    · refine iff_of_true ?_ fun route routed' other differs rests => ?_
      · -- Either no matcher holds the order afterwards, or it was at rest here and is taken out.
        rcases take_answer rolled carried with rfl | ⟨own, book, here, rested, rests, same, rfl⟩
        · refine .closed fun other => ?_
          by_cases same : other = shard
          · rintro ⟨symbol, book, here, member⟩
            rw [same, Function.update_self] at here
            exact take_absent rolled carried here member
          · rintro ⟨symbol, book, here, member⟩
            rw [Function.update_of_ne same] at here
            exact elsewhere ⟨other, same, symbol, book, here, member⟩
        · exact .canceled (kept here) rests same
      · rw [routed] at routed'
        cases routed'
        exact elsewhere ⟨other, fun same => differs (congrArg Fin.val same), rests⟩

/-- Two shards with one symbol each. -/
def twoShards : ClusterSettings :=
  ⟨["000660", "005930"], 2, 0, .alwaysOpen, Nat.succ_pos 1, noAge_nonneg⟩

/-- Every reading of the clock at midnight. -/
def midnight : Readings := ⟨0, 0, 0, 0, 0, 0⟩

/-- A client offers one share of the first symbol. -/
def offerFirst : Readings × ClientRequest :=
  (midnight, .createOrder (.set .empty "symbol" (.text "000660")) (.given "seller") (.given "SELL")
    (.given 70000) (.given 1) 1)

/-- Whether a cancel of the only order under the other symbol is answered as if it were closed. -/
def closedElsewhere : Bool :=
  match run twoShards (start twoShards) [offerFirst] with
  | .error _ => false
  | .ok (cluster, _) =>
    match handle twoShards cluster (midnight, .cancelOrder 1 [("symbol", "005930")]) with
    | .ok (cluster', .ok response) =>
      decide (response = alreadyClosed 1) &&
        ((cluster' ⟨0, Nat.succ_pos 1⟩).bookOf "000660").any fun book => decide (1 ∈ book.plain.ids)
    | _ => false

end Cluster

end StockMarket
