import StockMarket.Deployment.Universe
import StockMarket.Library.Machine
import StockMarket.Matcher.ViewLaws

/-! Imports and starts of the processes in any order, and when each symbol still has one book. -/

namespace StockMarket

/-- The gateway process, with the universe that it has rebuilt. -/
structure Gateway where
  shardCount : Nat
  tickers : List String
  shardCount_pos : 1 ≤ shardCount

/-- The table of daily records, and the processes that run, with the universe that each holds. -/
structure Deployment where
  marketDaily : MarketDaily
  matchers : Dict Shard (List String)
  gateway : Option Gateway

/-- What happens to a deployment; a process that runs already is stopped when it is started. -/
inductive DeploymentEvent where
  | imports (marketDaily : MarketDaily)
  | startMatcher (shard : Shard)
  | stopMatcher (shard : Shard)
  | startGateway (shardCount : Nat) (source : Shard)
  | stopGateway

/-- Why a gateway does not start. -/
inductive GatewayExit where
  | systemExit (message : String)
  | runtimeError (lastError : UniverseError)
  deriving DecidableEq

namespace Deployment

/-- Nothing runs at first. -/
def start (marketDaily : MarketDaily) : Deployment := ⟨marketDaily, .empty, none⟩

/-- The gateway's question to one of the matchers, which may not run. -/
def fetchTickers (settings : SimulationSettings) (deployment : Deployment) (source : Shard) :
    Except UniverseError (List String) :=
  match deployment.matchers.get? source with
  | none => .error .urlError
  | some cached =>
    tickersFromSymbolsPayload
      (symbolList deployment.marketDaily (settings.matcher source cached) 100).results

/-- The gateway starts with the universe of the database, and the shards that are asked for. -/
def startGateway (settings : SimulationSettings) (deployment : Deployment) (shardCount : Nat)
    (source : Shard) : Except GatewayExit Gateway :=
  if positive : 1 ≤ shardCount then
    match fetchTickers settings deployment source with
    | .ok tickers => .ok ⟨shardCount, tickers, positive⟩
    | .error lastError => .error (.runtimeError lastError)
  else .error (.systemExit "SIMULATION_SHARD_COUNT must be at least 1")

/-- What happens to a deployment in one event. -/
def step (settings : SimulationSettings) (deployment : Deployment) :
    DeploymentEvent → Deployment × Option GatewayExit
  | .imports marketDaily => ({ deployment with marketDaily }, none)
  | .startMatcher shard =>
    let tickers := loadSimulatedTickers settings deployment.marketDaily
    ({ deployment with matchers := deployment.matchers.set shard tickers }, none)
  | .stopMatcher shard =>
    ({ deployment with matchers := deployment.matchers.erase shard }, none)
  | .startGateway shardCount source =>
    match startGateway settings deployment shardCount source with
    | .ok gateway => ({ deployment with gateway := some gateway }, none)
    | .error failure => ({ deployment with gateway := none }, some failure)
  | .stopGateway => ({ deployment with gateway := none }, none)

/-- The deployment after some events. -/
def after (settings : SimulationSettings) (deployment : Deployment)
    (events : List DeploymentEvent) : Deployment :=
  (Machine.runTotal (step settings) deployment events).1

/-- No symbol has two matchers, and the gateway sends each symbol to a matcher that owns it. -/
structure OneBook (settings : SimulationSettings) (deployment : Deployment) : Prop where
  single : ∀ shard tickers other held, deployment.matchers.get? shard = some tickers →
    deployment.matchers.get? other = some held → shard.count = other.count → ∀ symbol,
    (settings.matcher shard tickers).owned.isOwnedSymbol symbol = true →
    (settings.matcher other held).owned.isOwnedSymbol symbol = true → shard = other
  routed : ∀ gateway, deployment.gateway = some gateway → ∀ request route symbol,
    routeRequest request gateway.tickers gateway.shardCount = .ok route →
    route.symbol = some symbol → ∀ shard held, deployment.matchers.get? shard = some held →
    shard.count = gateway.shardCount → shard.index = route.shardIndex →
    (settings.matcher shard held).owned.isOwnedSymbol symbol = true

end Deployment

/-- Whether a list has a ticker at one of a shard's positions. -/
def Shard.places (shard : Shard) (tickers : List String) (ticker : String) : Bool :=
  ticker ∈ tickers ∧ tickers.idxOf ticker % shard.count = shard.index

/-- Whether no ticker is at one shard's positions in one list and at another's in another list. -/
def Shard.apart (shard other : Shard) (tickers held : List String) : Bool :=
  tickers.all fun ticker => ¬ (shard.places tickers ticker ∧ other.places held ticker)

/-- Whether the tickers at a shard's positions in one list are at its positions in another list. -/
def Shard.keeps (shard : Shard) (tickers held : List String) : Bool :=
  tickers.all fun ticker => shard.places tickers ticker → shard.places held ticker

namespace Deployment

/-- The first hundred tickers of the latest day that are in the universe of a matcher. -/
def enabled (deployment : Deployment) (source : Shard) : List String :=
  match deployment.matchers.get? source, deployment.marketDaily.latestTradeDate with
  | some cached, some latest =>
    ((deployment.marketDaily.ranked latest).take 100).filter fun ticker => ticker ∈ cached
  | _, _ => []

/--
Whether the ranks have not moved a ticker between shards since the running processes read them.

A starting matcher compares the ranks it reads with the universes of the other matchers and of the
gateway. A starting gateway compares the tickers it is given with the universes of the matchers.
-/
def ranksKept (settings : SimulationSettings) (deployment : Deployment) : DeploymentEvent → Bool
  | .startMatcher shard =>
    let tickers := loadSimulatedTickers settings deployment.marketDaily
    (deployment.matchers.items.all fun item =>
      item.1.count = shard.count → item.1 ≠ shard → shard.apart item.1 tickers item.2) &&
    deployment.gateway.all fun gateway =>
      gateway.shardCount = shard.count → shard.keeps gateway.tickers tickers
  | .startGateway shardCount source =>
    deployment.matchers.items.all fun item =>
      item.1.count = shardCount → item.1.keeps (deployment.enabled source) item.2
  | .imports _ | .stopMatcher _ | .stopGateway => true

/-- Every process holds a universe. -/
structure Valid (deployment : Deployment) : Prop where
  matchers : ∀ shard tickers, deployment.matchers.get? shard = some tickers → Universe tickers
  gateway : ∀ gateway, deployment.gateway = some gateway → Universe gateway.tickers

/-- The positions of the running matchers do not overlap, and those of the gateway are theirs. -/
structure Placed (deployment : Deployment) : Prop where
  apart : ∀ shard tickers other held, deployment.matchers.get? shard = some tickers →
    deployment.matchers.get? other = some held → other.count = shard.count → other ≠ shard →
    shard.apart other tickers held = true
  keeps : ∀ gateway, deployment.gateway = some gateway → ∀ shard held,
    deployment.matchers.get? shard = some held → gateway.shardCount = shard.count →
    shard.keeps gateway.tickers held = true

end Deployment

section Places

variable {shard other : Shard} {tickers held : List String} {ticker : String}

/-- A shard places the tickers that are assigned to it. -/
theorem places_iff : shard.places tickers ticker = true ↔
    shardForTicker tickers ticker shard.count = some shard.index := by
  -- A shard is one of at least one, since its index is below its count.
  have positive : 1 ≤ shard.count := Nat.one_le_of_lt shard.inside
  rw [shardForTicker_eq_some_iff positive, Shard.places, decide_eq_true_eq]

/-- Only tickers of the universe are placed. -/
theorem mem_of_places (placed : shard.places tickers ticker = true) : ticker ∈ tickers :=
  (of_decide_eq_true placed).1

/-- Two shards are apart when no ticker is at positions of both. -/
theorem apart_iff : shard.apart other tickers held = true ↔
    ∀ ticker, shard.places tickers ticker = true → ¬other.places held ticker = true := by
  simp only [Shard.apart, List.all_eq_true, decide_eq_true_eq, not_and]
  constructor
  · -- A ticker at a position of the shard is in its list.
    intro every ticker placed
    exact every ticker (mem_of_places placed) placed
  · exact fun every ticker _ => every ticker

/-- Whether two shards are apart does not depend on their order. -/
theorem apart_comm : shard.apart other tickers held = other.apart shard held tickers := by
  rw [Bool.eq_iff_iff, apart_iff, apart_iff]
  constructor
  · exact fun every ticker placed placed' => every ticker placed' placed
  · exact fun every ticker placed placed' => every ticker placed' placed

/-- A list keeps a shard's positions when each of its tickers there is there in the other list. -/
theorem keeps_iff : shard.keeps tickers held = true ↔
    ∀ ticker, shard.places tickers ticker = true → shard.places held ticker = true := by
  -- A ticker without a position in the shard asks for nothing.
  simp only [Shard.keeps, List.all_eq_true, decide_eq_true_eq]
  constructor
  · intro every ticker placed
    exact every ticker (mem_of_places placed) placed
  · exact fun every ticker _ => every ticker

/-- Matchers of one shard count and one universe are apart. -/
theorem apart_self (same : other.count = shard.count) (differs : other ≠ shard) :
    shard.apart other tickers tickers = true := by
  refine apart_iff.mpr fun ticker placed placed' => differs ?_
  rw [places_iff] at placed placed'
  rw [same, placed, Option.some.injEq] at placed'
  -- The two shards have the count in common and now the index as well.
  obtain ⟨index, count, inside⟩ := shard
  obtain ⟨index', count', inside'⟩ := other
  simp only at same placed'
  subst same placed'
  rfl

/-- A matcher owns the tickers at its positions. -/
theorem isOwnedSymbol_iff_places (settings : SimulationSettings) (distinct : tickers.Nodup) :
    (settings.matcher shard tickers).owned.isOwnedSymbol ticker = true ↔
      shard.places tickers ticker = true := by
  rw [places_iff]
  exact decide_eq_true_iff.trans
    (owned_iff_shardForTicker distinct (settings.matcher shard tickers).owned_slice)

/-- The gateway routes some request for a short code to the shard at whose positions it is. -/
theorem exists_route {gateway : Gateway} (code : isShortCode ticker = true)
    (same : gateway.shardCount = shard.count)
    (placed : shard.places gateway.tickers ticker = true) :
    ∃ request, routeRequest request gateway.tickers gateway.shardCount =
      .ok ⟨shard.index, some ticker, none⟩ := by
  rw [places_iff, ← same] at placed
  -- A cancel that names the ticker is such a request.
  refine ⟨.cancelOrder 0 [("symbol", ticker)], ?_⟩
  rw [route_cancelOrder gateway.shardCount_pos, requiredQuerySymbol_ticker code]
  simp only [routeSymbol, placed]

end Places

namespace Deployment

variable {settings : SimulationSettings} {deployment : Deployment}

/-- One book for each symbol is a matter of the positions in the universes that are held. -/
theorem oneBook_iff (valid : deployment.Valid) :
    deployment.OneBook settings ↔ deployment.Placed := by
  constructor
  · intro sound
    -- Two matchers of one count that own a ticker would be the same.
    refine ⟨?_, ?_⟩
    · intro shard tickers other held run runs same differs
      refine apart_iff.mpr fun ticker placed placed' => differs ?_
      exact (sound.single shard tickers other held run runs same.symm ticker
        ((isOwnedSymbol_iff_places settings (valid.matchers _ _ run).distinct).mpr placed)
        ((isOwnedSymbol_iff_places settings (valid.matchers _ _ runs).distinct).mpr placed')).symm
    · -- The gateway routes the ticker to the shard, whose matcher owns it.
      intro gateway listens shard held run same
      refine keeps_iff.mpr fun ticker placed => ?_
      have code := (valid.gateway gateway listens).codes ticker (mem_of_places placed)
      obtain ⟨request, routed⟩ := exists_route code same placed
      have owns := sound.routed gateway listens request _ ticker routed rfl shard held run same.symm
        rfl
      exact (isOwnedSymbol_iff_places settings (valid.matchers _ _ run).distinct).mp owns
  · intro placed
    refine ⟨?_, ?_⟩
    · -- A symbol that both own is at the positions of both.
      intro shard tickers other held run runs same symbol owns owns'
      rw [isOwnedSymbol_iff_places settings (valid.matchers _ _ run).distinct] at owns
      rw [isOwnedSymbol_iff_places settings (valid.matchers _ _ runs).distinct] at owns'
      by_contra differs
      have apart := placed.apart shard tickers other held run runs same.symm (Ne.symm differs)
      exact apart_iff.mp apart symbol owns owns'
    · -- The gateway routes by position in its own list, which the matcher keeps.
      intro gateway listens request route symbol routed named shard held run same index
      rw [isOwnedSymbol_iff_places settings (valid.matchers _ _ run).distinct]
      have assigned := routeRequest_shard gateway.shardCount_pos routed named
      rw [← same, ← index] at assigned
      exact keeps_iff.mp (placed.keeps gateway listens shard held run same.symm) symbol
        (places_iff.mpr assigned)

/-- The gateway is given the enabled tickers, unless there are none. -/
theorem fetchTickers_eq_ok_iff {source : Shard} {tickers : List String} :
    fetchTickers settings deployment source = .ok tickers ↔
      tickers ≠ [] ∧ tickers = deployment.enabled source := by
  unfold fetchTickers enabled
  -- Without a matcher or a trading day there is nothing to fetch.
  cases deployment.matchers.get? source with
  | none => simp
  | some cached =>
    rw [tickersFromSymbolsPayload_symbolList]
    cases deployment.marketDaily.latestTradeDate with
    | none => simp
    | some latest =>
      simp only [Option.some.injEq, exists_eq_left']
      rfl

/-- A gateway that starts has the enabled tickers. -/
theorem tickers_of_startGateway {shardCount : Nat} {source : Shard} {gateway : Gateway}
    (started : startGateway settings deployment shardCount source = .ok gateway) :
    gateway.shardCount = shardCount ∧ gateway.tickers = deployment.enabled source := by
  unfold startGateway at started
  split at started
  · -- The gateway starts with what it has fetched.
    split at started
    · rename_i fetched
      cases started
      exact ⟨rfl, (fetchTickers_eq_ok_iff.mp fetched).2⟩
    · cases started
  · cases started

/-- A gateway with at least one shard starts unless nothing is enabled. -/
theorem enabled_of_startGateway {shardCount : Nat} {source : Shard} {failure : GatewayExit}
    (failed : startGateway settings deployment shardCount source = .error failure)
    (positive : 1 ≤ shardCount) : deployment.enabled source = [] := by
  -- If something were enabled, the gateway would have fetched it and started.
  by_contra present
  have fetched : fetchTickers settings deployment source = .ok (deployment.enabled source) :=
    fetchTickers_eq_ok_iff.mpr ⟨present, rfl⟩
  rw [startGateway, dif_pos positive, fetched] at failed
  cases failed

/-- The enabled tickers are a universe. -/
theorem universe_enabled (deployment : Deployment) (source : Shard) :
    Universe (deployment.enabled source) := by
  unfold enabled
  split
  · -- The enabled tickers are a part of the ranked ones.
    exact universe_of_sublist (List.filter_sublist.trans (List.take_sublist _ _))
  · exact ⟨List.nodup_nil, by simp⟩

/-- Without processes, a deployment is valid. -/
theorem valid_start (marketDaily : MarketDaily) : (start marketDaily).Valid where
  matchers := by simp [start]
  gateway := by simp [start]

/-- Every step leaves every process with a universe. -/
theorem valid_step (valid : deployment.Valid) (event : DeploymentEvent) :
    (step settings deployment event).1.Valid := by
  -- Only a start gives a process a universe, and it is one.
  cases event with
  | imports marketDaily => exact ⟨valid.matchers, valid.gateway⟩
  | startMatcher shard =>
    refine ⟨fun other tickers run => ?_, valid.gateway⟩
    simp only [step, Dict.get?_set] at run
    split at run
    · -- The started matcher has loaded the universe from the table.
      cases run
      exact universe_loadSimulatedTickers settings deployment.marketDaily
    · exact valid.matchers other tickers run
  | stopMatcher shard =>
    refine ⟨fun other tickers run => ?_, valid.gateway⟩
    simp only [step, Dict.get?_erase] at run
    split at run
    · cases run
    · exact valid.matchers other tickers run
  | startGateway shardCount source =>
    simp only [step]
    split
    · -- The gateway has the tickers that it was given.
      rename_i gateway started
      refine ⟨valid.matchers, fun listener listens => ?_⟩
      cases listens
      rw [(tickers_of_startGateway started).2]
      exact universe_enabled deployment source
    · exact ⟨valid.matchers, by simp⟩
  | stopGateway => exact ⟨valid.matchers, by simp [step]⟩

/-- Without processes, every symbol is placed as the database says. -/
theorem placed_start (marketDaily : MarketDaily) : (start marketDaily).Placed where
  apart := by simp [start]
  keeps := by simp [start]

/-- The start of a matcher changes positions of its own shard only. -/
theorem placed_startMatcher_iff (placed : deployment.Placed) (shard : Shard) :
    (step settings deployment (.startMatcher shard)).1.Placed ↔
      ranksKept settings deployment (.startMatcher shard) = true := by
  simp only [ranksKept, Bool.and_eq_true, Dict.items_all_iff, Option.all_eq_true,
    decide_eq_true_eq]
  constructor
  · intro next
    -- The started matcher holds what it has loaded.
    have own : (step settings deployment (.startMatcher shard)).1.matchers.get? shard =
        some (loadSimulatedTickers settings deployment.marketDaily) := by simp [step]
    refine ⟨fun other held run same differs => ?_, fun gateway listens same => ?_⟩
    · -- Other matchers still run with their own universes.
      have still : (step settings deployment (.startMatcher shard)).1.matchers.get? other =
          some held := by simp [step, differs, run]
      exact next.apart shard _ other held own still same differs
    · exact next.keeps gateway listens shard _ own same
  · -- The started matcher is apart from the others and keeps the gateway's positions.
    rintro ⟨apart, keeps⟩
    refine ⟨?_, ?_⟩
    · intro one tickers other held run runs same differs
      simp only [step, Dict.get?_set] at run runs
      -- Only one of the two can be the matcher that has started.
      split at run
      · rename_i started
        subst started
        cases run
        rw [if_neg differs] at runs
        exact apart other held runs same differs
      · -- Both were running before, or one of them is the new one.
        rename_i apartFrom
        split at runs
        · rename_i started
          subst started
          cases runs
          rw [apart_comm]
          exact apart one tickers run same.symm apartFrom
        · exact placed.apart one tickers other held run runs same differs
    · intro gateway listens other held run same
      simp only [step, Dict.get?_set] at run
      split at run
      · -- The gateway is compared with the started matcher.
        rename_i started
        subst started
        cases run
        exact keeps gateway listens same
      · exact placed.keeps gateway listens other held run same

/-- The start of a gateway leaves the matchers alone. -/
theorem placed_startGateway_iff (placed : deployment.Placed) (shardCount : Nat) (source : Shard) :
    (step settings deployment (.startGateway shardCount source)).1.Placed ↔
      ranksKept settings deployment (.startGateway shardCount source) = true := by
  simp only [ranksKept, Dict.items_all_iff, decide_eq_true_eq, step]
  cases started : startGateway settings deployment shardCount source with
  -- The gateway listens with the tickers that it has fetched.
  | ok gateway =>
    obtain ⟨counted, listed⟩ := tickers_of_startGateway started
    simp only
    constructor
    · intro next shard held run same
      rw [← listed]
      exact next.keeps gateway rfl shard held run (counted.trans same.symm)
    · intro keeps
      refine ⟨placed.apart, fun listener listens shard held run same => ?_⟩
      cases listens
      rw [listed]
      exact keeps shard held run (same.symm.trans counted)
  | error failure =>
    simp only
    refine ⟨fun _ shard held run same => ?_, fun _ => ⟨placed.apart, by simp⟩⟩
    -- A gateway that does not start was given no ticker.
    have positive : 1 ≤ shardCount := same ▸ Nat.one_le_of_lt shard.inside
    rw [enabled_of_startGateway started positive]
    rfl

/-- A step keeps the positions in place exactly when the ranks have not moved a ticker. -/
theorem placed_step_iff (placed : deployment.Placed) (event : DeploymentEvent) :
    (step settings deployment event).1.Placed ↔ ranksKept settings deployment event = true := by
  -- Only starts can bring two processes together that disagree.
  cases event with
  | imports marketDaily => exact ⟨fun _ => rfl, fun _ => ⟨placed.apart, placed.keeps⟩⟩
  | startMatcher shard => exact placed_startMatcher_iff placed shard
  | stopMatcher shard =>
    -- Fewer matchers run, so fewer conditions are left.
    have fewer : ∀ other held, (deployment.matchers.erase shard).get? other = some held →
        deployment.matchers.get? other = some held := by
      intro other held run
      rw [Dict.get?_erase] at run
      split at run
      · cases run
      · exact run
    refine ⟨fun _ => rfl, fun _ => ⟨?_, ?_⟩⟩
    · intro one tickers other held run runs
      exact placed.apart one tickers other held (fewer one tickers run) (fewer other held runs)
    · intro gateway listens other held run
      exact placed.keeps gateway listens other held (fewer other held run)
  | startGateway shardCount source => exact placed_startGateway_iff placed shardCount source
  | stopGateway => exact ⟨fun _ => rfl, fun _ => ⟨placed.apart, by simp [step]⟩⟩

/-- One event as a step that never faults. -/
def total (settings : SimulationSettings) (deployment : Deployment) (event : DeploymentEvent) :
    Except GatewayExit (Deployment × Option GatewayExit) := .ok (step settings deployment event)

/-- A deployment stays valid. -/
theorem valid_after (valid : deployment.Valid) (events : List DeploymentEvent) :
    (deployment.after settings events).Valid :=
  Machine.runTotal_history (fun _ deployment => deployment.Valid)
    (fun _ _ event valid => valid_step valid event) events [] deployment valid

/-- Along any run, the positions stay in place exactly when the ranks never move a ticker. -/
theorem placed_after_iff (placed : deployment.Placed) (events : List DeploymentEvent) :
    (∀ first, first <+: events → (deployment.after settings first).Placed) ↔
      Machine.throughout (total settings) (ranksKept settings) deployment events = true :=
  Machine.runTotal_throughout_iff (fun _ => True) (fun deployment => deployment.Placed)
    (fun _ _ _ => trivial) (fun _ event _ placed => placed_step_iff placed event) events deployment
    trivial placed

/-- Along any run, each symbol has one book exactly when the ranks never move a ticker between the
shards of processes that run together. -/
theorem one_book_iff (settings : SimulationSettings) (marketDaily : MarketDaily)
    (events : List DeploymentEvent) :
    (∀ first, first <+: events → ((start marketDaily).after settings first).OneBook settings) ↔
      Machine.throughout (total settings) (ranksKept settings) (start marketDaily) events =
        true := by
  -- One book for each symbol is the same as positions in their places.
  rw [← placed_after_iff (placed_start marketDaily)]
  refine forall_congr' fun first => forall_congr' fun _ => ?_
  exact oneBook_iff (valid_after (valid_start marketDaily) first)

section Unmoved

variable {tickers : List String}

/-- Every process holds the universe that the table gives now. -/
structure Current (settings : SimulationSettings) (tickers : List String)
    (deployment : Deployment) : Prop where
  marketDaily : loadSimulatedTickers settings deployment.marketDaily = tickers
  matchers : ∀ shard held, deployment.matchers.get? shard = some held → held = tickers
  gateway : ∀ gateway, deployment.gateway = some gateway → gateway.tickers = tickers

/-- A universe that does not change moves no ticker. -/
theorem keeps_self (shard : Shard) (tickers : List String) : shard.keeps tickers tickers = true :=
  keeps_iff.mpr fun _ placed => placed

/-- A matcher enables the universe, or nothing. -/
theorem Current.enabled_eq (current : deployment.Current settings tickers) (source : Shard) :
    deployment.enabled source = [] ∨ deployment.enabled source = tickers := by
  by_cases empty : deployment.enabled source = []
  · exact .inl empty
  · -- A list that is not empty is what a gateway would be given.
    have fetched : fetchTickers settings deployment source = .ok (deployment.enabled source) :=
      fetchTickers_eq_ok_iff.mpr ⟨empty, rfl⟩
    unfold fetchTickers at fetched
    split at fetched
    · cases fetched
    · rename_i cached run
      rw [current.matchers source cached run, ← current.marketDaily] at fetched
      exact .inr ((listed_of_current fetched).trans current.marketDaily)

/-- Processes that hold the current universe can be started in any order. -/
theorem Current.ranksKept (current : deployment.Current settings tickers)
    (event : DeploymentEvent) : deployment.ranksKept settings event = true := by
  -- Imports and stops start no process.
  cases event with
  | imports marketDaily | stopMatcher shard | stopGateway => rfl
  | startMatcher shard =>
    simp only [Deployment.ranksKept, Bool.and_eq_true, Dict.items_all_iff, Option.all_eq_true,
      decide_eq_true_eq, current.marketDaily]
    refine ⟨fun other held run same differs => ?_, fun gateway listens _ => ?_⟩
    · -- All matchers hold one universe, in which their positions do not overlap.
      rw [current.matchers other held run]
      exact apart_self same differs
    · rw [current.gateway gateway listens]
      exact keeps_self shard tickers
  | startGateway shardCount source =>
    simp only [Deployment.ranksKept, Dict.items_all_iff, decide_eq_true_eq]
    intro shard held run _
    rw [current.matchers shard held run]
    -- A gateway with nothing enabled does not start.
    rcases current.enabled_eq source with empty | every
    · rw [empty]
      rfl
    · rw [every]
      exact keeps_self shard tickers

/-- Processes keep the universe as long as imports leave it as it is. -/
theorem Current.step (current : deployment.Current settings tickers) {event : DeploymentEvent}
    (unmoved : ∀ marketDaily, event = .imports marketDaily →
      loadSimulatedTickers settings marketDaily = tickers) :
    (step settings deployment event).1.Current settings tickers := by
  cases event with
  -- The import leaves the universe as it is.
  | imports marketDaily => exact ⟨unmoved marketDaily rfl, current.matchers, current.gateway⟩
  | startMatcher shard =>
    refine ⟨current.marketDaily, fun other held run => ?_, current.gateway⟩
    simp only [Deployment.step, Dict.get?_set] at run
    -- The matcher loads the universe that the table gives.
    split at run
    · cases run
      exact current.marketDaily
    · exact current.matchers other held run
  | stopMatcher shard =>
    refine ⟨current.marketDaily, fun other held run => ?_, current.gateway⟩
    simp only [Deployment.step, Dict.get?_erase] at run
    split at run
    · cases run
    · exact current.matchers other held run
  | startGateway shardCount source =>
    simp only [Deployment.step]
    split
    · -- A gateway that has started has the universe of a running matcher.
      rename_i gateway started
      refine ⟨current.marketDaily, current.matchers, fun listener listens => ?_⟩
      cases listens
      -- A gateway only starts with at least one ticker.
      unfold startGateway at started
      split at started
      · split at started
        · rename_i fetched
          cases started
          obtain ⟨present, listed⟩ := fetchTickers_eq_ok_iff.mp fetched
          rcases current.enabled_eq source with empty | every
          · exact absurd (listed.trans empty) present
          · exact listed.trans every
        · cases started
      · cases started
    · exact ⟨current.marketDaily, current.matchers, by simp⟩
  | stopGateway => exact ⟨current.marketDaily, current.matchers, by simp [Deployment.step]⟩

/-- As long as imports leave the universe as it is, each symbol has one book. -/
theorem oneBook_of_unmoved (settings : SimulationSettings) (marketDaily : MarketDaily)
    (events : List DeploymentEvent)
    (unmoved : ∀ later, .imports later ∈ events →
      loadSimulatedTickers settings later = loadSimulatedTickers settings marketDaily) :
    ((start marketDaily).after settings events).OneBook settings := by
  -- The ranks never move a ticker, by induction over the events.
  have kept : ∀ (events : List DeploymentEvent) (deployment : Deployment),
      deployment.Current settings (loadSimulatedTickers settings marketDaily) →
      (∀ later, .imports later ∈ events →
        loadSimulatedTickers settings later = loadSimulatedTickers settings marketDaily) →
      Machine.throughout (total settings) (Deployment.ranksKept settings) deployment events =
        true := by
    intro events
    induction events with
    | nil => exact fun _ _ _ => rfl
    | cons event later ih =>
      intro deployment current unmoved
      refine (Machine.throughout_cons rfl).mpr ⟨current.ranksKept event, ih _ (current.step ?_) ?_⟩
      · rintro table rfl
        exact unmoved table List.mem_cons_self
      · exact fun table member => unmoved table (List.mem_cons_of_mem _ member)
  -- At first nothing runs, and the table is the one the ranks are read from.
  have begun : (start marketDaily).Current settings (loadSimulatedTickers settings marketDaily) :=
    ⟨rfl, by simp [start], by simp [start]⟩
  have placed := (placed_after_iff (placed_start marketDaily) events).mpr
    (kept events _ begun unmoved) events List.prefix_rfl
  exact (oneBook_iff (valid_after (valid_start marketDaily) events)).mpr placed

end Unmoved

/-- Two shards, and two days on which the two highest ranks change places. -/
def firstShard : Shard := ⟨0, 2, Nat.two_pos⟩

/-- The second of two matchers. -/
def secondShard : Shard := ⟨1, 2, Nat.one_lt_two⟩

/-- A day with two ranked tickers. -/
def firstDay : List DailyRecord := [⟨"000660", 1, 1⟩, ⟨"005930", 1, 2⟩]

/-- The next day, on which they have changed places. -/
def secondDay : List DailyRecord := firstDay ++ [⟨"005930", 2, 1⟩, ⟨"000660", 2, 2⟩]

/-- No ticker has two records on the first day. -/
theorem firstDay_unique :
    (firstDay.map fun record => (record.ticker, record.tradeDate)).Nodup := by decide

/-- No ticker has two records on either day. -/
theorem secondDay_unique :
    (secondDay.map fun record => (record.ticker, record.tradeDate)).Nodup := by decide

/-- The tickers of the first day are short codes. -/
theorem firstDay_codes : ∀ record ∈ firstDay, isShortCode record.ticker = true := by decide

/-- The tickers of both days are short codes. -/
theorem secondDay_codes : ∀ record ∈ secondDay, isShortCode record.ticker = true := by decide

/-- A limit of two is allowed. -/
theorem two_le_hundred : 2 ≤ 100 := by decide

/-- Processes that simulate the two tickers of the highest ranks. -/
def topTwo : SimulationSettings :=
  ⟨2, 0, .alwaysOpen, Nat.two_pos, two_le_hundred, noAge_nonneg⟩

/-- A matcher that is started again after the ranks have changed takes over a symbol that the other
matcher has not given up. -/
theorem restart_splits_book :
    ¬((start ⟨firstDay, firstDay_unique, firstDay_codes⟩).after topTwo
      [.startMatcher firstShard, .startMatcher secondShard, .startGateway 2 firstShard,
        .imports ⟨secondDay, secondDay_unique, secondDay_codes⟩,
        .startMatcher secondShard]).OneBook topTwo := by
  -- Both matchers own the symbol after the ranks have changed.
  intro sound
  have same := sound.single firstShard ["000660", "005930"] secondShard ["005930", "000660"]
    (by decide +kernel) (by decide +kernel) rfl "000660" (by decide +kernel) (by decide +kernel)
  exact absurd same (by decide)

end Deployment

end StockMarket
