import StockMarket.Deployment.ShortCodes
import StockMarket.Library.Sorted

/-! The universe of tickers: what a matcher caches of it, and what the gateway rebuilds from it. -/

namespace StockMarket

/-- A ticker's rank by trading value on one day. -/
structure DailyRecord where
  ticker : String
  tradeDate : Int
  tradingValueRank : Nat
  deriving DecidableEq

/-- The order of a day's records: by rank, and by ticker where ranks are equal. -/
def DailyRecord.before (record other : DailyRecord) : Prop :=
  record.tradingValueRank < other.tradingValueRank ∨
    record.tradingValueRank = other.tradingValueRank ∧ record.ticker ≤ other.ticker

/-- The order of records can be decided. -/
instance : DecidableRel DailyRecord.before := fun _ _ => inferInstanceAs (Decidable (_ ∨ _))

/-- The contents of the table of daily records, one for each ticker and day. -/
structure MarketDaily where
  records : List DailyRecord
  unique : (records.map fun record => (record.ticker, record.tradeDate)).Nodup
  codes : ∀ record ∈ records, isShortCode record.ticker = true

namespace MarketDaily

/-- The last day with records. -/
def latestTradeDate (daily : MarketDaily) : Option Int :=
  (daily.records.map DailyRecord.tradeDate).max?

/-- The tickers of a day in the order of their ranks. -/
def ranked (daily : MarketDaily) (tradeDate : Int) : List String :=
  ((daily.records.filter fun record => record.tradeDate = tradeDate).insertionSort
    DailyRecord.before).map DailyRecord.ticker

end MarketDaily

/-- The only ticker while there is no data. -/
def fallbackSymbol : String := "005930"

/-- The environment that all matcher processes share, past its checks. -/
structure SimulationSettings where
  symbolLimit : Nat
  maxAgeSeconds : ℚ
  mode : MarketMode
  symbolLimit_pos : 1 ≤ symbolLimit
  symbolLimit_le : symbolLimit ≤ 100
  maxAge_nonneg : 0 ≤ maxAgeSeconds

/-- The universe that a process reads when it starts. -/
def loadSimulatedTickers (settings : SimulationSettings) (daily : MarketDaily) : List String :=
  match daily.latestTradeDate with
  -- Before the first import there is one symbol.
  | none => [fallbackSymbol]
  | some latest => (daily.ranked latest).take settings.symbolLimit

/-- The place of a matcher process among those of a shard count, past its check. -/
structure Shard where
  index : Nat
  count : Nat
  inside : index < count
  deriving DecidableEq

/-- A matcher process that has cached a universe. -/
def SimulationSettings.matcher (settings : SimulationSettings) (shard : Shard)
    (tickers : List String) : MatcherSettings where
  tickers := tickers
  shardIndex := shard.index
  shardCount := shard.count
  maxAgeSeconds := settings.maxAgeSeconds
  mode := settings.mode
  shard_inside := shard.inside
  maxAge_nonneg := settings.maxAge_nonneg

/-- An entry of a matcher's list of symbols. -/
structure ListedSymbol where
  ticker : String
  simulationEnabled : Bool
  matcherShard : Option Nat
  deriving DecidableEq

/-- The ranking of the last day, as the API lists it. -/
structure SymbolListing where
  tradeDate : Option Int
  results : List ListedSymbol
  deriving DecidableEq

/--
A matcher's list of symbols, for a request without a search term.

The ranks are read from the table now, and the other fields from the universe in the cache.
-/
def symbolList (daily : MarketDaily) (matcher : MatcherSettings) (limit : Nat) : SymbolListing :=
  match daily.latestTradeDate with
  | none => ⟨none, []⟩
  | some latest =>
    ⟨some latest, ((daily.ranked latest).take limit).map fun ticker =>
      { ticker
        -- These two are of the cached universe, not of the table.
        simulationEnabled := matcher.isSimulatedSymbol ticker
        matcherShard := shardForTicker matcher.tickers ticker matcher.shardCount }⟩

/-- Exceptions of the gateway's reading of the universe. -/
inductive UniverseError where
  | valueError (message : String)
  | urlError
  deriving DecidableEq

/-- The tickers of the entries that take part in the simulation. -/
def tickersFromSymbolsPayload (results : List ListedSymbol) :
    Except UniverseError (List String) :=
  let tickers := ((results.filter ListedSymbol.simulationEnabled).map fun item =>
    strip item.ticker).filter (· ≠ "")
  if tickers = [] then .error (.valueError "symbol response has no simulated tickers")
  else .ok tickers

section Universes

variable {daily : MarketDaily} {settings : SimulationSettings} {ticker : String}

/-- No ticker is ranked twice on a day. -/
theorem ranked_nodup (daily : MarketDaily) (tradeDate : Int) :
    (daily.ranked tradeDate).Nodup := by
  have sorted := List.perm_insertionSort DailyRecord.before
    (daily.records.filter fun record => record.tradeDate = tradeDate)
  rw [MarketDaily.ranked, (sorted.map DailyRecord.ticker).nodup_iff]
  have part : (daily.records.filter fun record => record.tradeDate = tradeDate).Sublist
    daily.records := List.filter_sublist
  have distinct := daily.unique.sublist (part.map _)
  -- Records of one day that have one ticker are one record.
  refine List.Nodup.of_map (fun ticker => (ticker, tradeDate)) ?_
  rw [List.map_map]
  refine (List.map_congr_left fun record member => ?_) ▸ distinct
  rw [Function.comp_apply, of_decide_eq_true (List.mem_filter.mp member).2]

/-- Every ranked ticker is a short code. -/
theorem isShortCode_of_mem_ranked {tradeDate : Int} (member : ticker ∈ daily.ranked tradeDate) :
    isShortCode ticker = true := by
  obtain ⟨record, sorted, rfl⟩ := List.mem_map.mp member
  have inside := (List.perm_insertionSort _ _).mem_iff.mp sorted
  exact daily.codes record (List.mem_filter.mp inside).1

/-- A universe lists short codes, and none of them twice. -/
structure Universe (tickers : List String) : Prop where
  distinct : tickers.Nodup
  codes : ∀ ticker ∈ tickers, isShortCode ticker = true

/-- A part of the ranking is a universe. -/
theorem universe_of_sublist {tickers : List String} {tradeDate : Int}
    (part : tickers.Sublist (daily.ranked tradeDate)) : Universe tickers where
  distinct := (ranked_nodup daily tradeDate).sublist part
  codes := fun _ member => isShortCode_of_mem_ranked (part.subset member)

/-- Every process reads a universe. -/
theorem universe_loadSimulatedTickers (settings : SimulationSettings) (daily : MarketDaily) :
    Universe (loadSimulatedTickers settings daily) := by
  unfold loadSimulatedTickers
  split
  · exact ⟨List.nodup_singleton _, by decide⟩
  · exact universe_of_sublist (List.take_sublist _ _)

/-- The gateway keeps the ranked tickers that the matcher simulates, in the order of their ranks. -/
theorem tickersFromSymbolsPayload_symbolList {matcher : MatcherSettings} {limit : Nat}
    {tickers : List String} :
    tickersFromSymbolsPayload (symbolList daily matcher limit).results = .ok tickers ↔
      tickers ≠ [] ∧ ∃ latest, daily.latestTradeDate = some latest ∧
        tickers = ((daily.ranked latest).take limit).filter matcher.isSimulatedSymbol := by
  unfold symbolList
  cases found : daily.latestTradeDate with
  | none =>
    have refused : tickersFromSymbolsPayload [] =
      .error (.valueError "symbol response has no simulated tickers") := rfl
    simp [refused]
  | some latest =>
    -- Stripping a short code changes nothing, so no ticker is dropped.
    have plain : ∀ listed : List String, (∀ ticker ∈ listed, isShortCode ticker = true) →
        (listed.map strip).filter (· ≠ "") = listed := by
      intro listed codes
      have same : listed.map strip = listed := by
        conv_rhs => rw [← List.map_id listed]
        exact List.map_congr_left fun ticker member => (strip_of_isShortCode (codes _ member)).1
      rw [same]
      refine List.filter_eq_self.mpr fun ticker member => decide_eq_true ?_
      exact (strip_of_isShortCode (codes _ member)).2
    -- The listing is filtered by simulation before it is stripped.
    have kept := plain (((daily.ranked latest).take limit).filter matcher.isSimulatedSymbol)
      fun ticker member => isShortCode_of_mem_ranked
        ((List.take_sublist _ _).subset (List.filter_sublist.subset member))
    simp only [tickersFromSymbolsPayload, List.filter_map, List.map_map, Function.comp_def]
      at kept ⊢
    simp only [kept, Option.some.injEq, exists_eq_left']
    split
    · -- An empty universe is an error for the gateway.
      rename_i empty
      simp [empty]
    · rename_i present
      simp only [Except.ok.injEq]
      constructor
      · rintro rfl
        exact ⟨present, rfl⟩
      · rintro ⟨_, rfl⟩
        rfl

/-- A gateway that asks a matcher with the current universe rebuilds that universe. -/
theorem listed_of_current {shard : Shard} {tickers : List String}
    (listed : tickersFromSymbolsPayload (symbolList daily (settings.matcher shard
      (loadSimulatedTickers settings daily)) 100).results = .ok tickers) :
    tickers = loadSimulatedTickers settings daily := by
  obtain ⟨_, latest, found, rfl⟩ := tickersFromSymbolsPayload_symbolList.mp listed
  have first : ((daily.ranked latest).take 100).take settings.symbolLimit =
      (daily.ranked latest).take settings.symbolLimit := by
    rw [List.take_take, Nat.min_eq_left settings.symbolLimit_le]
  have distinct : (((daily.ranked latest).take 100).map id).Nodup := by
    rw [List.map_id]
    exact (ranked_nodup daily latest).sublist (List.take_sublist _ _)
  -- The matcher simulates the beginning of the ranks, which is shorter than what it lists.
  have kept := filter_mem_take distinct settings.symbolLimit
  rw [first, List.map_id] at kept
  simp only [loadSimulatedTickers, found]
  exact kept

end Universes

end StockMarket
