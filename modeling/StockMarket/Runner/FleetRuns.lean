import StockMarket.Runner.Fleet

/-! Runners that start from the stored profiles: all of them or none, each in one shard. -/

namespace StockMarket

section Single

variable {G : Type} {source : RandomSource G} {python : BackendApiClient.Interpreter}
  {stamps : UUID → String × String} {tickIntervalMs : Int} {selection : ProfileSelection}
  {profiles : List TraderProfile} {symbols : BackendApiClient.Transport}

/-- A runner without a shard builds its traders from what the API lists. -/
theorem loadParticipants_single (single : selection.runnerShardIndex = none)
    (fits : ∀ profile ∈ profiles, profile.fits = true)
    (sends : python.refusesUrl BackendApiClient.tradersPath = false) (deep : 2 ≤ python.nesting) :
    loadParticipants source python selection tickIntervalMs symbols
        (profilesTransport stamps profiles) =
      (buildParticipants source python.prints selection .empty tickIntervalMs
        (profiles.map (TraderProfile.payload stamps))).mapError .profiles := by
  have fetched := @fetchTraderProfiles_transport stamps profiles python fits sends deep
  unfold loadParticipants
  simp only [single, fetched]
  rfl

/-- A client that can send any URL. -/
def openClient : BackendApiClient.Interpreter := ⟨1000, fun _ => [], fun _ => false⟩

/-- A runner that takes every profile. -/
def wholeSelection : ProfileSelection := ⟨[], [], none, none⟩

variable (source python tickIntervalMs selection symbols)

/--
A runner without a shard builds all of the traders that it takes, or it does not start.

It takes the stored profiles that are enabled and selected, in the order of their names, and it
starts exactly when each of them has a range of quantities. That is so in every state that requests
and seed commands reach when no new profile has a least quantity above ten without a largest one.
-/
theorem runner_starts_iff (collates : String → String → Bool) (turns : List ProfileTurn)
    (codes : ∀ turn ∈ turns, ProfileTurn.Asks ProfileCall.ReadsCodes turn)
    (stamps : UUID → String × String) (single : selection.runnerShardIndex = none)
    (positive : 1 ≤ tickIntervalMs)
    (sends : python.refusesUrl BackendApiClient.tradersPath = false) (deep : 2 ≤ python.nesting) :
    let table := (Machine.runTotal (Shared.step (profileService collates)) ProfileSystem.new turns).1.store
    let profiles := table.all collates
    let started := loadParticipants source python selection tickIntervalMs symbols
      (profilesTransport stamps profiles)
    (¬ selection.Finds profiles → started = .error (.profiles (.invalidTraderProfileError
        "each selected trader must exist and be enabled"))) ∧
      (selection.Finds profiles →
        ((∀ profile ∈ selection.roster .empty profiles, profile.HasRange) ↔
          ∃ built, started = .ok built ∧ List.Forall₂
            (TraderProfile.RunsAs source tickIntervalMs) (selection.roster .empty profiles) built) ∧
        (¬ (∀ profile ∈ selection.roster .empty profiles, profile.HasRange) →
          started = .error (.profiles (.invalidTraderProfileError
            "trader profile has invalid settings"))) ∧
        ((∀ turn ∈ turns, ProfileTurn.Asks ProfileCall.BoundsQuantity turn) →
          ∀ profile ∈ selection.roster .empty profiles, profile.HasRange)) := by
  intro table profiles started
  obtain ⟨upheld, _⟩ := profiles_upheld collates turns codes
    (∀ turn ∈ turns, ProfileTurn.Asks ProfileCall.BoundsQuantity turn) id
  have each : ∀ profile ∈ profiles, profile.Meets
      (∀ turn ∈ turns, ProfileTurn.Asks ProfileCall.BoundsQuantity turn) :=
    fun profile member => upheld.store.each profile (List.mem_mergeSort.mp member)
  -- What a starting runner does with the profiles is to build its participants.
  have load : started = (buildParticipants source python.prints selection .empty tickIntervalMs
      (profiles.map (TraderProfile.payload stamps))).mapError .profiles :=
    loadParticipants_single single (fun profile member => (each profile member).1.fits) sends deep
  have unsharded : selection.runnerShardIndex.isSome = true →
      (.empty : Dict CodePoints Int).items ≠ [] := by
    rw [single]
    exact fun sharded => absurd sharded Bool.false_ne_true
  constructor
  · intro missing
    -- A selected profile that is missing refuses the start.
    have refused :=
      (@ProfileSelection.requireFound_payloads python.prints stamps selection profiles).2 missing
    rw [load, buildParticipants, ProfileSelection.selected_payloads, Outcome.bind_ok rfl,
      Outcome.bind_error refused]
    rfl
  · intro finds
    have outcome := @buildParticipants_payloads G source python.prints stamps tickIntervalMs
      selection profiles .empty (fun profile member => (each profile member).1) positive finds
      unsharded
    refine ⟨⟨fun ranges => ?_, fun made => ?_⟩, fun lacking => ?_, fun bounds profile member => ?_⟩
    · obtain ⟨built, made, runs⟩ := outcome.1 ranges
      rw [load, made]
      exact ⟨built, rfl, runs⟩
    · -- A runner that has started was not refused.
      by_contra lacking
      obtain ⟨built, done, _⟩ := made
      rw [load, outcome.2 lacking] at done
      cases done
    · rw [load, outcome.2 lacking]
      rfl
    · exact (each profile (ProfileSelection.roster_subset profile member)).2 bounds

/-- Two traders of different symbols, one of them without a range of quantities. -/
def twoCreations : List ProfileTurn :=
  let traded := ["005930", "000660"]
  [.begin 0 ⟨⟨true, traded⟩, .create 7 (namingFields "ann")⟩,
    .begin 1 ⟨⟨true, traded⟩, .create 8 { namingFields "bob" with
      symbol := .given "000660", quantityMin := .given 50 }⟩] ++
    takingTurns [0, 1, 0, 1, 0, 1, 0, 1]

/-- The two creations ask for profiles by their codes. -/
theorem twoCreations_asks :
    ∀ turn ∈ twoCreations, ProfileTurn.Asks ProfileCall.ReadsCodes turn := by
  have traded : ∀ ticker ∈ ["005930", "000660"], isShortCode ticker = true := by decide
  refine List.forall_mem_append.mpr ⟨?_, asks_takingTurns _⟩
  simp only [List.forall_mem_cons]
  exact ⟨traded, traded, fun _ member => absurd member List.not_mem_nil⟩

/-- A runner starts on two created profiles. -/
theorem runner_starts_iff_named :
    let table := (Machine.runTotal (Shared.step (profileService fun _ _ => true)) ProfileSystem.new
      twoCreations).1.store
    let profiles := table.all fun _ _ => true
    let started := loadParticipants .least openClient wholeSelection 1000 .urlError
      (profilesTransport (fun _ => ("", "")) profiles)
    (¬ wholeSelection.Finds profiles → started = .error (.profiles (.invalidTraderProfileError
        "each selected trader must exist and be enabled"))) ∧
      (wholeSelection.Finds profiles →
        ((∀ profile ∈ wholeSelection.roster .empty profiles, profile.HasRange) ↔
          ∃ built, started = .ok built ∧ List.Forall₂
            (TraderProfile.RunsAs .least 1000) (wholeSelection.roster .empty profiles) built) ∧
        (¬ (∀ profile ∈ wholeSelection.roster .empty profiles, profile.HasRange) →
          started = .error (.profiles (.invalidTraderProfileError
            "trader profile has invalid settings"))) ∧
        ((∀ turn ∈ twoCreations, ProfileTurn.Asks ProfileCall.BoundsQuantity turn) →
          ∀ profile ∈ wholeSelection.roster .empty profiles, profile.HasRange)) :=
  runner_starts_iff .least openClient 1000 wholeSelection .urlError (fun _ _ => true) twoCreations
    twoCreations_asks (fun _ => ("", "")) rfl (by decide) rfl (by decide)

end Single

section Sharded

/-- What the runner of one shard selects, otherwise as all runners. -/
def ProfileSelection.ofShardRunner (selection : ProfileSelection) (index : Nat) : ProfileSelection :=
  { selection with runnerShardIndex := some index }

/-- The stored profiles of one shard that are selected. -/
def shardCandidates (selection : ProfileSelection) (tickers : List String) (count index : Nat)
    (profiles : List TraderProfile) : List TraderProfile :=
  profiles.filter fun profile => selection.takes profile ∧
    shardForTicker tickers profile.symbol count = some index

/-- The profiles that the runner of a shard takes: the first of them, if their number is limited. -/
def shardRoster (selection : ProfileSelection) (tickers : List String) (count index : Nat)
    (profiles : List TraderProfile) : List TraderProfile :=
  selection.limit (shardCandidates selection tickers count index profiles)

/-- A profile that a runner takes is one of the selected ones of its shard. -/
theorem shardRoster_subset {selection : ProfileSelection} {tickers : List String}
    {count index : Nat} {profiles : List TraderProfile} :
    ∀ profile ∈ shardRoster selection tickers count index profiles,
      profile ∈ shardCandidates selection tickers count index profiles := by
  -- The limit only cuts the list off.
  intro profile member
  unfold shardRoster ProfileSelection.limit at member
  split at member
  · exact member
  · exact List.mem_of_mem_take member

variable {python : BackendApiClient.Interpreter} {details : String → SymbolDetails}
  {dated : Int → String} {daily : MarketDaily} {latest : Int} {settings : SimulationSettings}

/-- A list of symbols is read back. -/
theorem legible_listing {style : Json.Style} {listing : SymbolListing}
    (small : ∀ item ∈ listing.results, ∀ shard ∈ item.matcherShard, shard < 10 ^ 9) :
    Json.Legible style 3 (listing.payload dated details) := by
  have short {value : Int} (range : 0 ≤ value ∧ value ≤ maxBigInteger) :
      value.natAbs < 10 ^ maxIntegerDigits := by
    refine short_of_bigInteger ?_ range.2
    unfold maxInteger
    omega
  -- The date is a text, or it is missing.
  have dates : Json.Legible style 2
      (nullable (fun tradeDate => .string (dated tradeDate)) listing.tradeDate) := by
    cases listing.tradeDate with
    | none => exact .null
    | some tradeDate => exact .string _
  refine .record (by simp) ?_
  simp only [List.forall_mem_cons]
  refine ⟨dates, .array fun entry member => ?_, fun _ member => absurd member List.not_mem_nil⟩
  obtain ⟨item, inside, rfl⟩ := List.mem_map.mp member
  have fits := (details item.ticker).fits
  simp only [List.forall_mem_cons] at fits
  obtain ⟨closePrice, volume, tradingValue, rank, _⟩ := fits
  -- A shard number is below the count of shards, and so it is short.
  have shards : Json.Legible style 0
      (nullable (fun shard : Nat => .integer shard) item.matcherShard) := by
    cases given : item.matcherShard with
    | none => exact .null
    | some shard =>
      have few := small item inside shard given
      exact .integer (isUnwritable_eq_false_iff.mp (writable_of_small (by simpa using few)))
  refine .record (by simp) ?_
  simp only [List.forall_mem_cons]
  exact ⟨.string _, .string _, .string _, .integer (short closePrice), .integer (short volume),
    .integer (short tradingValue), .integer (short rank), .bool _, shards,
    fun _ member => absurd member List.not_mem_nil⟩

/-- There are records of the latest day, so its ranking is not empty. -/
theorem ranked_ne_nil (found : daily.latestTradeDate = some latest) : daily.ranked latest ≠ [] := by
  have dated : latest ∈ daily.records.map DailyRecord.tradeDate := List.max?_mem found
  obtain ⟨record, member, rfl⟩ := List.mem_map.mp dated
  intro empty
  have sorted := List.perm_insertionSort DailyRecord.before
    (daily.records.filter fun other => other.tradeDate = record.tradeDate)
  -- The record that gave the latest date is among the ranked ones.
  have kept : record ∈ daily.records.filter fun other => other.tradeDate = record.tradeDate :=
    List.mem_filter.mpr ⟨member, decide_eq_true rfl⟩
  have listed := List.mem_map_of_mem (f := DailyRecord.ticker) (sorted.mem_iff.mpr kept)
  rw [MarketDaily.ranked] at empty
  rw [empty] at listed
  exact absurd listed List.not_mem_nil

/-- A runner learns the shard of every ticker of the universe, and of no other ticker. -/
theorem get?_currentListing (found : daily.latestTradeDate = some latest) (shard : Shard)
    (ticker : String) :
    ((symbolList daily (settings.matcher shard (loadSimulatedTickers settings daily))
        100).results.foldl addListed .empty).get? (codePoints ticker) =
      (shardForTicker (loadSimulatedTickers settings daily) ticker shard.count).map Int.ofNat := by
  rw [get?_symbolList found]
  have beginning : loadSimulatedTickers settings daily =
      (daily.ranked latest).take settings.symbolLimit := by
    simp only [loadSimulatedTickers, found]
  split_ifs with listed
  · rfl
  · -- The universe is the beginning of what is listed.
    rw [shardForTicker_eq_none]
    · rfl
    · rw [beginning]
      exact fun member => listed ((List.take_subset_take_left _ settings.symbolLimit_le) member)

/-- The universe has a hundred tickers at most, so their shards have small numbers. -/
theorem shard_small {count index : Nat} {ticker : String} (positive : 1 ≤ count)
    (assigned : shardForTicker (loadSimulatedTickers settings daily) ticker count = some index) :
    index < 10 ^ 9 := by
  obtain ⟨member, rfl⟩ := (shardForTicker_eq_some_iff positive).mp assigned
  have inside := List.idxOf_lt_length_iff.mpr member
  -- There are at most a hundred simulated tickers.
  have few : (loadSimulatedTickers settings daily).length ≤ 100 := by
    unfold loadSimulatedTickers
    split
    · simp
    · exact (List.length_take_le _ _).trans settings.symbolLimit_le
  have below := Nat.mod_le ((loadSimulatedTickers settings daily).idxOf ticker) count
  omega

variable {G : Type} {source : RandomSource G} {stamps : UUID → String × String}
  {tickIntervalMs : Int} {profiles : List TraderProfile} {selection : ProfileSelection}

/-- A shard's runner builds the traders of its roster, or it does not start. -/
theorem loadParticipants_sharded (found : daily.latestTradeDate = some latest) (shard : Shard)
    (each : ∀ profile ∈ profiles, profile.Sound) (positive : 1 ≤ tickIntervalMs)
    (asks : python.refusesUrl BackendApiClient.symbolsPath = false)
    (sends : python.refusesUrl BackendApiClient.tradersPath = false) (deep : 3 ≤ python.nesting)
    (index : Nat) :
    let started := loadParticipants source python (selection.ofShardRunner index) tickIntervalMs
      ((symbolList daily (settings.matcher shard (loadSimulatedTickers settings daily))
        100).transport dated details) (profilesTransport stamps profiles)
    let roster := shardRoster selection (loadSimulatedTickers settings daily) shard.count index
      profiles
    ((∃ built, started = .ok built) ↔
        selection.Finds profiles ∧ ∀ profile ∈ roster, profile.HasRange) ∧
      ∀ built, started = .ok built →
        List.Forall₂ (TraderProfile.RunsAs source tickIntervalMs) roster built := by
  have shards := @get?_currentListing daily latest settings found shard
  have small : ∀ item ∈ (symbolList daily (settings.matcher shard
      (loadSimulatedTickers settings daily)) 100).results, ∀ index ∈ item.matcherShard,
        index < 10 ^ 9 := by
    intro item member index given
    simp only [symbolList, found] at member
    obtain ⟨ticker, _, rfl⟩ := List.mem_map.mp member
    exact shard_small (Nat.one_le_of_lt shard.inside) given
  generalize symbolList daily (settings.matcher shard (loadSimulatedTickers settings daily)) 100 =
    listing at shards small ⊢
  have asked : BackendApiClient.request python BackendApiClient.symbolsPath
      (listing.transport dated details) = .ok (listing.payload dated details) :=
    BackendApiClient.request_written asks (by decide) ((legible_listing small).deeper deep)
  have fetched : BackendApiClient.fetchMatcherShards python (listing.transport dated details) =
      .ok (listing.results.foldl addListed .empty) := by
    rw [BackendApiClient.fetchMatcherShards, asked, Outcome.bind_ok rfl, matcherShards_payload]
  -- The first ticker of the universe has a shard, so there are shards.
  have known : (listing.results.foldl addListed .empty).items ≠ [] := by
    intro empty
    obtain ⟨ticker, later, ranks⟩ := List.exists_cons_of_ne_nil (ranked_ne_nil found)
    have member : ticker ∈ loadSimulatedTickers settings daily := by
      obtain ⟨limit, same⟩ := Nat.exists_eq_succ_of_ne_zero
        (Nat.pos_iff_ne_zero.mp settings.symbolLimit_pos)
      simp only [loadSimulatedTickers, found, ranks, same, List.take_succ_cons]
      exact List.mem_cons_self
    have assigned := (shardForTicker_eq_some_iff (Nat.one_le_of_lt shard.inside)).mpr ⟨member, rfl⟩
    have stored := shards ticker
    rw [assigned, Dict.get?, empty] at stored
    cases stored
  -- The listing keeps for this runner exactly the profiles of its shard.
  have kept : (selection.ofShardRunner index).roster (listing.results.foldl addListed .empty)
      profiles = shardRoster selection (loadSimulatedTickers settings daily) shard.count index
        profiles := by
    show selection.limit ((profiles.filter selection.takes).filter _) = _
    rw [List.filter_filter, shardRoster, shardCandidates]
    refine congrArg selection.limit (List.filter_congr fun profile _ => ?_)
    rw [ProfileSelection.keeps, shards]
    cases shardForTicker (loadSimulatedTickers settings daily) profile.symbol shard.count <;>
      simp [ProfileSelection.ofShardRunner, Bool.and_comm]
  have outcome := @buildParticipants_iff G source python.prints stamps tickIntervalMs
    (selection.ofShardRunner index) profiles (listing.results.foldl addListed .empty) each positive
    fun _ => known
  rw [kept] at outcome
  have listedProfiles := @fetchTraderProfiles_transport stamps profiles python
    (fun profile member => (each profile member).fits) sends (by omega)
  -- Both lists are fetched, so that only building the traders may fail.
  have steps : loadParticipants source python (selection.ofShardRunner index) tickIntervalMs
      (listing.transport dated details) (profilesTransport stamps profiles) =
        (buildParticipants source python.prints (selection.ofShardRunner index)
          (listing.results.foldl addListed .empty) tickIntervalMs
          (profiles.map (TraderProfile.payload stamps))).mapError .profiles := by
    show (do
      let symbolShards ← (BackendApiClient.fetchMatcherShards python _).mapError StartException.client
      let profiles ← (BackendApiClient.fetchTraderProfiles python _).mapError StartException.client
      (buildParticipants source python.prints _ symbolShards tickIntervalMs profiles).mapError
        StartException.profiles) = _
    rw [fetched, listedProfiles]
    rfl
  simp only [steps, Outcome.mapError_eq_ok_iff]
  exact outcome

/-- A trader intends orders for its own symbol alone, whatever it is called with. -/
theorem intents_symbol (sound : source.Sound) {profile : TraderProfile}
    {participant : TradingParticipant G}
    (runs : profile.RunsAs source tickIntervalMs participant) (calls : List TraderCall)
    (priced : ∀ call ∈ calls, call.Priced) :
    ∀ intents ∈ (Machine.runTotal (TradingParticipant.call source) participant calls).2,
      ∀ intent ∈ intents, intent.symbol = profile.symbol := by
  obtain ⟨settings, configures, built⟩ := runs
  -- What is built follows a base trader with the settings.
  have follows : ∃ base : BaseTrader, base.settings = settings ∧ Follows base participant := by
    unfold buildTrader at built
    obtain ⟨base, created, rest⟩ := Outcome.bind_eq_ok built
    have same : base.settings = settings := by
      unfold BaseTrader.create at created
      split at created
      · cases created
      · cases created
        rfl
    obtain ⟨other, made, follows⟩ := buildTrader_follows source created same
    have once : Except.ok (ε := ValueError) participant = .ok other := by
      rw [← made, ← built]
      rfl
    exact ⟨base, same, Except.ok.inj once ▸ follows⟩
  obtain ⟨base, same, follows⟩ := follows
  -- Every call keeps the base, and its intents are those of the base's symbol.
  have conform := Machine.runTotal_related (Follows base) TraderCall.Priced (Conforms base)
    (call_conforms sound) calls participant follows priced
  intro intents member intent inside
  obtain ⟨call, _, conforms⟩ := Outcome.exists_left conform member
  rw [(conforms.sound intent inside).symbol_eq, same, configures.symbol]

variable (source python tickIntervalMs settings selection)

/--
One runner for each shard runs the selected profiles of the universe, none of them twice.

A runner starts exactly when every selected identifier is found and the profiles that it takes have
ranges of quantities, and then runs those profiles in their order, with orders only for symbols that
the matcher of its shard owns. Without a limit every selected profile of the universe is taken; with
one, each runner takes the first of its shard.
-/
theorem fleet_partitions (collates : String → String → Bool) (turns : List ProfileTurn)
    (codes : ∀ turn ∈ turns, ProfileTurn.Asks ProfileCall.ReadsCodes turn)
    (found : daily.latestTradeDate = some latest) (shard : Shard) (sound : source.Sound)
    (positive : 1 ≤ tickIntervalMs)
    (asks : python.refusesUrl BackendApiClient.symbolsPath = false)
    (sends : python.refusesUrl BackendApiClient.tradersPath = false) (deep : 3 ≤ python.nesting) :
    let table := (Machine.runTotal (Shared.step (profileService collates)) ProfileSystem.new turns).1.store
    let profiles := table.all collates
    let tickers := loadSimulatedTickers settings daily
    let listing := symbolList daily (settings.matcher shard tickers) 100
    let roster := fun index => shardRoster selection tickers shard.count index profiles
    let started := fun index : Nat => loadParticipants source python
      (selection.ofShardRunner index) tickIntervalMs (listing.transport dated details)
      (profilesTransport stamps profiles)
    (∀ index : Nat, ((∃ built, started index = .ok built) ↔
        selection.Finds profiles ∧ ∀ profile ∈ roster index, profile.HasRange) ∧
      ∀ built, started index = .ok built →
        List.Forall₂ (TraderProfile.RunsAs source tickIntervalMs) (roster index) built ∧
        ∀ inside : index < shard.count, ∀ participant ∈ built, ∀ calls : List TraderCall,
          (∀ call ∈ calls, call.Priced) →
            ∀ intents ∈ (Machine.runTotal (TradingParticipant.call source) participant calls).2,
              ∀ intent ∈ intents, (settings.matcher ⟨index, shard.count, inside⟩
                tickers).owned.isOwnedSymbol intent.symbol = true) ∧
    ((∀ turn ∈ turns, ProfileTurn.Asks ProfileCall.BoundsQuantity turn) →
      ∀ profile ∈ profiles, profile.HasRange) ∧
    (∀ profile ∈ profiles, selection.takes profile = true → profile.symbol ∈ tickers →
      ∃ index < shard.count, (selection.maxTraders = none → profile ∈ roster index) ∧
        ∀ other, profile ∈ roster other → other = index) ∧
    ∀ profile, profile.symbol ∉ tickers → ∀ index, profile ∉ roster index := by
  intro table profiles tickers listing roster started
  obtain ⟨upheld, _⟩ := profiles_upheld collates turns codes
    (∀ turn ∈ turns, ProfileTurn.Asks ProfileCall.BoundsQuantity turn) id
  have each : ∀ profile ∈ profiles, profile.Meets
      (∀ turn ∈ turns, ProfileTurn.Asks ProfileCall.BoundsQuantity turn) :=
    fun profile member => upheld.store.each profile (List.mem_mergeSort.mp member)
  -- The roster of a runner holds the symbols of its own shard.
  have assigned {profile : TraderProfile} {index : Nat} (member : profile ∈ roster index) :
      shardForTicker tickers profile.symbol shard.count = some index :=
    (of_decide_eq_true (List.mem_filter.mp (shardRoster_subset profile member)).2).2
  have counted : 1 ≤ shard.count := Nat.one_le_of_lt shard.inside
  refine ⟨fun index => ?_, fun bounds profile member => (each profile member).2 bounds,
    fun profile member taken listed => ?_, ?_⟩
  · obtain ⟨starts, runs⟩ := @loadParticipants_sharded python details dated daily latest settings G
      source stamps tickIntervalMs profiles selection found shard
      (fun profile member => (each profile member).1) positive asks sends deep index
    refine ⟨starts, fun built made => ⟨runs built made, ?_⟩⟩
    intro inside participant member calls priced intents given intent intended
    -- The trader has the symbol of its profile, which is assigned to this shard.
    obtain ⟨profile, rostered, ran⟩ := Outcome.exists_left (runs built made) member
    have symbol := intents_symbol sound ran calls priced intents given intent intended
    obtain ⟨owned, slice⟩ : ∃ owned, ownedTickers tickers index shard.count = .ok owned :=
      ownedTickers_ok inside
    have inOwned := (owned_iff_shardForTicker
      (universe_loadSimulatedTickers settings daily).distinct slice).mpr (assigned rostered)
    have slices : (settings.matcher ⟨index, shard.count, inside⟩ tickers).owned.tickers = owned := by
      simp only [MatcherSettings.owned, SimulationSettings.matcher, slice]
    rw [symbol, Ownership.isOwnedSymbol, slices]
    exact decide_eq_true inOwned
  · have here : shardForTicker tickers profile.symbol shard.count =
        some (tickers.idxOf profile.symbol % shard.count) :=
      (shardForTicker_eq_some_iff counted).mpr ⟨listed, rfl⟩
    -- A listed symbol is assigned to one shard, and to no other one.
    refine ⟨_, shardForTicker_lt here, fun unlimited => ?_, fun other also => ?_⟩
    · show profile ∈ selection.limit _
      rw [ProfileSelection.limit, unlimited]
      exact List.mem_filter.mpr ⟨member, decide_eq_true ⟨taken, here⟩⟩
    · exact Option.some.inj ((assigned also).symm.trans here)
  · intro profile outside index member
    -- An unlisted symbol is assigned to no shard.
    have unassigned := assigned member
    rw [shardForTicker_eq_none outside] at unassigned
    cases unassigned

/-- A day on which two tickers are ranked. -/
def rankedDay : MarketDaily where
  records := [⟨"000660", 1, 2⟩, ⟨fallbackSymbol, 1, 1⟩]
  unique := by decide
  codes := by decide

/-- Processes that simulate the ten tickers of the highest ranks. -/
def tenTickers : SimulationSettings where
  symbolLimit := 10
  maxAgeSeconds := 1
  mode := .alwaysOpen
  symbolLimit_pos := by decide
  symbolLimit_le := by decide
  maxAge_nonneg := by decide

/-- The entry of a ticker about which nothing else is known. -/
def plainDetails : SymbolDetails where
  name := ""
  market := "KOSPI"
  closePrice := 0
  volume := 0
  tradingValue := 0
  tradingValueRank := 1
  fits := by decide

/-- Runners that take one trader each. -/
def oneEach : ProfileSelection := ⟨[], [], some 1, none⟩

/-- Two shards share two created profiles. -/
theorem fleet_partitions_named :
    let table := (Machine.runTotal (Shared.step (profileService fun _ _ => true)) ProfileSystem.new
      twoCreations).1.store
    let profiles := table.all fun _ _ => true
    let tickers := loadSimulatedTickers tenTickers rankedDay
    let listing := symbolList rankedDay (tenTickers.matcher ⟨0, 2, by decide⟩ tickers) 100
    let roster := fun index => shardRoster oneEach tickers 2 index profiles
    let started := fun index : Nat => loadParticipants .least openClient
      (oneEach.ofShardRunner index) 1000 (listing.transport (fun _ => "") fun _ => plainDetails)
      (profilesTransport (fun _ => ("", "")) profiles)
    (∀ index : Nat, ((∃ built, started index = .ok built) ↔
        oneEach.Finds profiles ∧ ∀ profile ∈ roster index, profile.HasRange) ∧
      ∀ built, started index = .ok built →
        List.Forall₂ (TraderProfile.RunsAs .least 1000) (roster index) built ∧
        ∀ inside : index < 2, ∀ participant ∈ built, ∀ calls : List TraderCall,
          (∀ call ∈ calls, call.Priced) →
            ∀ intents ∈ (Machine.runTotal (TradingParticipant.call .least) participant calls).2,
              ∀ intent ∈ intents, (tenTickers.matcher ⟨index, 2, inside⟩
                tickers).owned.isOwnedSymbol intent.symbol = true) ∧
    ((∀ turn ∈ twoCreations, ProfileTurn.Asks ProfileCall.BoundsQuantity turn) →
      ∀ profile ∈ profiles, profile.HasRange) ∧
    (∀ profile ∈ profiles, oneEach.takes profile = true → profile.symbol ∈ tickers →
      ∃ index < 2, (oneEach.maxTraders = none → profile ∈ roster index) ∧
        ∀ other, profile ∈ roster other → other = index) ∧
    ∀ profile, profile.symbol ∉ tickers → ∀ index, profile ∉ roster index :=
  fleet_partitions openClient tenTickers .least 1000 oneEach (fun _ _ => true) twoCreations
    twoCreations_asks (show rankedDay.latestTradeDate = some 1 by decide) ⟨0, 2, by decide⟩
    least_sound (by decide) rfl rfl (by decide)

end Sharded

end StockMarket
