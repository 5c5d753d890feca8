import StockMarket.Deployment.ShardPartition
import StockMarket.Deployment.WireAnswers
import StockMarket.Participants.TraderLaws
import StockMarket.Profiles.StoreLaws
import StockMarket.Runner.Profiles

/-! Which stored profiles a runner takes, and when it can start with them. -/

namespace StockMarket

/-- Settings that have the fields of a profile. -/
structure TraderProfile.Configures (profile : TraderProfile) (settings : TraderSettings) :
    Prop where
  userId : settings.userId = profile.userId
  symbol : settings.symbol = profile.symbol
  strategy : settings.strategy = profile.strategy
  referencePrice : settings.referencePrice = profile.referencePrice
  priceStep : settings.priceStep = profile.priceStep
  maxOffsetSteps : settings.maxOffsetSteps = profile.maxOffsetSteps
  quantityMin : settings.quantityMin = profile.quantityMin
  quantityMax : settings.quantityMax = profile.quantityMax
  orderTtlSeconds : settings.orderTtlSeconds = profile.orderTtlSeconds
  intervalSeconds : settings.intervalSeconds = profile.intervalSeconds
  seed : settings.seed = profile.seed

/-- The trader that is built from the settings of a profile. -/
def TraderProfile.RunsAs {G : Type} (source : RandomSource G) (tickIntervalMs : Int)
    (profile : TraderProfile) (built : TradingParticipant G) : Prop :=
  ∃ settings, profile.Configures settings ∧ buildTrader source settings tickIntervalMs = .ok built

section Settings

variable {profile : TraderProfile} {prints : Json → CodePoints} {stamps : UUID → String × String}

/-- The strategies are supported under the texts that they are stored as. -/
theorem supportedStrategies_value (strategy : Strategy) :
    supportedStrategies.find? (fun supported => supported.1 = strategy.value) =
      some (strategy.value, strategy) := by
  cases strategy <;> decide

/-- Settings can be made of a sound profile exactly when its quantities are a range. -/
theorem create_of_sound (sound : profile.Sound) :
    (profile.HasRange → ∃ settings, TraderSettings.create profile.userId profile.symbol
        profile.strategy.value profile.referencePrice profile.priceStep profile.maxOffsetSteps
        profile.quantityMin profile.quantityMax profile.orderTtlSeconds profile.intervalSeconds
        profile.seed = .ok settings ∧ profile.Configures settings) ∧
      (¬ profile.HasRange → ∃ error, TraderSettings.create profile.userId profile.symbol
        profile.strategy.value profile.referencePrice profile.priceStep profile.maxOffsetSteps
        profile.quantityMin profile.quantityMax profile.orderTtlSeconds profile.intervalSeconds
        profile.seed = .error error) := by
  have symbol_present : isBlank profile.symbol = false := by
    obtain ⟨same, solid⟩ := strip_of_isShortCode sound.symbol_code
    rw [isBlank, same]
    exact decide_eq_false solid
  have offset : 0 ≤ profile.maxOffsetSteps := by
    obtain ⟨_, _, _, _, _, offset, _⟩ := TraderProfile.fits_iff.mp sound.fits
    exact offset.1
  -- All checks but the one on the range are passed.
  constructor
  · intro range
    have range : profile.quantityMin ≤ profile.quantityMax := range
    simp only [TraderSettings.create, supportedStrategies_value, dif_pos sound.userId_present,
      dif_pos symbol_present, dif_pos sound.referencePrice_pos, dif_pos sound.priceStep_pos,
      dif_pos offset, dif_pos sound.quantityMin_pos, dif_pos range,
      dif_pos sound.orderTtlSeconds_pos, dif_pos sound.intervalSeconds_pos]
    exact ⟨_, rfl, ⟨rfl, rfl, rfl, rfl, rfl, rfl, rfl, rfl, rfl, rfl, rfl⟩⟩
  · intro lacking
    have lacking : ¬ profile.quantityMin ≤ profile.quantityMax := lacking
    simp only [TraderSettings.create, supportedStrategies_value, dif_pos sound.userId_present,
      dif_pos symbol_present, dif_pos sound.referencePrice_pos, dif_pos sound.priceStep_pos,
      dif_pos offset, dif_pos sound.quantityMin_pos, dif_neg lacking]
    exact ⟨_, rfl⟩

/-- A string is printed as it is. -/
theorem printedString_string (text : String) : printedString prints (.string text) = text := by
  simp [printedString, Json.string, Json.printed]

/-- A field of a payload is read under its name. -/
theorem profileField_record {fields : List (String × Json)} {name : String} {value : Json}
    (found : (fields.find? fun field => field.1 = name).map Prod.snd = some value) :
    profileField (.record fields) name = .ok value := by
  rw [Json.record, profileField, field?_record, found]
  rfl

open BackendApiClient in
/-- The settings in the answer about a profile are made of its own fields. -/
theorem traderSettings_payload (profile : TraderProfile) :
    traderSettings prints (profile.payload stamps) =
      (TraderSettings.create profile.userId profile.symbol profile.strategy.value
        profile.referencePrice profile.priceStep profile.maxOffsetSteps profile.quantityMin
        profile.quantityMax profile.orderTtlSeconds profile.intervalSeconds
        profile.seed).mapError fun _ => .valueError := by
  -- A text is printed as itself, and a whole number is read as itself.
  have text {name value : String} (found : subscript (profile.payload stamps) name =
      .ok (.string value)) : (do
        return printedString prints (← subscript (profile.payload stamps) name) :
          Except ClientException String) = .ok value := by
    rw [found]
    exact congrArg Except.ok (printedString_string value)
  have number {name : String} {value : Int} (found : subscript (profile.payload stamps) name =
      .ok (.integer value)) : (do
        toInt (← subscript (profile.payload stamps) name) : Except ClientException Int) =
          .ok value := by
    rw [found]
    rfl
  unfold traderSettings
  simp only
  rw [text (subscript_record rfl), text (subscript_record rfl), text (subscript_record rfl),
    number (subscript_record rfl), number (subscript_record rfl), number (subscript_record rfl),
    number (subscript_record rfl), number (subscript_record rfl), number (subscript_record rfl),
    number (subscript_record rfl), number (subscript_record rfl)]
  rfl

end Settings

section Participants

variable {G : Type} {source : RandomSource G} {prints : Json → CodePoints}
  {stamps : UUID → String × String} {tickIntervalMs : Int} {profile : TraderProfile}

variable (source)

/-- Every trader can be built when the runner has a positive tick. -/
theorem buildTrader_ok (settings : TraderSettings) (positive : 1 ≤ tickIntervalMs) :
    ∃ built, buildTrader source settings tickIntervalMs = .ok built := by
  -- The interval of the settings is positive, so that its ticks can be counted.
  have created : ∃ base, BaseTrader.create settings tickIntervalMs = .ok base := by
    obtain ⟨ticks, counted, _⟩ := ticksForInterval_spec settings.intervalSeconds_pos positive
    unfold BaseTrader.create
    split
    · rename_i raised
      cases counted.symm.trans raised
    · exact ⟨_, rfl⟩
  obtain ⟨base, created⟩ := created
  unfold buildTrader
  rw [created]
  cases settings.strategy <;> exact ⟨_, rfl⟩

variable (prints stamps)

/-- The trader of a sound profile is built when its quantities are a range. -/
theorem participant_payload (sound : profile.Sound) (range : profile.HasRange)
    (positive : 1 ≤ tickIntervalMs) : ∃ built,
      participant source prints tickIntervalMs (profile.payload stamps) = .ok built ∧
        profile.RunsAs source tickIntervalMs built := by
  -- The settings are read back from the answer, and the trader is built from them.
  obtain ⟨settings, created, configures⟩ := (create_of_sound sound).1 range
  obtain ⟨built, done⟩ := buildTrader_ok source settings positive
  refine ⟨built, ?_, settings, configures, done⟩
  rw [participant, traderSettings_payload, created]
  show (buildTrader source settings tickIntervalMs).mapError _ = _
  rw [done]
  rfl

/-- A sound profile without a range of quantities is an error of values. -/
theorem participant_refused (sound : profile.Sound) (none : ¬ profile.HasRange) :
    participant source prints tickIntervalMs (profile.payload stamps) = .error .valueError := by
  obtain ⟨error, refused⟩ := (create_of_sound sound).2 none
  rw [participant, traderSettings_payload, refused]
  rfl

/-- Traders are built in the order of their profiles, if each of them has a range of quantities. -/
theorem participants_payload (profiles : List TraderProfile)
    (sound : ∀ profile ∈ profiles, profile.Sound) (positive : 1 ≤ tickIntervalMs) :
    ((∀ profile ∈ profiles, profile.HasRange) → ∃ built,
        (profiles.map (TraderProfile.payload stamps)).mapM
          (participant source prints tickIntervalMs) = .ok built ∧
            List.Forall₂ (TraderProfile.RunsAs source tickIntervalMs) profiles built) ∧
      (¬ (∀ profile ∈ profiles, profile.HasRange) →
        (profiles.map (TraderProfile.payload stamps)).mapM
          (participant source prints tickIntervalMs) = .error .valueError) := by
  induction profiles with
  | nil =>
    refine ⟨fun _ => ⟨[], rfl, .nil⟩, fun none => absurd (fun profile member => ?_) none⟩
    exact absurd member List.not_mem_nil
  | cons profile profiles ih =>
    have rest := ih fun other member => sound other (List.mem_cons_of_mem _ member)
    have first := sound profile List.mem_cons_self
    rw [List.map_cons, List.mapM_cons]
    constructor
    · -- With all ranges every participant is built, in the order of the profiles.
      intro ranges
      obtain ⟨built, made, runs⟩ := participant_payload source prints stamps first
        (ranges profile List.mem_cons_self) positive
      obtain ⟨others, later, alike⟩ :=
        rest.1 fun other member => ranges other (List.mem_cons_of_mem _ member)
      exact ⟨built :: others, by rw [made, later]; rfl, .cons runs alike⟩
    · intro none
      by_cases range : profile.HasRange
      · -- The error is that of a later profile.
        obtain ⟨built, made, _⟩ := participant_payload source prints stamps first range
          positive
        have later := rest.2 fun ranges => none (List.forall_mem_cons.mpr ⟨range, ranges⟩)
        rw [made, later]
        rfl
      · rw [participant_refused source prints stamps first range]
        rfl

end Participants

namespace ProfileSelection

variable {prints : Json → CodePoints} {stamps : UUID → String × String}
  (selection : ProfileSelection)

/-- A stored profile is enabled, and its identifier and its strategy are selected. -/
def takes (profile : TraderProfile) : Bool :=
  profile.enabled ∧
    (selection.traderIds = [] ∨ String.ofList (uuidText profile.id) ∈ selection.traderIds) ∧
    (selection.traderStrategies = [] ∨ profile.strategy.value ∈ selection.traderStrategies)

/-- A stored profile is of the shard of the runner, if the runner has one. -/
def keeps (symbolShards : Dict CodePoints Int) (profile : TraderProfile) : Bool :=
  selection.runnerShardIndex.all fun index =>
    symbolShards.get? (codePoints profile.symbol) = some index

/-- The stored profiles that a runner takes, in their order. -/
def roster (symbolShards : Dict CodePoints Int) (profiles : List TraderProfile) :
    List TraderProfile :=
  selection.limit ((profiles.filter selection.takes).filter (selection.keeps symbolShards))

/-- Every selected identifier is that of a profile that is taken. -/
def Finds (profiles : List TraderProfile) : Prop :=
  ∀ traderId ∈ selection.traderIds, ∃ profile ∈ profiles, selection.takes profile = true ∧
    String.ofList (uuidText profile.id) = traderId

variable {selection}

/-- A string is among others exactly when its characters are among theirs. -/
theorem contains_codePoints {text : String} {texts : List String} :
    (texts.map codePoints).contains (codePoints text) = decide (text ∈ texts) := by
  rw [Bool.eq_iff_iff, List.contains_iff_mem, decide_eq_true_iff,
    List.mem_map_of_injective codePoints_injective]

/-- The answer about a profile is selected when the profile is taken. -/
theorem selects_payload (profile : TraderProfile) :
    selection.selects prints (profile.payload stamps) = .ok (selection.takes profile) := by
  have enabled : profileField (profile.payload stamps) "enabled" = .ok (.bool profile.enabled) :=
    profileField_record rfl
  have id : profileField (profile.payload stamps) "id" = .ok (uuidJson profile.id) :=
    profileField_record rfl
  have strategy : profileField (profile.payload stamps) "strategy" =
    .ok (.string profile.strategy.value) := profileField_record rfl
  -- The identifier is printed as the text that the store writes.
  have printed : (uuidJson profile.id).printed prints =
    codePoints (String.ofList (uuidText profile.id)) := rfl
  rw [selects, enabled]
  simp only [Bind.bind, Except.bind, Json.truthy, id, strategy, printed, contains_codePoints, takes]
  -- A profile that is disabled is not looked at any further.
  cases profile.enabled with
  | false => simp [Pure.pure, Except.pure]
  | true =>
    by_cases anyId : selection.traderIds = []
    · by_cases anyStrategy : selection.traderStrategies = []
      · simp [anyId, anyStrategy, Pure.pure, Except.pure]
      · simp [anyId, anyStrategy, strategyIn, Json.string, codePoints_injective.eq_iff]
    · by_cases named : String.ofList (uuidText profile.id) ∈ selection.traderIds
      · by_cases anyStrategy : selection.traderStrategies = []
        · simp [anyId, named, anyStrategy, Pure.pure, Except.pure]
        · simp [anyId, named, anyStrategy, strategyIn, Json.string, codePoints_injective.eq_iff]
      · simp [anyId, named, Pure.pure, Except.pure]

/-- The answers that are selected are those about the profiles that are taken. -/
theorem selected_payloads (profiles : List TraderProfile) :
    selection.selected prints (profiles.map (TraderProfile.payload stamps)) =
      .ok ((profiles.filter selection.takes).map (TraderProfile.payload stamps)) := by
  -- The induction is on the profiles, each of which is told by its own answer.
  induction profiles with
  | nil => rfl
  | cons profile profiles ih =>
    rw [List.map_cons, selected, selects_payload, ih, List.filter_cons]
    cases selection.takes profile <;> rfl

/-- The answers of a shard are those about the profiles whose symbols it has. -/
theorem ofShard_payloads (symbolShards : Dict CodePoints Int) (index : Int)
    (profiles : List TraderProfile) :
    ofShard prints symbolShards index (profiles.map (TraderProfile.payload stamps)) =
      .ok ((profiles.filter fun profile =>
        symbolShards.get? (codePoints profile.symbol) = some index).map
          (TraderProfile.payload stamps)) := by
  induction profiles with
  | nil => rfl
  | cons profile profiles ih =>
    -- The symbol of the payload is looked up in the shards that were read.
    have symbol : shardOf prints symbolShards (profile.payload stamps) =
        .ok (symbolShards.get? (codePoints profile.symbol)) := by
      have field : profileField (profile.payload stamps) "symbol" = .ok (.string profile.symbol) :=
        profileField_record rfl
      rw [shardOf, field]
      rfl
    rw [List.map_cons, ofShard, symbol, ih, List.filter_cons]
    by_cases here : symbolShards.get? (codePoints profile.symbol) = some index
    · simp [here, Bind.bind, Except.bind, Pure.pure, Except.pure]
    · simp [here, Bind.bind, Except.bind]

/-- The shard of a runner is kept, once there are shards at all. -/
theorem keepShard_payloads (symbolShards : Dict CodePoints Int) (profiles : List TraderProfile)
    (known : selection.runnerShardIndex.isSome = true → symbolShards.items ≠ []) :
    selection.keepShard prints symbolShards (profiles.map (TraderProfile.payload stamps)) =
      .ok ((profiles.filter (selection.keeps symbolShards)).map (TraderProfile.payload stamps)) := by
  -- Without a shard index the runner keeps them all.
  unfold keepShard keeps
  cases given : selection.runnerShardIndex with
  | none => simp
  | some index =>
    rw [given] at known
    simp only [if_neg (known rfl), ofShard_payloads, Option.all_some]

/-- The identifiers of answers about profiles. -/
theorem ids_payloads (profiles : List TraderProfile) :
    (profiles.map (TraderProfile.payload stamps)).mapM (fun profile => (do
      return (← profileField profile "id").printed prints :
        Except ProfilesException CodePoints)) =
      .ok (profiles.map fun profile => codePoints (String.ofList (uuidText profile.id))) := by
  -- The induction is on the profiles, and every answer gives the identifier.
  induction profiles with
  | nil => rfl
  | cons profile profiles ih =>
    have id : profileField (profile.payload stamps) "id" = .ok (uuidJson profile.id) :=
      profileField_record rfl
    rw [List.map_cons, List.mapM_cons, ih, id]
    rfl

/-- The runner goes on exactly when every selected identifier is that of a profile it takes. -/
theorem requireFound_payloads (profiles : List TraderProfile) :
    (selection.Finds profiles → selection.requireFound prints
        ((profiles.filter selection.takes).map (TraderProfile.payload stamps)) = .ok ()) ∧
      (¬ selection.Finds profiles → selection.requireFound prints
        ((profiles.filter selection.takes).map (TraderProfile.payload stamps)) =
          .error (.invalidTraderProfileError "each selected trader must exist and be enabled")) := by
  unfold requireFound
  by_cases anyId : selection.traderIds = []
  · refine ⟨fun _ => if_pos anyId, fun none => absurd (fun traderId member => ?_) none⟩
    rw [anyId] at member
    exact absurd member List.not_mem_nil
  · simp only [if_neg anyId]
    rw [ids_payloads]
    simp only [Bind.bind, Except.bind]
    -- A profile is only taken under an identifier that is selected.
    have inside : ((profiles.filter selection.takes).map fun profile =>
        codePoints (String.ofList (uuidText profile.id))).all
          (fun id => (selection.traderIds.map codePoints).contains id) = true := by
      simp only [List.all_eq_true, List.forall_mem_map, contains_codePoints, decide_eq_true_eq]
      intro profile member
      have taken := of_decide_eq_true (List.mem_filter.mp member).2
      exact taken.2.1.resolve_left anyId
    have found : selection.traderIds.all (fun traderId => ((profiles.filter selection.takes).map
        fun profile => codePoints (String.ofList (uuidText profile.id))).contains
          (codePoints traderId)) = true ↔ selection.Finds profiles := by
      simp only [List.all_eq_true, List.contains_iff_mem, Finds, List.mem_map, List.mem_filter,
        codePoints_injective.eq_iff, and_assoc]
    rw [inside, Bool.and_true]
    exact ⟨fun finds => if_pos (found.mpr finds), fun none => if_neg (none ∘ found.mp)⟩

end ProfileSelection

section Load

variable {G : Type} {source : RandomSource G} {prints : Json → CodePoints}
  {stamps : UUID → String × String} {tickIntervalMs : Int} {selection : ProfileSelection}
  {profiles : List TraderProfile} {symbolShards : Dict CodePoints Int}

/-- A runner only takes profiles that there are. -/
theorem ProfileSelection.roster_subset :
    ∀ profile ∈ selection.roster symbolShards profiles, profile ∈ profiles := by
  intro profile member
  -- The limit only cuts the list off.
  have kept : profile ∈ (profiles.filter selection.takes).filter (selection.keeps symbolShards) := by
    unfold ProfileSelection.roster ProfileSelection.limit at member
    split at member
    · exact member
    · exact List.mem_of_mem_take member
  exact List.mem_of_mem_filter (List.mem_of_mem_filter kept)

/-- What a runner takes is what its limit leaves of the profiles that it keeps. -/
theorem limit_payloads (kept : List TraderProfile) :
    selection.limit (kept.map (TraderProfile.payload stamps)) =
      (selection.limit kept).map (TraderProfile.payload stamps) := by
  unfold ProfileSelection.limit
  cases selection.maxTraders with
  | none => rfl
  | some most => exact List.map_take.symm

/-- Traders are built for the profiles that a runner takes, or for none of them. -/
theorem buildParticipants_payloads (sound : ∀ profile ∈ profiles, profile.Sound)
    (positive : 1 ≤ tickIntervalMs) (finds : selection.Finds profiles)
    (known : selection.runnerShardIndex.isSome = true → symbolShards.items ≠ []) :
    ((∀ profile ∈ selection.roster symbolShards profiles, profile.HasRange) → ∃ built,
        buildParticipants source prints selection symbolShards tickIntervalMs
          (profiles.map (TraderProfile.payload stamps)) = .ok built ∧
            List.Forall₂ (TraderProfile.RunsAs source tickIntervalMs)
              (selection.roster symbolShards profiles) built) ∧
      (¬ (∀ profile ∈ selection.roster symbolShards profiles, profile.HasRange) →
        buildParticipants source prints selection symbolShards tickIntervalMs
          (profiles.map (TraderProfile.payload stamps)) =
            .error (.invalidTraderProfileError "trader profile has invalid settings")) := by
  have each := participants_payload source prints stamps
    (selection.roster symbolShards profiles)
    (fun profile member => sound profile (ProfileSelection.roster_subset profile member)) positive
  have kept := @ProfileSelection.keepShard_payloads prints stamps selection symbolShards
    (profiles.filter selection.takes) known
  -- Selection and shards leave the roster, whose participants are then built.
  have steps : buildParticipants source prints selection symbolShards tickIntervalMs
      (profiles.map (TraderProfile.payload stamps)) =
        (((selection.roster symbolShards profiles).map (TraderProfile.payload stamps)).mapM
          (participant source prints tickIntervalMs)).mapError .ofProfile := by
    rw [buildParticipants, ProfileSelection.selected_payloads, Outcome.bind_ok rfl,
      (ProfileSelection.requireFound_payloads profiles).1 finds, Outcome.bind_ok rfl, kept,
      Outcome.bind_ok rfl, limit_payloads]
    rfl
  rw [steps]
  -- The roster is built as a whole, or the first failure ends it.
  constructor
  · intro ranges
    obtain ⟨built, made, runs⟩ := each.1 ranges
    rw [made]
    exact ⟨built, rfl, runs⟩
  · intro none
    rw [each.2 none]
    rfl

/-- Traders are built exactly when all selected profiles are found, and those taken have ranges. -/
theorem buildParticipants_iff (sound : ∀ profile ∈ profiles, profile.Sound)
    (positive : 1 ≤ tickIntervalMs)
    (known : selection.runnerShardIndex.isSome = true → symbolShards.items ≠ []) :
    ((∃ built, buildParticipants source prints selection symbolShards tickIntervalMs
        (profiles.map (TraderProfile.payload stamps)) = .ok built) ↔
      selection.Finds profiles ∧
        ∀ profile ∈ selection.roster symbolShards profiles, profile.HasRange) ∧
      ∀ built, buildParticipants source prints selection symbolShards tickIntervalMs
          (profiles.map (TraderProfile.payload stamps)) = .ok built →
        List.Forall₂ (TraderProfile.RunsAs source tickIntervalMs)
          (selection.roster symbolShards profiles) built := by
  by_cases finds : selection.Finds profiles
  · obtain ⟨builds, refuses⟩ := @buildParticipants_payloads G source prints stamps tickIntervalMs
      selection profiles symbolShards sound positive finds known
    -- It then depends on the ranges of the roster.
    by_cases ranges : ∀ profile ∈ selection.roster symbolShards profiles, profile.HasRange
    · obtain ⟨built, made, runs⟩ := builds ranges
      rw [made]
      refine ⟨⟨fun _ => ⟨finds, ranges⟩, fun _ => ⟨built, rfl⟩⟩, ?_⟩
      rintro _ ⟨⟩
      exact runs
    · rw [refuses ranges]
      exact ⟨iff_of_false nofun fun both => ranges both.2, nofun⟩
  · -- Nothing is built when a selected profile is missing.
    have refused := (@ProfileSelection.requireFound_payloads prints stamps selection profiles).2 finds
    rw [buildParticipants, ProfileSelection.selected_payloads, Outcome.bind_ok rfl,
      Outcome.bind_error refused]
    exact ⟨iff_of_false nofun fun both => finds both.1, nofun⟩

/-- The numbers of a stored profile are short. -/
theorem short_of_bigInteger {value : Int} (low : -maxInteger - 1 ≤ value)
    (high : value ≤ maxBigInteger) : value.natAbs < 10 ^ maxIntegerDigits := by
  have fewer : 20 ≤ maxIntegerDigits := by decide
  -- A number of 64 bits has fewer digits than the limit.
  have powers : 10 ^ 20 ≤ 10 ^ maxIntegerDigits := Nat.pow_le_pow_right (by decide) fewer
  refine Nat.lt_of_lt_of_le ?_ powers
  unfold maxInteger at low
  unfold maxBigInteger at high
  omega

/-- The answer about a profile is read back. -/
theorem legible_payload {style : Json.Style} {profile : TraderProfile} (fits : profile.fits = true) :
    Json.Legible style 1 (profile.payload stamps) := by
  obtain ⟨_, _, _, referencePrice, priceStep, maxOffsetSteps, quantityMin, quantityMax,
    orderTtlSeconds, intervalSeconds, seed⟩ := TraderProfile.fits_iff.mp fits
  have wide : maxInteger ≤ maxBigInteger := by decide
  have negative : -maxInteger - 1 ≤ 0 := by decide
  -- Numbers within the bounds of the columns have few enough digits.
  have short {value most : Int} (range : 0 ≤ value ∧ value ≤ most) (below : most ≤ maxBigInteger) :
      value.natAbs < 10 ^ maxIntegerDigits :=
    short_of_bigInteger (negative.trans range.1) (range.2.trans below)
  refine .record (by simp) ?_
  simp only [List.forall_mem_cons]
  exact ⟨.string _, .string _, .string _, .string _, .bool _, .string _,
    .integer (short referencePrice le_rfl), .integer (short priceStep le_rfl),
    .integer (short maxOffsetSteps wide), .integer (short quantityMin wide),
    .integer (short quantityMax wide), .integer (short orderTtlSeconds wide),
    .integer (short intervalSeconds wide),
    .integer (short_of_bigInteger seed.1 (seed.2.trans wide)), .string _, .string _,
    fun _ member => absurd member List.not_mem_nil⟩

variable {python : BackendApiClient.Interpreter}

/-- The client reads the answers about all profiles. -/
theorem fetchTraderProfiles_transport (fits : ∀ profile ∈ profiles, profile.fits = true)
    (sends : python.refusesUrl BackendApiClient.tradersPath = false) (deep : 2 ≤ python.nesting) :
    BackendApiClient.fetchTraderProfiles python (profilesTransport stamps profiles) =
      .ok (profiles.map (TraderProfile.payload stamps)) := by
  have legible : Json.Legible Json.rendererStyle 2
      (.array (profiles.map (TraderProfile.payload stamps))) := by
    refine .array fun item member => ?_
    obtain ⟨profile, inside, rfl⟩ := List.mem_map.mp member
    exact legible_payload (fits profile inside)
  -- What the store renders is what the client reads.
  have asked : BackendApiClient.request python BackendApiClient.tradersPath
      (profilesTransport stamps profiles) =
        .ok (.array (profiles.map (TraderProfile.payload stamps))) :=
    BackendApiClient.request_written sends (by decide) (legible.deeper deep)
  rw [BackendApiClient.fetchTraderProfiles, asked]
  rfl

end Load

section Shards

variable {python : BackendApiClient.Interpreter} {details : String → SymbolDetails}
  {dated : Int → String}

/-- The shards after one more entry of a list of symbols. -/
def addListed (shards : Dict CodePoints Int) (item : ListedSymbol) : Dict CodePoints Int :=
  match item.simulationEnabled, item.matcherShard with
  | true, some shard => shards.set (codePoints item.ticker) shard
  | _, _ => shards

open BackendApiClient in
/-- The client adds the shard of an entry when the entry takes part and has one. -/
theorem addShard_payload (shards : Dict CodePoints Int) (item : ListedSymbol) :
    addShard python shards (item.payload details) = .ok (addListed shards item) := by
  have ticker : subscript (item.payload details) "ticker" = .ok (.string item.ticker) :=
    subscript_record rfl
  unfold ListedSymbol.payload Json.record at ticker ⊢
  unfold addShard
  simp only [field?_record, ticker, addListed]
  -- An entry counts if it is simulated and has a shard.
  cases item.simulationEnabled with
  | false => rfl
  | true => cases item.matcherShard <;> rfl

/-- The client reads the shards of a list, entry by entry. -/
theorem matcherShards_payload (listing : SymbolListing) :
    BackendApiClient.matcherShards python (listing.payload dated details) =
      .ok (listing.results.foldl addListed .empty) := by
  -- One entry after the other is added, and none of them fails.
  have folded : ∀ (items : List ListedSymbol) (shards : Dict CodePoints Int),
      (items.map (ListedSymbol.payload details)).foldlM (BackendApiClient.addShard python) shards =
        .ok (items.foldl addListed shards) := by
    intro items
    induction items with
    | nil => exact fun shards => rfl
    | cons item items ih =>
      intro shards
      rw [List.map_cons, List.foldlM_cons, addShard_payload, Outcome.bind_ok rfl, ih]
      rfl
  unfold SymbolListing.payload Json.record BackendApiClient.matcherShards
  simp only [field?_record]
  exact folded listing.results .empty

/-- An entry adds the shard of its own ticker. -/
theorem get?_addListed (shards : Dict CodePoints Int) (item : ListedSymbol) (ticker : String) :
    (addListed shards item).get? (codePoints ticker) =
      if item.ticker = ticker ∧ item.simulationEnabled = true ∧ item.matcherShard.isSome = true then
        item.matcherShard.map Int.ofNat
      else shards.get? (codePoints ticker) := by
  unfold addListed
  split
  · rename_i shard enabled given
    rw [Dict.get?_set, enabled, given]
    -- An entry that is simulated and assigned sets the shard of its own ticker.
    by_cases same : item.ticker = ticker
    · rw [same, if_pos rfl, if_pos ⟨rfl, rfl, rfl⟩]
      rfl
    · rw [if_neg fun alike => same (codePoints_injective alike).symm,
        if_neg fun found => same found.1]
  · rename_i other
    rw [if_neg]
    rintro ⟨_, enabled, given⟩
    obtain ⟨shard, given⟩ := Option.isSome_iff_exists.mp given
    exact other shard enabled given

/-- The shards of tickers that are listed once, each with its own entry. -/
theorem get?_foldl_addListed (ticker : String) (items : List ListedSymbol)
    (distinct : (items.map ListedSymbol.ticker).Nodup) : ∀ shards : Dict CodePoints Int,
      (items.foldl addListed shards).get? (codePoints ticker) =
        (items.find? fun item => item.ticker = ticker ∧ item.simulationEnabled = true ∧
          item.matcherShard.isSome = true).elim (shards.get? (codePoints ticker))
            fun item => item.matcherShard.map Int.ofNat := by
  induction items with
  | nil => exact fun shards => rfl
  | cons item items ih =>
    intro shards
    obtain ⟨once, later⟩ := List.nodup_cons.mp distinct
    rw [List.foldl_cons, ih later, List.find?_cons, get?_addListed]
    by_cases here : item.ticker = ticker ∧ item.simulationEnabled = true ∧
        item.matcherShard.isSome = true
    · -- No later entry is about the same ticker.
      have absent : (items.find? fun other => other.ticker = ticker ∧
          other.simulationEnabled = true ∧ other.matcherShard.isSome = true) = none := by
        refine List.find?_eq_none.mpr fun other member found => once ?_
        rw [here.1, ← (of_decide_eq_true found).1]
        exact List.mem_map_of_mem member
      rw [absent, if_pos here]
      simp only [decide_eq_true here, Option.elim_none, Option.elim_some]
    · rw [if_neg here]
      simp only [decide_eq_false here]

/-- The shards that a client reads from a matcher's list of symbols. -/
theorem get?_symbolList {daily : MarketDaily} {matcher : MatcherSettings} {latest : Int}
    (found : daily.latestTradeDate = some latest) (limit : Nat) (ticker : String) :
    ((symbolList daily matcher limit).results.foldl addListed .empty).get? (codePoints ticker) =
      if ticker ∈ (daily.ranked latest).take limit then
        (shardForTicker matcher.tickers ticker matcher.shardCount).map Int.ofNat
      else none := by
  have results : (symbolList daily matcher limit).results =
      ((daily.ranked latest).take limit).map fun ticker =>
        { ticker
          simulationEnabled := matcher.isSimulatedSymbol ticker
          matcherShard := shardForTicker matcher.tickers ticker matcher.shardCount } := by
    simp only [symbolList, found]
  -- A day ranks every ticker once.
  have distinct : ((symbolList daily matcher limit).results.map ListedSymbol.ticker).Nodup := by
    rw [results, List.map_map]
    exact (List.map_id _).symm ▸ (ranked_nodup daily latest).sublist (List.take_sublist _ _)
  rw [get?_foldl_addListed ticker _ distinct, results, List.find?_map]
  generalize (daily.ranked latest).take limit = listed
  -- The entry of the ticker is found when it is listed, simulated, and assigned to a shard.
  cases entry : listed.find? ((fun item : ListedSymbol => decide (item.ticker = ticker ∧
      item.simulationEnabled = true ∧ item.matcherShard.isSome = true)) ∘ fun ticker =>
        { ticker
          simulationEnabled := matcher.isSimulatedSymbol ticker
          matcherShard := shardForTicker matcher.tickers ticker matcher.shardCount }) with
  | some found =>
    have holds := List.find?_some entry
    have member := List.mem_of_find?_eq_some entry
    simp only [Function.comp_apply, decide_eq_true_eq] at holds
    obtain ⟨same, _⟩ := holds
    rw [same] at member
    simp only [Option.map_some, same, if_pos member, Option.elim_some]
  | none =>
    simp only [Option.map_none, Dict.get?_empty, Option.elim_none]
    split_ifs with member
    · have neither :=
        of_decide_eq_false (eq_false_of_ne_true (List.find?_eq_none.mp entry ticker member))
      simp only [true_and, not_and, MatcherSettings.isSimulatedSymbol, decide_eq_true_eq] at neither
      by_cases simulated : ticker ∈ matcher.tickers
      · rw [Option.not_isSome_iff_eq_none.mp (neither simulated)]
        rfl
      · rw [shardForTicker_eq_none simulated]
        rfl
    · rfl

end Shards

end StockMarket
