import StockMarket.Deployment.Universe
import StockMarket.Events.MarketEvents
import StockMarket.Library.Program
import StockMarket.Participants.Types

/-! The table of trader profiles: its requests as programs of database operations. -/

namespace StockMarket

/-- The text that a strategy is stored and sent as. -/
def Strategy.value : Strategy → String
  | .noise => "noise"
  | .momentum => "momentum"
  | .meanReversion => "mean_reversion"
  | .liquidityProvider => "liquidity_provider"
  | .eventReactive => "event_reactive"

/-- The stored configuration of one simulated trader. -/
structure TraderProfile where
  id : UUID
  name : String
  userId : String
  strategy : Strategy
  enabled : Bool
  symbol : String
  referencePrice : Int
  priceStep : Int
  maxOffsetSteps : Int
  quantityMin : Int
  quantityMax : Int
  orderTtlSeconds : Int
  intervalSeconds : Int
  seed : Int
  deriving DecidableEq

/-- The largest numbers of the two widths of integer columns. -/
def maxInteger : Int := 2147483647

/-- The greatest number of a `bigint` column. -/
def maxBigInteger : Int := 9223372036854775807

namespace TraderProfile

/-- A new profile before any of its fields is given. -/
def default (id : UUID) : TraderProfile where
  id := id
  name := ""
  userId := ""
  strategy := .noise
  enabled := true
  symbol := fallbackSymbol
  referencePrice := 70000
  priceStep := 100
  maxOffsetSteps := 5
  quantityMin := 1
  quantityMax := 10
  orderTtlSeconds := 16
  intervalSeconds := 1
  seed := 42

/-- Every field fits into its column; only the seed may be negative. -/
def fits (profile : TraderProfile) : Bool :=
  profile.name.length ≤ 100 ∧ profile.userId.length ≤ 128 ∧ profile.symbol.length ≤ 6 ∧
    (∀ amount ∈ [profile.referencePrice, profile.priceStep], 0 ≤ amount ∧ amount ≤ maxBigInteger) ∧
    (∀ amount ∈ [profile.maxOffsetSteps, profile.quantityMin, profile.quantityMax,
      profile.orderTtlSeconds, profile.intervalSeconds], 0 ≤ amount ∧ amount ≤ maxInteger) ∧
    -maxInteger - 1 ≤ profile.seed ∧ profile.seed ≤ maxInteger

end TraderProfile

/-- The rows by their identifiers. -/
abbrev ProfileTable := Dict UUID TraderProfile

/-- Queries and writes, each of which is atomic. -/
inductive ProfileOp where
  | nameTaken (name : String) (own : Option UUID)
  | userIdTaken (userId : String) (own : Option UUID)
  | get (id : UUID)
  | all
  | insert (profile : TraderProfile)
  | update (profile : TraderProfile)
  | delete (id : UUID)
  | updateOrCreate (profile : TraderProfile)

/--
What an operation replies.

An insertion replies whether it went through, and an update whether there was a row; no reply to an
update or to a row that is updated or created is an error of the database.
-/
def ProfileOp.Reply : ProfileOp → Type
  | .nameTaken _ _ => Bool
  | .userIdTaken _ _ => Bool
  | .get _ => Option TraderProfile
  | .all => List TraderProfile
  | .insert _ => Bool
  | .update _ => Option Bool
  | .delete _ => Unit
  | .updateOrCreate _ => Option Bool

namespace ProfileTable

/-- The rows, in the order of their insertion. -/
def rows (table : ProfileTable) : List TraderProfile := table.items.map Prod.snd

/-- A row can be stored when it fits, and no other row has its name or its user. -/
def accepts (table : ProfileTable) (profile : TraderProfile) : Bool :=
  profile.fits && table.rows.all fun other => other.id = profile.id ∨
    (other.name ≠ profile.name ∧ other.userId ≠ profile.userId)

/-- Insert a row, unless a unique column forbids it. -/
def insert (table : ProfileTable) (profile : TraderProfile) : ProfileTable × Bool :=
  match table.get? profile.id with
  | some _ => (table, false)
  | none =>
    if table.accepts profile then (table.set profile.id profile, true) else (table, false)

/-- An update writes the row as a whole, over one that must exist. -/
def update (table : ProfileTable) (profile : TraderProfile) : ProfileTable × Option Bool :=
  match table.get? profile.id with
  -- Without a row nothing is written.
  | none => (table, some false)
  | some _ =>
    if table.accepts profile then (table.set profile.id profile, some true) else (table, none)

/-- A row of the same user is written over under its own identifier. -/
def updateOrCreate (table : ProfileTable) (profile : TraderProfile) :
    ProfileTable × Option Bool :=
  match table.rows.find? fun row => row.userId = profile.userId with
  | some row =>
    let (table, updated) := table.update { profile with id := row.id }
    (table, updated.map fun _ => false)
  | none =>
    match table.insert profile with
    | (table, true) => (table, some true)
    | (table, false) => (table, none)

/-- All rows by their names, in the order that the database has for texts. -/
def all (table : ProfileTable) (collates : String → String → Bool) : List TraderProfile :=
  table.rows.mergeSort fun first second => collates first.name second.name

/-- An operation of the database. -/
def exec (table : ProfileTable) (collates : String → String → Bool) :
    (op : ProfileOp) → ProfileTable × op.Reply
  | .nameTaken name own =>
    (table, table.rows.any fun row => row.name = name ∧ some row.id ≠ own)
  | .userIdTaken userId own =>
    (table, table.rows.any fun row => row.userId = userId ∧ some row.id ≠ own)
  | .get id => (table, table.get? id)
  | .all => (table, table.all collates)
  | .insert profile => table.insert profile
  | .update profile => table.update profile
  | .delete id => (table.erase id, ())
  | .updateOrCreate profile => table.updateOrCreate profile

end ProfileTable

/-- What a thread does with the database. -/
abbrev ProfileProgram := Program ProfileOp ProfileOp.Reply

namespace ProfileProgram

/-- Ask whether another profile has the name. -/
def nameTaken (own : Option UUID) (name : String) : ProfileProgram Bool :=
  Program.perform (ProfileOp.nameTaken name own)

/-- Ask whether another profile has the user. -/
def userIdTaken (own : Option UUID) (userId : String) : ProfileProgram Bool :=
  Program.perform (ProfileOp.userIdTaken userId own)

/-- Read a profile. -/
def getProfile (id : UUID) : ProfileProgram (Option TraderProfile) :=
  Program.perform (ProfileOp.get id)

/-- Read all profiles. -/
def allProfiles : ProfileProgram (List TraderProfile) := Program.perform ProfileOp.all

/-- Insert a profile. -/
def insertProfile (profile : TraderProfile) : ProfileProgram Bool :=
  Program.perform (ProfileOp.insert profile)

/-- Update a profile where it is stored. -/
def updateProfile (profile : TraderProfile) : ProfileProgram (Option Bool) :=
  Program.perform (ProfileOp.update profile)

/-- Delete a profile. -/
def deleteProfile (id : UUID) : ProfileProgram Unit := Program.perform (ProfileOp.delete id)

/-- Write a profile, whether or not it is stored. -/
def updateOrCreate (profile : TraderProfile) : ProfileProgram (Option Bool) :=
  Program.perform (ProfileOp.updateOrCreate profile)

end ProfileProgram

open ProfileProgram

/-- The fields of a request about a profile. -/
structure ProfileFields where
  name : Field String
  userId : Field String
  strategy : Field String
  enabled : Field Bool
  symbol : Field String
  referencePrice : Field Int
  priceStep : Field Int
  maxOffsetSteps : Field Int
  quantityMin : Field Int
  quantityMax : Field Int
  orderTtlSeconds : Field Int
  intervalSeconds : Field Int
  seed : Field Int

/-- The fields that a request gives, past their own checks. -/
structure ProfileAttrs where
  name : Option String
  userId : Option String
  strategy : Option Strategy
  enabled : Option Bool
  symbol : Option String
  referencePrice : Option Int
  priceStep : Option Int
  maxOffsetSteps : Option Int
  quantityMin : Option Int
  quantityMax : Option Int
  orderTtlSeconds : Option Int
  intervalSeconds : Option Int
  seed : Option Int

/-- Checks on a field that may be left out. -/
def optionalField {α β : Type} (check : Field α → Except (List String) β) :
    Field α → Except (List String) (Option β)
  | .missing => .ok none
  | field => (check field).map some

/-- Checks on a truth value. -/
def booleanField : Field Bool → Except (List String) Bool
  | .missing => .error ["This field is required."]
  | .null => .error ["This field may not be null."]
  | .invalid _ => .error ["Must be a valid boolean."]
  | .given value => .ok value

/-- Checks on a text that no other row may have; a stored row may leave it as it is. -/
def uniqueTextField (label : String) (maxLength : Nat) (stored : Bool)
    (taken : String → ProfileProgram Bool) :
    Field String → ProfileProgram (Except (List String) (Option String))
  | .missing => return if stored then .ok none else .error ["This field is required."]
  | .null => return .error ["This field may not be null."]
  | .invalid _ => return .error ["Not a valid string."]
  | .given value => do
    let value := strip value
    if value = "" then return .error ["This field may not be blank."]
    else
      -- The table is asked before the other validators run, and all messages are collected.
      let isTaken ← taken value
      let messages :=
        (if isTaken then ["trader profile with this " ++ label ++ " already exists."] else []) ++
          textMessages (some maxLength) value
      return if messages = [] then .ok (some value) else .error messages

namespace ProfileAttrs

/-- Checks across the fields; what is not given is as it is stored, if it is stored. -/
def validate (attrs : ProfileAttrs) (stored : Option TraderProfile)
    (isSimulatedSymbol : String → Bool) : Except FieldErrors Unit :=
  let quantityMin := attrs.quantityMin.or (stored.map TraderProfile.quantityMin)
  let quantityMax := attrs.quantityMax.or (stored.map TraderProfile.quantityMax)
  -- A new profile without a symbol is checked with the one that it will get.
  let symbol := attrs.symbol.getD (stored.elim fallbackSymbol TraderProfile.symbol)
  if quantityMax.any fun largest => quantityMin.any (largest < ·) then
    .error [("quantity_max", ["quantity_max must be at least quantity_min"])]
  else if ¬ isSimulatedSymbol symbol then
    .error [("symbol", ["symbol is not in the current simulation set"])]
  else .ok ()

/-- Set the fields that are given. -/
def applyTo (attrs : ProfileAttrs) (profile : TraderProfile) : TraderProfile where
  id := profile.id
  name := attrs.name.getD profile.name
  userId := attrs.userId.getD profile.userId
  strategy := attrs.strategy.getD profile.strategy
  enabled := attrs.enabled.getD profile.enabled
  symbol := attrs.symbol.getD profile.symbol
  referencePrice := attrs.referencePrice.getD profile.referencePrice
  priceStep := attrs.priceStep.getD profile.priceStep
  maxOffsetSteps := attrs.maxOffsetSteps.getD profile.maxOffsetSteps
  quantityMin := attrs.quantityMin.getD profile.quantityMin
  quantityMax := attrs.quantityMax.getD profile.quantityMax
  orderTtlSeconds := attrs.orderTtlSeconds.getD profile.orderTtlSeconds
  intervalSeconds := attrs.intervalSeconds.getD profile.intervalSeconds
  seed := attrs.seed.getD profile.seed

end ProfileAttrs

/-- Check the fields one by one, the unique ones in the database, and then together. -/
def ProfileFields.serialize (fields : ProfileFields) (stored : Option TraderProfile)
    (isSimulatedSymbol : String → Bool) : ProfileProgram (Except FieldErrors ProfileAttrs) := do
  let own := stored.map TraderProfile.id
  let name ← uniqueTextField "name" 100 stored.isSome (nameTaken own) fields.name
  let userId ← uniqueTextField "user id" 128 stored.isSome (userIdTaken own) fields.userId
  match name, userId, optionalField (choiceField supportedStrategies) fields.strategy,
    optionalField booleanField fields.enabled, optionalField (charField 6) fields.symbol,
    optionalField (integerField 1 (some maxBigInteger)) fields.referencePrice,
    optionalField (integerField 1 (some maxBigInteger)) fields.priceStep,
    optionalField (integerField 0 (some maxInteger)) fields.maxOffsetSteps,
    optionalField (integerField 1 (some maxInteger)) fields.quantityMin,
    optionalField (integerField 1 (some maxInteger)) fields.quantityMax,
    optionalField (integerField 1 (some maxInteger)) fields.orderTtlSeconds,
    optionalField (integerField 1 (some maxInteger)) fields.intervalSeconds,
    optionalField (integerField (-maxInteger - 1) (some maxInteger)) fields.seed with
  | .ok name, .ok userId, .ok strategy, .ok enabled, .ok symbol, .ok referencePrice, .ok priceStep,
    .ok maxOffsetSteps, .ok quantityMin, .ok quantityMax, .ok orderTtlSeconds, .ok intervalSeconds,
    .ok seed =>
    let attrs : ProfileAttrs := ⟨name, userId, strategy, enabled, symbol, referencePrice, priceStep,
      maxOffsetSteps, quantityMin, quantityMax, orderTtlSeconds, intervalSeconds, seed⟩
    -- The checks across fields need every field to have passed.
    return (attrs.validate stored isSimulatedSymbol).map fun _ => attrs
  | name, userId, strategy, enabled, symbol, referencePrice, priceStep, maxOffsetSteps, quantityMin,
    quantityMax, orderTtlSeconds, intervalSeconds, seed =>
    return .error (fieldErrors "name" name ++ fieldErrors "user_id" userId ++
      fieldErrors "strategy" strategy ++ fieldErrors "enabled" enabled ++
      fieldErrors "symbol" symbol ++ fieldErrors "reference_price" referencePrice ++
      fieldErrors "price_step" priceStep ++ fieldErrors "max_offset_steps" maxOffsetSteps ++
      fieldErrors "quantity_min" quantityMin ++ fieldErrors "quantity_max" quantityMax ++
      fieldErrors "order_ttl_seconds" orderTtlSeconds ++
      fieldErrors "interval_seconds" intervalSeconds ++ fieldErrors "seed" seed)

/-- What the profile views answer. -/
inductive ProfileBody where
  | profile (profile : TraderProfile)
  | profiles (profiles : List TraderProfile)
  | empty
  | detail (text : String)
  | errors (errors : FieldErrors)
  deriving DecidableEq

/-- What a request or a command ends with. -/
inductive ProfileAnswer where
  | response (status : Nat) (body : ProfileBody)
  | seeded (created updated : Nat)
  | commandError (message : String)
  | databaseError
  deriving DecidableEq

/-- The answer to a database error. -/
def ProfileAnswer.serverError : ProfileAnswer := .response 500 (.detail "Server Error (500)")

/-- A process that serves requests, and the universe it has cached. -/
structure ProfileSettings where
  debug : Bool
  tickers : List String

namespace ProfileSettings

/-- Whether a ticker is in the universe of the process. -/
def isSimulatedSymbol (settings : ProfileSettings) (ticker : String) : Bool :=
  ticker ∈ settings.tickers

/-- The refusal of changes outside development. -/
def requireDevelopmentMode : ProfileAnswer :=
  .response 403 (.detail "trader profile changes are only available in DEBUG mode")

end ProfileSettings

/-- Write a profile over its row, or as a new row when its row is gone. -/
def TraderProfile.save (profile : TraderProfile) : ProfileProgram Bool := do
  match ← updateProfile profile with
  | some true => return true
  -- The framework inserts the row again when the update has met none.
  | some false => insertProfile profile
  | none => return false

/-- List the profiles. -/
def listProfiles : ProfileProgram ProfileAnswer := do
  return .response 200 (.profiles (← allProfiles))

/-- Store a new profile under a new identifier. -/
def createProfile (settings : ProfileSettings) (id : UUID) (fields : ProfileFields) :
    ProfileProgram ProfileAnswer := do
  if ¬ settings.debug then return ProfileSettings.requireDevelopmentMode
  else
    match ← fields.serialize none settings.isSimulatedSymbol with
    | .error errors => return .response 400 (.errors errors)
    | .ok attrs =>
      let profile := attrs.applyTo (.default id)
      -- A row that another request has just inserted makes this an error of the database.
      if ← insertProfile profile then return .response 201 (.profile profile)
      else return .serverError

/-- Go on with a stored profile. -/
def withProfile (id : UUID) (view : TraderProfile → ProfileProgram ProfileAnswer) :
    ProfileProgram ProfileAnswer := do
  match ← getProfile id with
  | none => return .response 404 (.detail "No TraderProfile matches the given query.")
  | some profile => view profile

/-- `GET /traders/<id>/`: a profile. -/
def profileDetail (id : UUID) : ProfileProgram ProfileAnswer :=
  withProfile id fun profile => return .response 200 (.profile profile)

/-- Change the fields that are given, of the profile as it was read. -/
def patchProfile (settings : ProfileSettings) (id : UUID) (fields : ProfileFields) :
    ProfileProgram ProfileAnswer :=
  withProfile id fun profile => do
    if ¬ settings.debug then return ProfileSettings.requireDevelopmentMode
    else
      match ← fields.serialize (some profile) settings.isSimulatedSymbol with
      | .error errors => return .response 400 (.errors errors)
      | .ok attrs =>
        -- All columns are written, also those that others have changed since the read.
        let profile := attrs.applyTo profile
        if ← profile.save then return .response 200 (.profile profile) else return .serverError

/-- `DELETE /traders/<id>/`: a profile is deleted, unless it is a default one. -/
def removeProfile (settings : ProfileSettings) (id : UUID) : ProfileProgram ProfileAnswer :=
  withProfile id fun profile => do
    if ¬ settings.debug then return ProfileSettings.requireDevelopmentMode
    else
      deleteProfile profile.id
      return .response 204 .empty

section Seeds

/-- The price that demo traders are placed around: the last close, if there is one. -/
def referencePriceCenter (closePrice : Option Nat) : Int :=
  match closePrice with
  -- A close of zero counts as none.
  | none | some 0 => 70000
  | some price => price

/-- The lowest price that is drawn, and the end of the range that it is drawn from. -/
def referencePriceRange (center : Int) : Int × Int :=
  if center = 70000 then (65000, 75100) else (max 100 (center - 5 * 100), center + 5 * 100 + 100)

/-- What is drawn for one demo trader, inside the ranges that it is drawn from. -/
structure SeedDraw (center : Int) where
  id : UUID
  quantityMin : Int
  referencePrice : Int
  priceStep : Int
  maxOffsetSteps : Int
  quantityMax : Int
  intervalSeconds : Int
  seed : Int
  quantityMin_range : 1 ≤ quantityMin ∧ quantityMin ≤ 5
  referencePrice_range : (referencePriceRange center).1 ≤ referencePrice ∧
    referencePrice < (referencePriceRange center).2
  priceStep_choice : priceStep ∈ [50, 100, 500]
  maxOffsetSteps_range : 0 ≤ maxOffsetSteps ∧ maxOffsetSteps ≤ 10
  quantityMax_range : quantityMin ≤ quantityMax ∧ quantityMax ≤ 15
  intervalSeconds_range : 1 ≤ intervalSeconds ∧ intervalSeconds ≤ 5
  seed_range : 1 ≤ seed ∧ seed ≤ 2147483647

/-- A number with at least three digits. -/
def threeDigits (index : Nat) : String :=
  let digits := toString index
  String.ofList (List.replicate (3 - digits.length) '0') ++ digits

/-- The key of a demo trader; the symbol is only part of it when it is another one than usual. -/
def seedKey (strategy : Strategy) (symbol kind : String) (index : Nat) : String :=
  "random-" ++ strategy.value ++ (if symbol = fallbackSymbol then "" else "-" ++ symbol) ++ kind ++
    "-" ++ threeDigits index

/-- A demo trader. -/
def SeedDraw.profile {center : Int} (draw : SeedDraw center) (strategy : Strategy)
    (symbol : String) (index : Nat) : TraderProfile where
  id := draw.id
  name := seedKey strategy symbol "" index
  userId := seedKey strategy symbol "-user" index
  strategy := strategy
  enabled := true
  symbol := symbol
  referencePrice := draw.referencePrice
  priceStep := draw.priceStep
  maxOffsetSteps := draw.maxOffsetSteps
  quantityMin := draw.quantityMin
  quantityMax := draw.quantityMax
  orderTtlSeconds := 16
  intervalSeconds := draw.intervalSeconds
  seed := draw.seed

/-- Write the demo traders one after the other; an error leaves those that are written. -/
def seedRows {center : Int} (strategy : Strategy) (symbol : String) :
    List (SeedDraw center) → Nat → Nat → Nat → ProfileProgram ProfileAnswer
  | [], _, created, updated => return .seeded created updated
  | draw :: draws, index, created, updated => do
    match ← updateOrCreate (draw.profile strategy symbol index) with
    -- The rows before it stay, since the command is no transaction.
    | none => return .databaseError
    | some true => seedRows strategy symbol draws (index + 1) (created + 1) updated
    | some false => seedRows strategy symbol draws (index + 1) created (updated + 1)

/-- The command that writes as many demo traders as are drawn. -/
def seedTraders (settings : ProfileSettings) (strategy : Strategy) (symbol : String)
    (closePrice : Option Nat) (draws : List (SeedDraw (referencePriceCenter closePrice))) :
    ProfileProgram ProfileAnswer :=
  let symbol := strip symbol
  -- The count is checked before the symbol.
  if ¬ (1 ≤ draws.length ∧ draws.length ≤ 1000) then
    return .commandError "count must be between 1 and 1000"
  else if ¬ settings.isSimulatedSymbol symbol then
    return .commandError ("symbol " ++ symbol ++ " is not in the current simulation set")
  else seedRows strategy symbol draws 1 0 0

end Seeds

/-- Requests and commands about profiles, with the identifiers of the rows that they introduce. -/
inductive ProfileRequest where
  | list
  | create (id : UUID) (fields : ProfileFields)
  | detail (id : UUID)
  | patch (id : UUID) (fields : ProfileFields)
  | remove (id : UUID)
  | seed (strategy : Strategy) (symbol : String) (closePrice : Option Nat)
      (draws : List (SeedDraw (referencePriceCenter closePrice)))

/-- A request and the process that serves it. -/
structure ProfileCall where
  settings : ProfileSettings
  request : ProfileRequest

/-- The program of a request. -/
def ProfileCall.program (call : ProfileCall) : ProfileProgram ProfileAnswer :=
  match call.request with
  | .list => listProfiles
  | .create id fields => createProfile call.settings id fields
  | .detail id => profileDetail id
  | .patch id fields => patchProfile call.settings id fields
  | .remove id => removeProfile call.settings id
  | .seed strategy symbol closePrice draws =>
    seedTraders call.settings strategy symbol closePrice draws

/-- Requests are served by any number of threads on one table, and no operation waits. -/
def profileService (collates : String → String → Bool) :
    Service ProfileOp ProfileOp.Reply ProfileAnswer ProfileTable Nat ProfileCall Unit where
  exec table _ op := some (table.exec collates op)
  serve table _ call := some (table, call.program)

/-- The table with the requests that are under way. -/
abbrev ProfileSystem := Shared ProfileOp ProfileOp.Reply ProfileAnswer ProfileTable Nat ProfileCall

/-- A turn of some thread at the table. -/
abbrev ProfileTurn := Turn Nat ProfileCall Unit

end StockMarket
