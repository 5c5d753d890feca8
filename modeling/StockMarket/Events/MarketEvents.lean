import StockMarket.Library.Json
import StockMarket.Matcher.Views

/-! Market events as analyzers send them, as they are stored, and as the runner receives them. -/

namespace StockMarket

/-- Which side reacts to an event. -/
inductive EventDirection where
  | buy
  | sell
  | mixed
  deriving DecidableEq

/-- How strongly an event is felt. -/
inductive EventImpact where
  | low
  | medium
  | high
  deriving DecidableEq

/-- How far an event has been processed. -/
inductive EventState where
  | pending
  | dispatched
  | stale
  deriving DecidableEq

/-- The name of a direction. -/
def EventDirection.value : EventDirection → String
  | .buy => "BUY"
  | .sell => "SELL"
  | .mixed => "MIXED"

/-- The name of an impact. -/
def EventImpact.value : EventImpact → String
  | .low => "low"
  | .medium => "medium"
  | .high => "high"

/-- The fields of an ingest request. -/
structure MarketEventFields where
  eventId : Field String
  symbol : Field String
  eventType : Field String
  direction : Field String
  confidence : Field ℚ
  impact : Field String
  occurredAt : Field Instant
  detectedAt : Field Instant
  source : Field String
  sourceItemId : Field String
  headline : Field String

/-- An event past the checks of the serializer. -/
structure MarketEvent where
  eventId : String
  symbol : String
  eventType : String
  direction : EventDirection
  confidence : ℚ
  impact : EventImpact
  occurredAt : Option Instant
  detectedAt : Instant
  source : String
  sourceItemId : String
  headline : String
  deriving DecidableEq

/-- Six decimal digits. -/
def isSixDigits (text : String) : Bool := text.toList.length = 6 ∧ text.toList.all isDecimal

/-- The messages about a text that is too long or has null characters. -/
def textMessages (maxLength : Option Nat) (value : String) : List String :=
  (match maxLength with
    | some maxLength => if maxLength < value.length then
        ["Ensure this field has no more than " ++ toString maxLength ++ " characters."] else []
    | none => []) ++
  (if '\x00' ∈ value.toList then ["Null characters are not allowed."] else [])

/-- Checks on a stock code, which must be six digits once it is stripped. -/
def stockCodeField : Field String → Except (List String) String
  | .missing => .error ["This field is required."]
  | .null => .error ["This field may not be null."]
  | .invalid _ => .error ["Not a valid string."]
  | .given value =>
    let value := strip value
    if value = "" then .error ["This field may not be blank."]
    else
      -- The pattern is checked along with the other validators.
      let messages := textMessages none value ++
        (if isSixDigits value then [] else ["This value does not match the required pattern."])
      if messages = [] then .ok value else .error messages

/-- Checks on a text field that may be left out or blank. -/
def optionalTextField (maxLength : Option Nat) : Field String → Except (List String) String
  | .missing => .ok ""
  | .null => .error ["This field may not be null."]
  | .invalid _ => .error ["Not a valid string."]
  | .given value =>
    let value := strip value
    -- Blank is allowed here, and stands for nothing.
    if value = "" then .ok ""
    else if textMessages maxLength value = [] then .ok value
    else .error (textMessages maxLength value)

/-- Checks on a required choice among named values. -/
def choiceField {α : Type} (choices : List (String × α)) : Field String → Except (List String) α
  | .missing => .error ["This field is required."]
  | .null => .error ["This field may not be null."]
  | .invalid printed => .error ["\"" ++ printed ++ "\" is not a valid choice."]
  | .given value =>
    match choices.find? fun choice => choice.1 = value with
    | some choice => .ok choice.2
    | none => .error ["\"" ++ value ++ "\" is not a valid choice."]

/-- Checks on the confidence, between zero and one. -/
def confidenceField : Field ℚ → Except (List String) ℚ
  | .missing => .error ["This field is required."]
  | .null => .error ["This field may not be null."]
  | .invalid _ => .error ["A valid number is required."]
  | .given value =>
    -- Both bounds belong to the range.
    if value < 0 then .error ["Ensure this value is greater than or equal to 0.0."]
    else if 1 < value then .error ["Ensure this value is less than or equal to 1.0."]
    else .ok value

/-- The message about a date that cannot be read. -/
def wrongDatetime : String :=
  "Datetime has wrong format. Use one of these formats instead: " ++
    "YYYY-MM-DDThh:mm[:ss[.uuuuuu]][+HH:MM|-HH:MM|Z]."

/-- Checks on a required moment. -/
def datetimeField : Field Instant → Except (List String) Instant
  | .missing => .error ["This field is required."]
  | .null => .error ["This field may not be null."]
  | .invalid _ => .error [wrongDatetime]
  | .given value => .ok value

/-- Checks on a moment that may be left out or null. -/
def optionalDatetimeField : Field Instant → Except (List String) (Option Instant)
  | .missing => .ok none
  | .null => .ok none
  | .invalid _ => .error [wrongDatetime]
  | .given value => .ok (some value)

/-- The directions by their names. -/
def eventDirections : List (String × EventDirection) :=
  [("BUY", .buy), ("SELL", .sell), ("MIXED", .mixed)]

/-- The impacts by their names. -/
def eventImpacts : List (String × EventImpact) :=
  [("low", .low), ("medium", .medium), ("high", .high)]

/-- Check the fields of an event, and then that it was not detected before it occurred. -/
def MarketEventFields.serialize (fields : MarketEventFields) : Except FieldErrors MarketEvent :=
  match charField 255 fields.eventId, stockCodeField fields.symbol, charField 64 fields.eventType,
    choiceField eventDirections fields.direction, confidenceField fields.confidence,
    choiceField eventImpacts fields.impact, optionalDatetimeField fields.occurredAt,
    datetimeField fields.detectedAt, charField 64 fields.source,
    optionalTextField (some 255) fields.sourceItemId, optionalTextField none fields.headline with
  | .ok eventId, .ok symbol, .ok eventType, .ok direction, .ok confidence, .ok impact,
    .ok occurredAt, .ok detectedAt, .ok source, .ok sourceItemId, .ok headline =>
    -- The check across fields runs only when each field has passed its own.
    if occurredAt.any (detectedAt < ·) then
      .error [("detected_at", ["detected_at must not be before occurred_at"])]
    else .ok ⟨eventId, symbol, eventType, direction, confidence, impact, occurredAt, detectedAt,
      source, sourceItemId, headline⟩
  | eventId, symbol, eventType, direction, confidence, impact, occurredAt, detectedAt, source,
    sourceItemId, headline =>
    .error (fieldErrors "event_id" eventId ++ fieldErrors "symbol" symbol ++
      fieldErrors "event_type" eventType ++ fieldErrors "direction" direction ++
      fieldErrors "confidence" confidence ++ fieldErrors "impact" impact ++
      fieldErrors "occurred_at" occurredAt ++ fieldErrors "detected_at" detectedAt ++
      fieldErrors "source" source ++ fieldErrors "source_item_id" sourceItemId ++
      fieldErrors "headline" headline)

/-- The symbols of a pending query: the parts between commas, stripped, each once. -/
def parseEventSymbols (raw : String) : Except FieldErrors (List String) :=
  let parts := (raw.toList.splitOn ',').map String.ofList
  let values := (parts.map strip).filter (· ≠ "")
  -- A symbol that is named twice counts once, at its first place.
  let symbols := values.foldl (fun symbols value =>
    if value ∈ symbols then symbols else symbols ++ [value]) []
  -- The number of symbols is checked before their form.
  if 100 < symbols.length then .error [("symbols", ["at most 100 symbols are allowed"])]
  else if symbols.any fun symbol => symbol.toList.length ≠ 6 ∨ ¬ isDigits symbol then
    .error [("symbols", ["symbols must be six-digit stock codes"])]
  else .ok symbols

/-- An event in the results of a pending query; the dates and the item are not read again. -/
structure EventItem where
  eventId : CodePoints
  symbol : String
  eventType : String
  direction : String
  confidence : ℚ
  impact : String
  source : String
  headline : String
  deriving DecidableEq

/-- What is handed to the runner of an event. -/
def MarketEvent.dispatchPayload (event : MarketEvent) : EventItem :=
  ⟨codePoints event.eventId, event.symbol, event.eventType, event.direction.value, event.confidence,
    event.impact.value, event.source, event.headline⟩

/-- The runner's own check of an event that it receives. -/
def EventItem.isValid (event : EventItem) : Bool :=
  event.eventId ≠ [] ∧ event.symbol.toList.length = 6 ∧ isDigits event.symbol ∧
    event.direction ∈ ["BUY", "SELL", "MIXED"] ∧ event.impact ∈ ["low", "medium", "high"] ∧
    0 ≤ event.confidence ∧ event.confidence ≤ 1

end StockMarket
