import StockMarket.Deployment.Routing

/-! Daily records of the exchange, as the importer parses them. -/

namespace StockMarket

/-- An error of the KRX client with its text. -/
structure KrxApiError where
  detail : String
  deriving DecidableEq

/-- A day of the calendar. -/
structure Date where
  year : Nat
  month : Nat
  day : Nat
  deriving DecidableEq

/-- Whether a year has a leap day. -/
def Date.isLeap (year : Nat) : Bool := year % 4 = 0 ∧ (year % 100 ≠ 0 ∨ year % 400 = 0)

/-- How many days a month has. -/
def Date.daysInMonth (year month : Nat) : Nat :=
  if month = 2 then (if isLeap year then 29 else 28)
  else if month = 4 ∨ month = 6 ∨ month = 9 ∨ month = 11 then 30 else 31

/-- The day that eight ordinary digits stand for, if the calendar has it. -/
def Date.ofDigits (digits : List Char) : Option Date :=
  let year := decimalNumber (digits.take 4)
  let month := decimalNumber ((digits.drop 4).take 2)
  let day := decimalNumber (digits.drop 6)
  if digits.length = 8 ∧ digits.all Char.isDigit ∧ 1 ≤ year ∧ 1 ≤ month ∧ month ≤ 12 ∧ 1 ≤ day ∧
      day ≤ daysInMonth year month then some ⟨year, month, day⟩
  else none

/-- A row of the daily list. -/
structure KrxDailyRecord where
  ticker : String
  name : String
  market : String
  tradeDate : Date
  closePrice : Int
  volume : Int
  tradingValue : Int
  sourcePayload : List (String × String)
  deriving DecidableEq

/-- A count, which may have commas and be left out. -/
def integer (value : JsonValue) (fieldName : String) : Except KrxApiError Int :=
  let normalized := strip (String.ofList (value.printed.toList.filter (· ≠ ',')))
  if normalized = "" ∨ normalized = "-" then .ok 0
  else
    match integerText normalized.toList with
    | none => .error ⟨"KRX field " ++ fieldName ++ " is not an integer"⟩
    | some parsed =>
      if parsed < 0 then .error ⟨"KRX field " ++ fieldName ++ " must not be negative"⟩
      else .ok parsed

/-- The short codes of the exchange: six digits or capital letters. -/
def isShortCode (ticker : String) : Bool :=
  ticker.toList.length = 6 ∧ ticker.toList.all fun c => c.isDigit || c.isUpper

/-- The record of a row whose identity has been checked. -/
def recordOf (payload : Dict String JsonValue) (ticker name market : String) (tradeDate : Date) :
    Except KrxApiError KrxDailyRecord := do
  let count (fieldName : String) := integer ((payload.get? fieldName).getD .null) fieldName
  let closePrice ← count "TDD_CLSPRC"
  let volume ← count "ACC_TRDVOL"
  let tradingValue ← count "ACC_TRDVAL"
  let sourcePayload := payload.items.map fun item => (item.1, item.2.printed)
  return { ticker, name, market, tradeDate, closePrice, volume, tradingValue, sourcePayload }

/-- The identity of a row: its ticker, name, market, and date. -/
def identityOf (payload : Dict String JsonValue) : Option (String × String × String × Date) := do
  let ticker ← payload.get? "ISU_CD"
  let name ← payload.get? "ISU_NM"
  let market ← payload.get? "MKT_NM"
  let day ← payload.get? "BAS_DD"
  let tradeDate ← Date.ofDigits (day.printed.toList.take 8)
  return (strip ticker.printed, strip name.printed, strip market.printed, tradeDate)

/-- Parse one row of a response, which may not even be an object. -/
def parseRecord : Option (Dict String JsonValue) → Except KrxApiError KrxDailyRecord
  | none => .error ⟨"KRX daily record must be an object"⟩
  | some payload =>
    match identityOf payload with
    | none => .error ⟨"KRX daily record is missing an identity field"⟩
    | some (ticker, name, market, tradeDate) =>
      if ¬ isShortCode ticker then
        .error ⟨"KRX ISU_CD must be a six-character KRX short code"⟩
      else if name = "" then .error ⟨"KRX ISU_NM must not be blank"⟩
      else if market ≠ "KOSPI" then .error ⟨"KRX record market must be KOSPI"⟩
      else recordOf payload ticker name market tradeDate

/-- A row keeps its ticker. -/
theorem recordOf_ticker {payload : Dict String JsonValue} {ticker name market : String}
    {tradeDate : Date} {record : KrxDailyRecord}
    (made : recordOf payload ticker name market tradeDate = .ok record) :
    record.ticker = ticker := by
  simp only [recordOf, Bind.bind, Except.bind, Pure.pure, Except.pure] at made
  -- Each of the three counts may be refused.
  repeat' split at made
  all_goals cases made
  rfl

/-- A record is only parsed when its ticker is a short code. -/
theorem isShortCode_of_parseRecord {payload : Option (Dict String JsonValue)}
    {record : KrxDailyRecord} (parsed : parseRecord payload = .ok record) :
    isShortCode record.ticker = true := by
  -- The ticker is checked before the record is made of it.
  unfold parseRecord at parsed
  split at parsed
  · cases parsed
  · split at parsed
    · cases parsed
    · split_ifs at parsed with code named traded
      rw [recordOf_ticker parsed]
      simpa using code

end StockMarket
