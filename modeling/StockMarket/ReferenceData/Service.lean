import Mathlib.Data.List.Sort
import Mathlib.Data.Prod.Lex
import Mathlib.Data.String.Basic
import StockMarket.Matcher.MarketSession
import StockMarket.Orderbook.Types
import StockMarket.ReferenceData.Krx

/-! The import of a day's hundred most traded symbols into the reference tables. -/

namespace StockMarket

/-- A number with leading zeros up to a width. -/
def zeroPadded (width number : Nat) : String :=
  String.ofList (List.replicate (width - (toString number).length) '0') ++ toString number

namespace Date

/-- The day before, which the first day of the calendar does not have. -/
def previous (date : Date) : Option Date :=
  if 1 < date.day then some { date with day := date.day - 1 }
  -- The last day of the month before.
  else if 1 < date.month then
    some ⟨date.year, date.month - 1, daysInMonth date.year (date.month - 1)⟩
  else if 1 < date.year then some ⟨date.year - 1, 12, 31⟩
  else none

/-- A date as `isoformat` writes it. -/
def printed (date : Date) : String :=
  zeroPadded 4 date.year ++ "-" ++ zeroPadded 2 date.month ++ "-" ++ zeroPadded 2 date.day

end Date

/-- Exceptions that an import can meet, each with its text. -/
inductive ImportError where
  | krxApi (error : KrxApiError)
  | overflow (text : String)
  | other (text : String)
  deriving DecidableEq

/-- The text that the import run keeps of its error. -/
def ImportError.text : ImportError → String
  | .krxApi error => error.detail
  | .overflow text => text
  | .other text => text

/-- The client of the exchange, which answers for one day at a time. -/
structure KrxClient where
  fetchDaily : Date → Except ImportError (List KrxDailyRecord)

/-- A symbol of the reference data, under its ticker. -/
structure SymbolRow where
  name : String
  market : String
  deriving DecidableEq

/-- What one day's trading of a symbol came to, under its ticker and the day. -/
structure DailyRow where
  closePrice : Int
  volume : Int
  tradingValue : Int
  tradingValueRank : Nat
  source : String
  sourcePayload : List (String × String)
  deriving DecidableEq

/-- How an import run stands. -/
inductive RunStatus where
  | running
  | success
  | failed
  deriving DecidableEq

/-- The record of one import. -/
structure ReferenceImportRun where
  tradeDate : Option Date
  status : RunStatus
  selectedCount : Nat
  source : String
  errorMessage : String
  startedAt : Instant
  finishedAt : Option Instant
  deriving DecidableEq

/-- The tables of reference data; a daily row is always of a listed symbol. -/
structure ReferenceStore where
  symbols : Dict String SymbolRow
  daily : Dict (String × Date) DailyRow
  runs : Dict UUID ReferenceImportRun
  listed : ∀ key ∈ daily.keys, key.1 ∈ symbols.keys

/-- What an import reports when it ends normally. -/
structure ImportResult where
  runId : UUID
  tradeDate : Date
  selectedCount : Nat
  topRecords : List KrxDailyRecord

/--
Where the database refuses a statement, and with what.

The statements for single symbols are told apart by the rank that is being stored.
-/
structure Refusals where
  delete : Option ImportError
  symbol : Nat → Option ImportError
  daily : Nat → Option ImportError
  finish : Option ImportError
  commit : Option ImportError
  fail : Option ImportError

/-- The arguments and the surroundings of one import. -/
structure ImportCall where
  runId : UUID
  requestedTradeDate : Option Date
  lookbackDays : Nat
  today : Date
  startedAt : Instant
  finishedAt : Instant
  refusals : Refusals

/-- The name that the importer gives as the source of its rows. -/
def krxSource : String := "krx_open_api"

/-- The row of a record at a rank. -/
def KrxDailyRecord.dailyRow (record : KrxDailyRecord) (rank : Nat) : DailyRow where
  closePrice := record.closePrice
  volume := record.volume
  tradingValue := record.tradingValue
  tradingValueRank := rank
  source := krxSource
  sourcePayload := record.sourcePayload

/-- Every symbol is listed on one market. -/
def KrxDailyRecord.symbolRow (record : KrxDailyRecord) : SymbolRow := ⟨record.name, "KOSPI"⟩

namespace ReferenceStore

/-- Without daily rows, nothing is missing. -/
theorem listed_empty : ∀ key ∈ (Dict.empty : Dict (String × Date) DailyRow).keys,
    key.1 ∈ (Dict.empty : Dict String SymbolRow).keys := fun _ member => by cases member

/-- The tables before any import. -/
def empty : ReferenceStore := ⟨.empty, .empty, .empty, listed_empty⟩

/-- A symbol that is stored is listed, and so are those that were listed before. -/
theorem mem_keys_set {symbols : Dict String SymbolRow} {ticker other : String} {row : SymbolRow}
    (listed : other = ticker ∨ other ∈ symbols.keys) : other ∈ (symbols.set ticker row).keys := by
  -- A known symbol keeps its place, and a new one comes last.
  rw [Dict.keys_set]
  split
  · rename_i known
    exact listed.elim (fun same => same ▸ known) id
  · exact listed.elim (fun same => List.mem_append_right _ (List.mem_singleton.mpr same))
      (List.mem_append_left _)

/-- A stored symbol keeps the daily rows listed. -/
theorem listed_updateSymbol (store : ReferenceStore) (ticker : String) (row : SymbolRow) :
    ∀ key ∈ store.daily.keys, key.1 ∈ (store.symbols.set ticker row).keys :=
  fun key member => mem_keys_set (.inr (store.listed key member))

/-- Create or update a symbol, which is listed from then on. -/
def updateSymbol (store : ReferenceStore) (record : KrxDailyRecord) :
    { after : ReferenceStore // record.ticker ∈ after.symbols.keys } :=
  ⟨{ store with
      symbols := store.symbols.set record.ticker record.symbolRow
      listed := store.listed_updateSymbol record.ticker record.symbolRow },
    mem_keys_set (.inl rfl)⟩

/-- A daily row of a stored symbol is listed. -/
theorem listed_updateDaily (store : ReferenceStore) {ticker : String} (tradeDate : Date)
    (row : DailyRow) (known : ticker ∈ store.symbols.keys) :
    ∀ other ∈ (store.daily.set (ticker, tradeDate) row).keys, other.1 ∈ store.symbols.keys := by
  -- The new row is the only one that could be of an unlisted symbol, and it is not.
  intro other member
  rw [Dict.keys_set] at member
  split at member
  · exact store.listed other member
  · rcases List.mem_append.mp member with before | new
    · exact store.listed other before
    · rwa [List.mem_singleton.mp new]

/-- Create or update the row of a listed symbol and a day. -/
def updateDaily (store : ReferenceStore) (record : KrxDailyRecord) (tradeDate : Date) (rank : Nat)
    (known : record.ticker ∈ store.symbols.keys) : ReferenceStore :=
  { store with
    -- A row of that ticker and day is written over.
    daily := store.daily.set (record.ticker, tradeDate) (record.dailyRow rank)
    listed := store.listed_updateDaily tradeDate _ known }

/-- Fewer daily rows are listed, too. -/
theorem listed_filter (store : ReferenceStore) (test : String × Date → Bool) :
    ∀ key ∈ (store.daily.filter test).keys, key.1 ∈ store.symbols.keys :=
  fun key member => store.listed key (Dict.mem_keys_filter.mp member).1

/-- Delete the rows of a day whose tickers are not among the given ones. -/
def deleteOthers (store : ReferenceStore) (tradeDate : Date) (tickers : List String) :
    ReferenceStore :=
  { store with
    daily := store.daily.filter fun key => key.2 ≠ tradeDate ∨ key.1 ∈ tickers
    listed := store.listed_filter _ }

end ReferenceStore

/-- The sorting key: the highest value first, then the highest volume, then the first ticker. -/
def KrxDailyRecord.sortKey (record : KrxDailyRecord) : Int ×ₗ Int ×ₗ String :=
  toLex (-record.tradingValue, toLex (-record.volume, record.ticker))

/-- The records that were traded at all. -/
def eligible (records : List KrxDailyRecord) : List KrxDailyRecord :=
  records.filter fun record => 0 < record.tradingValue

/-- The hundred most traded records of a day. -/
def selectTop100 (records : List KrxDailyRecord) : Except KrxApiError (List KrxDailyRecord) :=
  let selected := ((eligible records).insertionSort fun first second =>
    first.sortKey ≤ second.sortKey).take 100
  -- Fewer than a hundred traded records are refused, whatever their tickers are.
  if selected.length ≠ 100 then
    .error ⟨"KRX KOSPI response must contain at least 100 traded symbols; got " ++
      toString selected.length⟩
  else .ok selected

/-- Look for the last day with any records, from a day backwards. -/
def searchBack (client : KrxClient) (lookbackDays : Nat) :
    Nat → Date → Except ImportError (Date × List KrxDailyRecord)
  | 0, _ => .error (.krxApi ⟨"KRX returned no completed trading day within " ++
      toString lookbackDays ++ " days"⟩)
  | turns + 1, candidate => do
    let records ← client.fetchDaily candidate
    -- A day without records is no trading day.
    if records ≠ [] then return (candidate, records)
    match candidate.previous with
    | none => .error (.overflow "date value out of range")
    | some earlier => searchBack client lookbackDays turns earlier

/-- The requested day, or the last completed one, with its records. -/
def resolveTradeDate (client : KrxClient) (call : ImportCall) :
    Except ImportError (Date × List KrxDailyRecord) :=
  match call.requestedTradeDate with
  | some requested => do
    let records ← client.fetchDaily requested
    -- A requested day is not searched back from.
    if records = [] then
      .error (.krxApi ⟨"KRX returned no rows for " ++ requested.printed⟩)
    else return (requested, records)
  | none =>
    match call.today.previous with
    | none => .error (.overflow "date value out of range")
    | some yesterday => searchBack client call.lookbackDays call.lookbackDays yesterday

/-- The record of an import that has only begun. -/
def ImportCall.newRun (call : ImportCall) : ReferenceImportRun where
  tradeDate := call.requestedTradeDate
  status := .running
  selectedCount := 0
  source := krxSource
  errorMessage := ""
  startedAt := call.startedAt
  finishedAt := none

/-- A statement that the database may refuse. -/
def permit : Option ImportError → Except ImportError Unit
  | none => .ok ()
  | some refusal => .error refusal

namespace ReferenceStore

/-- Store the selected records in turn, each under its rank. -/
def storeRanked (refusals : Refusals) (tradeDate : Date) :
    ReferenceStore → Nat → List KrxDailyRecord → Except ImportError ReferenceStore
  | store, _, [] => .ok store
  | store, rank, record :: later => do
    permit (refusals.symbol rank)
    let ⟨store, known⟩ := store.updateSymbol record
    -- The symbol is stored before the row that refers to it.
    permit (refusals.daily rank)
    storeRanked refusals tradeDate (store.updateDaily record tradeDate rank known) (rank + 1) later

/-- Record that an import has begun. -/
def createRun (store : ReferenceStore) (call : ImportCall) : ReferenceStore :=
  { store with runs := store.runs.set call.runId call.newRun }

/-- Record that an import has succeeded. -/
def finishRun (store : ReferenceStore) (call : ImportCall) (tradeDate : Date) (count : Nat) :
    ReferenceStore :=
  { store with runs := store.runs.modify call.runId fun run => { run with
      tradeDate := some tradeDate
      status := .success
      selectedCount := count
      errorMessage := ""
      finishedAt := some call.finishedAt } }

/-- Record that an import has failed; the day and the count stay as they were created. -/
def failRun (store : ReferenceStore) (call : ImportCall) (error : ImportError) : ReferenceStore :=
  { store with runs := store.runs.modify call.runId fun run => { run with
      status := .failed
      errorMessage := String.ofList (error.text.toList.take 2000)
      finishedAt := some call.finishedAt } }

/-- Replace the membership of a day and record the success, all in one transaction. -/
def replaceDay (store : ReferenceStore) (call : ImportCall) (tradeDate : Date)
    (selected : List KrxDailyRecord) : Except ImportError ReferenceStore := do
  permit call.refusals.delete
  -- Rows of that day that are not selected any more are deleted first.
  let store := store.deleteOthers tradeDate (selected.map (·.ticker))
  let store ← storeRanked call.refusals tradeDate store 1 selected
  permit call.refusals.finish
  permit call.refusals.commit
  return store.finishRun call tradeDate selected.length

/-- What an import attempts once it has recorded that it has begun. -/
def attempt (store : ReferenceStore) (client : KrxClient) (call : ImportCall) :
    Except ImportError (ReferenceStore × ImportResult) := do
  let (tradeDate, records) ← resolveTradeDate client call
  -- Nothing is written before the day and its records are known.
  let selected ← (selectTop100 records).mapError .krxApi
  let store ← store.replaceDay call tradeDate selected
  return (store, ⟨call.runId, tradeDate, selected.length, selected.take 10⟩)

/--
Import the hundred most traded symbols of a day.

An exception leaves the tables as they were before the transaction, and it is recorded on the run
unless that record is refused in turn.
-/
def importLatestKospiTop100 (store : ReferenceStore) (client : KrxClient) (call : ImportCall) :
    ReferenceStore × Except ImportError ImportResult :=
  let begun := store.createRun call
  match begun.attempt client call with
  | .ok (done, result) => (done, .ok result)
  -- The transaction is rolled back, so the run is recorded on the tables as begun.
  | .error error =>
    match call.refusals.fail with
    | some refusal => (begun, .error refusal)
    | none => (begun.failRun call error, .error error)

end ReferenceStore

end StockMarket
