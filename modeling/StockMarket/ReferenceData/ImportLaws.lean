import StockMarket.Library.Outcome
import StockMarket.ReferenceData.Service

/-! An import replaces a day's membership exactly, unless a ticker is chosen twice. -/

namespace StockMarket

/-- One record comes before another: by value, then by volume, then by ticker. -/
def KrxDailyRecord.RanksBefore (first second : KrxDailyRecord) : Prop :=
  second.tradingValue < first.tradingValue ∨ first.tradingValue = second.tradingValue ∧
    (second.volume < first.volume ∨ first.volume = second.volume ∧ first.ticker ≤ second.ticker)

/-- A list of a day's traded records, the most traded first. -/
structure Ranking (records ranking : List KrxDailyRecord) : Prop where
  traded : ranking.Perm (records.filter fun record => 0 < record.tradingValue)
  ordered : ranking.Pairwise KrxDailyRecord.RanksBefore

namespace ReferenceStore

/-- The rows of one day with their tickers. -/
def rowsOf (store : ReferenceStore) (tradeDate : Date) : List (String × DailyRow) :=
  (store.daily.items.filter fun item => item.1.2 = tradeDate).map fun item => (item.1.1, item.2)

/-- The rows of a day are the hundred most traded records, under their ranks. -/
structure ExactDay (store : ReferenceStore) (tradeDate : Date) (records : List KrxDailyRecord) :
    Prop where
  count : (store.rowsOf tradeDate).length = 100
  ranks : ((store.rowsOf tradeDate).map fun item => item.2.tradingValueRank).Perm
    (List.range' 1 100)
  ranked : ∃ ranking, Ranking records ranking ∧ ∀ item ∈ store.rowsOf tradeDate, ∃ record,
    ranking[item.2.tradingValueRank - 1]? = some record ∧
      item = (record.ticker, record.dailyRow item.2.tradingValueRank)

/-- An import that ends normally has replaced one day exactly, and may be repeated. -/
structure Imported (store after : ReferenceStore) (client : KrxClient) (call : ImportCall)
    (result : ImportResult) : Prop where
  day : ∃ records, resolveTradeDate client call = .ok (result.tradeDate, records) ∧
    after.ExactDay result.tradeDate records
  others : ∀ ticker tradeDate, tradeDate ≠ result.tradeDate →
    after.daily.get? (ticker, tradeDate) = store.daily.get? (ticker, tradeDate)
  counted : result.selectedCount = (after.rowsOf result.tradeDate).length
  recorded : ∃ run, after.runs.get? call.runId = some run ∧ run.status = .success ∧
    run.selectedCount = (after.rowsOf result.tradeDate).length
  again : ∀ (client' : KrxClient) (call' : ImportCall),
    resolveTradeDate client' call' = resolveTradeDate client call → ∀ key,
      (after.importLatestKospiTop100 client' call').1.daily.get? key = after.daily.get? key

/-- An import that raises has left the tables alone, and is recorded as failed. -/
structure RolledBack (store after : ReferenceStore) (call : ImportCall) : Prop where
  symbols : after.symbols = store.symbols
  daily : after.daily = store.daily
  recorded : ∃ run, after.runs.get? call.runId = some run ∧ run.status = .failed

/-- An import is exact, and it is all or nothing. -/
def ImportsExactly (store : ReferenceStore) (client : KrxClient) (call : ImportCall) : Prop :=
  match store.importLatestKospiTop100 client call with
  | (after, .ok result) => Imported store after client call result
  | (after, .error _) => RolledBack store after call

end ReferenceStore

/-- The database refuses nothing of a transaction. -/
structure Refusals.Clear (refusals : Refusals) : Prop where
  delete : refusals.delete = none
  stored : ∀ rank, 1 ≤ rank → rank ≤ 100 → refusals.symbol rank = none ∧ refusals.daily rank = none
  finish : refusals.finish = none
  commit : refusals.commit = none

/-- An import gets as far as the end of its transaction with the chosen records. -/
def Completes (client : KrxClient) (call : ImportCall) (selected : List KrxDailyRecord) : Prop :=
  (∃ tradeDate records, resolveTradeDate client call = .ok (tradeDate, records) ∧
    selectTop100 records = .ok selected) ∧ call.refusals.Clear

/-- The chosen records have different tickers, and a failure can be recorded. -/
structure WellChosen (client : KrxClient) (call : ImportCall) : Prop where
  distinct : ∀ selected, Completes client call selected → (selected.map (·.ticker)).Nodup
  recorded : (∀ selected, ¬ Completes client call selected) → call.refusals.fail = none

section Selection

/-- The sorting key puts a record before another one that it ranks before. -/
theorem sortKey_le_iff {first second : KrxDailyRecord} :
    first.sortKey ≤ second.sortKey ↔ first.RanksBefore second := by
  unfold KrxDailyRecord.sortKey KrxDailyRecord.RanksBefore
  rw [Prod.Lex.toLex_le_toLex, Prod.Lex.toLex_le_toLex]
  simp only [neg_lt_neg_iff, neg_inj]

/-- The chosen records are the first hundred of a ranking. -/
theorem selectTop100_spec {records selected : List KrxDailyRecord}
    (chose : selectTop100 records = .ok selected) :
    selected.length = 100 ∧ ∃ ranking, Ranking records ranking ∧ selected = ranking.take 100 := by
  simp only [selectTop100] at chose
  split at chose
  · cases chose
  · rename_i many
    cases chose
    refine ⟨not_not.mp many, _, ⟨List.perm_insertionSort _ _, ?_⟩, rfl⟩
    -- The sort is by the key of the record, and the first hundred of it are taken.
    have sorted := List.pairwise_insertionSort
      (fun first second : KrxDailyRecord => first.sortKey ≤ second.sortKey) (eligible records)
    exact sorted.imp sortKey_le_iff.mp

/-- A hundred traded records are enough to choose from. -/
theorem selectTop100_total {records : List KrxDailyRecord}
    (many : 100 ≤ (eligible records).length) :
    ∃ selected, selectTop100 records = .ok selected := by
  -- A hundred are taken, as there are that many.
  have hundred : (((eligible records).insertionSort fun first second =>
      first.sortKey ≤ second.sortKey).take 100).length = 100 := by
    rw [List.length_take, List.length_insertionSort]
    exact min_eq_left many
  exact ⟨_, if_neg (not_not_intro hundred)⟩

end Selection

/-- What is stored for a day, from a rank on. -/
def entriesOf (tradeDate : Date) (rank : Nat) (selected : List KrxDailyRecord) :
    List ((String × Date) × DailyRow) :=
  (selected.zipIdx rank).map fun item => ((item.1.ticker, tradeDate), item.1.dailyRow item.2)

section Storing

variable {refusals : Refusals} {tradeDate : Date} {store after : ReferenceStore} {rank : Nat}
  {selected : List KrxDailyRecord} {client : KrxClient} {call : ImportCall}

/-- A statement that was permitted was not refused. -/
theorem permit_eq_ok {refusal : Option ImportError} {done : Unit}
    (permitted : permit refusal = .ok done) : refusal = none := by
  cases refusal with
  | none => rfl
  | some error => cases permitted

/-- Storing the records changes the day's rows, no run, and meets no refusal. -/
theorem storeRanked_ok (ran : store.storeRanked refusals tradeDate rank selected = .ok after) :
    after.daily = store.daily.setAll (entriesOf tradeDate rank selected) ∧
      after.runs = store.runs ∧ ∀ place, rank ≤ place → place < rank + selected.length →
        refusals.symbol place = none ∧ refusals.daily place = none := by
  induction selected generalizing store rank with
  | nil =>
    cases ran
    exact ⟨rfl, rfl, fun place from_rank up_to => by simp at up_to; omega⟩
  | cons record later ih =>
    rw [ReferenceStore.storeRanked] at ran
    obtain ⟨_, symbol, ran⟩ := Outcome.bind_eq_ok ran
    obtain ⟨_, daily, ran⟩ := Outcome.bind_eq_ok ran
    obtain ⟨stored, runs, free⟩ := ih ran
    refine ⟨stored, runs, fun place from_rank up_to => ?_⟩
    -- The first record has the first rank, and the others come after it.
    rcases from_rank.eq_or_lt with rfl | later_rank
    · exact ⟨permit_eq_ok symbol, permit_eq_ok daily⟩
    · exact free place later_rank (by rw [List.length_cons] at up_to; omega)

/-- Where no statement is refused, the records are stored. -/
theorem storeRanked_total (store : ReferenceStore) (refusals : Refusals) (tradeDate : Date)
    (rank : Nat) (selected : List KrxDailyRecord)
    (free : ∀ place, rank ≤ place → place < rank + selected.length →
      refusals.symbol place = none ∧ refusals.daily place = none) :
    ∃ after, store.storeRanked refusals tradeDate rank selected = .ok after := by
  induction selected generalizing store rank with
  | nil => exact ⟨store, rfl⟩
  | cons record later ih =>
    obtain ⟨symbol, daily⟩ := free rank (le_refl _) (by simp)
    rw [ReferenceStore.storeRanked, symbol, daily]
    -- The statements of the other records have the ranks behind this one.
    refine ih _ _ fun place from_rank up_to => free place (by omega) ?_
    rw [List.length_cons]
    omega

/-- The tables once a day has been replaced and its run has been finished. -/
structure Replaced (store after : ReferenceStore) (call : ImportCall) (tradeDate : Date)
    (selected : List KrxDailyRecord) : Prop where
  daily : after.daily = (store.daily.filter fun key =>
    key.2 ≠ tradeDate ∨ key.1 ∈ selected.map (·.ticker)).setAll (entriesOf tradeDate 1 selected)
  runs : after.runs = (store.finishRun call tradeDate selected.length).runs

/-- An import that ends normally has replaced the day of the records that it chose. -/
theorem attempt_ok {result : ImportResult}
    (ran : store.attempt client call = .ok (after, result)) : ∃ records selected,
      resolveTradeDate client call = .ok (result.tradeDate, records) ∧
      selectTop100 records = .ok selected ∧ call.refusals.Clear ∧
      result.selectedCount = selected.length ∧
      Replaced store after call result.tradeDate selected := by
  -- Every step of the attempt has succeeded, in the order of the code.
  obtain ⟨⟨tradeDate, records⟩, resolved, ran⟩ := Outcome.bind_eq_ok ran
  obtain ⟨selected, chose, ran⟩ := Outcome.bind_eq_ok ran
  obtain ⟨done, replaced, ran⟩ := Outcome.bind_eq_ok ran
  cases ran
  have chose : selectTop100 records = .ok selected := by
    cases chosen : selectTop100 records with
    | error error => rw [chosen] at chose; cases chose
    | ok other => rw [chosen] at chose; cases chose; rfl
  -- The replacement deletes, stores the ranks, finishes the run and commits.
  obtain ⟨_, delete, replaced⟩ := Outcome.bind_eq_ok replaced
  obtain ⟨stored, ranked, replaced⟩ := Outcome.bind_eq_ok replaced
  obtain ⟨_, finish, replaced⟩ := Outcome.bind_eq_ok replaced
  obtain ⟨_, commit, replaced⟩ := Outcome.bind_eq_ok replaced
  cases replaced
  obtain ⟨daily, runs, free⟩ := storeRanked_ok ranked
  refine ⟨records, selected, resolved, chose, ⟨permit_eq_ok delete, fun rank least most => ?_,
    permit_eq_ok finish, permit_eq_ok commit⟩, rfl, daily, ?_⟩
  · -- The ranks are those of one hundred records.
    exact free rank least (by rw [(selectTop100_spec chose).1]; omega)
  · simp only [ReferenceStore.finishRun, runs, ReferenceStore.deleteOthers]

/-- An import that nothing stops ends normally. -/
theorem attempt_total (completes : Completes client call selected) (store : ReferenceStore) :
    ∃ after result, store.attempt client call = .ok (after, result) := by
  obtain ⟨⟨tradeDate, records, resolved, chose⟩, clear⟩ := completes
  -- No write of a ranked record is refused.
  have free : ∀ place, 1 ≤ place → place < 1 + selected.length →
      call.refusals.symbol place = none ∧ call.refusals.daily place = none :=
    fun place least most =>
      clear.stored place least (by rw [(selectTop100_spec chose).1] at most; omega)
  obtain ⟨stored, ranked⟩ := storeRanked_total
    (store.deleteOthers tradeDate (selected.map (·.ticker))) call.refusals tradeDate 1 selected free
  refine ⟨stored.finishRun call tradeDate selected.length,
    ⟨call.runId, tradeDate, selected.length, selected.take 10⟩, ?_⟩
  simp only [ReferenceStore.attempt, resolved, chose, ReferenceStore.replaceDay, clear.delete,
    clear.finish, clear.commit, permit, ranked, Except.mapError, Bind.bind, Except.bind, Pure.pure,
    Except.pure]

end Storing

section Day

variable {tradeDate : Date} {store after : ReferenceStore} {call : ImportCall}
  {selected : List KrxDailyRecord} {ticker : String} {row : DailyRow}

/-- The keys that are stored for a day are the tickers of the records. -/
theorem entriesOf_keys (tradeDate : Date) (rank : Nat) (selected : List KrxDailyRecord) :
    (entriesOf tradeDate rank selected).map Prod.fst =
      (selected.map (·.ticker)).map fun ticker => (ticker, tradeDate) := by
  rw [entriesOf, List.map_map, List.map_map]
  conv_rhs => rw [← List.zipIdx_map_fst rank selected, List.map_map]
  rfl

/-- The rows of a day are those that the table has for the day. -/
theorem mem_rowsOf : (ticker, row) ∈ store.rowsOf tradeDate ↔
    store.daily.get? (ticker, tradeDate) = some row := by
  rw [Dict.get?_eq_some_iff, ReferenceStore.rowsOf, List.mem_map]
  -- The rows of a day are those stored under a key of that day.
  constructor
  · rintro ⟨⟨⟨other, day⟩, found⟩, member, same⟩
    obtain ⟨inside, equal⟩ := List.mem_filter.mp member
    cases same
    cases of_decide_eq_true equal
    exact inside
  · intro inside
    exact ⟨_, List.mem_filter.mpr ⟨inside, decide_eq_true rfl⟩, rfl⟩

/-- No ticker has two rows on a day. -/
theorem rowsOf_nodup (store : ReferenceStore) (tradeDate : Date) :
    ((store.rowsOf tradeDate).map Prod.fst).Nodup := by
  -- A row's key is its ticker and the day, and the table has each key once.
  refine List.Nodup.of_map (fun ticker => (ticker, tradeDate)) ?_
  have distinct : ((store.daily.items.filter fun item => item.1.2 = tradeDate).map
    Prod.fst).Nodup := store.daily.nodup.sublist (List.filter_sublist.map Prod.fst)
  have same : ((store.rowsOf tradeDate).map Prod.fst).map (fun ticker => (ticker, tradeDate)) =
      (store.daily.items.filter fun item => item.1.2 = tradeDate).map Prod.fst := by
    rw [ReferenceStore.rowsOf, List.map_map, List.map_map]
    refine List.map_congr_left fun item member => ?_
    have day : item.1.2 = tradeDate := of_decide_eq_true (List.mem_filter.mp member).2
    simp only [Function.comp_apply, ← day]
  rwa [same]

/-- The rows of other days stay. -/
theorem Replaced.other (replaced : Replaced store after call tradeDate selected) {other : Date}
    (differs : other ≠ tradeDate) :
    after.daily.get? (ticker, other) = store.daily.get? (ticker, other) := by
  -- All entries that are written are of the day of the import.
  have absent : (ticker, other) ∉ (entriesOf tradeDate 1 selected).map Prod.fst := by
    rw [entriesOf_keys]
    intro member
    obtain ⟨_, _, same⟩ := List.mem_map.mp member
    exact differs (Prod.mk.inj same).2.symm
  rw [replaced.daily, Dict.get?_setAll_of_notMem absent, Dict.get?_filter,
    if_pos (decide_eq_true (.inl differs))]

/-- On the day itself a ticker that was not chosen has no row. -/
theorem Replaced.unchosen (replaced : Replaced store after call tradeDate selected)
    (unchosen : ticker ∉ selected.map (·.ticker)) :
    after.daily.get? (ticker, tradeDate) = none := by
  -- The row is not written again, and the rows of that day were dropped before.
  have absent : (ticker, tradeDate) ∉ (entriesOf tradeDate 1 selected).map Prod.fst := by
    rw [entriesOf_keys]
    intro member
    obtain ⟨other, chosen, same⟩ := List.mem_map.mp member
    exact unchosen ((Prod.mk.inj same).1 ▸ chosen)
  have dropped : ¬ decide ((ticker, tradeDate).2 ≠ tradeDate ∨
      (ticker, tradeDate).1 ∈ selected.map (·.ticker)) = true := by
    simp only [decide_eq_true_eq, not_or, not_not]
    exact ⟨trivial, unchosen⟩
  rw [replaced.daily, Dict.get?_setAll_of_notMem absent, Dict.get?_filter, if_neg dropped]

/-- Only chosen tickers have rows on the day. -/
theorem Replaced.rowsOf_subset (replaced : Replaced store after call tradeDate selected) :
    (after.rowsOf tradeDate).map Prod.fst ⊆ selected.map (·.ticker) := by
  -- A ticker that was not chosen has lost its row of the day.
  intro ticker member
  obtain ⟨⟨_, row⟩, inside, rfl⟩ := List.mem_map.mp member
  by_contra unchosen
  have found := mem_rowsOf.mp inside
  rw [replaced.unchosen unchosen] at found
  cases found

/-- A hundred rows need as many tickers. -/
theorem Replaced.distinct (replaced : Replaced store after call tradeDate selected)
    (full : (after.rowsOf tradeDate).length = selected.length) :
    (selected.map (·.ticker)).Nodup := by
  have nodup := rowsOf_nodup after tradeDate
  have perm : ((after.rowsOf tradeDate).map Prod.fst).Perm (selected.map (·.ticker)) :=
    (List.subperm_of_subset nodup replaced.rowsOf_subset).perm_of_length_le (by simp [full])
  exact perm.nodup_iff.mp nodup

/-- What is stored for a day has the tickers of the records. -/
theorem zipIdx_tickers (rank : Nat) (selected : List KrxDailyRecord) :
    (selected.zipIdx rank).map (fun item => item.1.ticker) = selected.map (·.ticker) := by
  conv_rhs => rw [← List.zipIdx_map_fst rank selected, List.map_map]
  rfl

/-- Every record is stored under its rank, where all tickers are different. -/
theorem Replaced.written (replaced : Replaced store after call tradeDate selected)
    (distinct : (selected.map (·.ticker)).Nodup) {item : KrxDailyRecord × Nat}
    (member : item ∈ selected.zipIdx 1) :
    after.daily.get? (item.1.ticker, tradeDate) = some (item.1.dailyRow item.2) := by
  -- Different tickers have different keys on the day.
  have keys : ((entriesOf tradeDate 1 selected).map Prod.fst).Nodup := by
    rw [entriesOf_keys]
    exact distinct.map fun first second same => (Prod.mk.inj same).1
  rw [replaced.daily]
  exact Dict.get?_setAll_of_mem keys (List.mem_map.mpr ⟨item, member, rfl⟩) _

/-- Different tickers keep the rows that are stored for them. -/
theorem Replaced.stored (replaced : Replaced store after call tradeDate selected)
    (distinct : (selected.map (·.ticker)).Nodup) :
    (after.rowsOf tradeDate).Perm
      ((selected.zipIdx 1).map fun item => (item.1.ticker, item.1.dailyRow item.2)) := by
  -- The tickers are distinct, so that no row overwrites another one.
  have tickers : ((selected.zipIdx 1).map fun item =>
      (item.1.ticker, item.1.dailyRow item.2)).map Prod.fst = selected.map (·.ticker) := by
    rw [List.map_map]
    exact zipIdx_tickers 1 selected
  refine (List.perm_ext_iff_of_nodup (rowsOf_nodup after tradeDate).of_map
    (List.Nodup.of_map Prod.fst (tickers ▸ distinct))).mpr ?_
  rintro ⟨ticker, row⟩
  rw [mem_rowsOf]
  -- A row of the day is one that was written, and every written one is there.
  constructor
  · intro found
    have chosen := replaced.rowsOf_subset
      (List.mem_map.mpr ⟨(ticker, row), mem_rowsOf.mpr found, rfl⟩)
    rw [← tickers] at chosen
    obtain ⟨⟨_, stored⟩, member, rfl⟩ := List.mem_map.mp chosen
    obtain ⟨item, inside, same⟩ := List.mem_map.mp member
    cases same
    rw [replaced.written distinct inside] at found
    cases found
    exact member
  · intro member
    obtain ⟨item, inside, same⟩ := List.mem_map.mp member
    cases same
    exact replaced.written distinct inside

end Day

section Imports

variable {store after : ReferenceStore} {client : KrxClient} {call : ImportCall}
  {selected records : List KrxDailyRecord} {tradeDate : Date} {result : ImportResult}

/-- An attempt that ends normally is the import. -/
theorem import_of_ok
    (ran : (store.createRun call).attempt client call = .ok (after, result)) :
    store.importLatestKospiTop100 client call = (after, .ok result) := by
  rw [ReferenceStore.importLatestKospiTop100, ran]

/-- An attempt that raises leaves the run to be recorded as failed. -/
theorem import_of_error {error : ImportError}
    (raised : (store.createRun call).attempt client call = .error error) :
    store.importLatestKospiTop100 client call = call.refusals.fail.elim
      ((store.createRun call).failRun call error, .error error)
      fun refusal => (store.createRun call, .error refusal) := by
  rw [ReferenceStore.importLatestKospiTop100, raised]
  cases call.refusals.fail <;> rfl

/-- An exception is raised after the run has begun, and is recorded if that is allowed. -/
theorem importsExactly_of_error {error : ImportError}
    (raised : (store.createRun call).attempt client call = .error error) :
    store.ImportsExactly client call ↔ call.refusals.fail = none := by
  unfold ReferenceStore.ImportsExactly
  rw [import_of_error raised]
  cases call.refusals.fail with
  | some refusal =>
    -- The run is left as it was created.
    refine iff_of_false (fun rolled => ?_) (by simp)
    obtain ⟨run, found, failed⟩ := rolled.recorded
    simp only [ReferenceStore.createRun, Dict.get?_set, if_pos, Option.some.injEq] at found
    subst found
    cases failed
  | none =>
    refine iff_of_true ⟨rfl, rfl, ?_⟩ rfl
    simp [ReferenceStore.failRun, ReferenceStore.createRun]

/-- Where every ticker is chosen once, the day's rows are the chosen records. -/
theorem Replaced.exactDay (replaced : Replaced store after call tradeDate selected)
    (chose : selectTop100 records = .ok selected) (distinct : (selected.map (·.ticker)).Nodup) :
    after.ExactDay tradeDate records := by
  have stored := replaced.stored distinct
  obtain ⟨hundred, ranking, ranked, first⟩ := selectTop100_spec chose
  -- One hundred rows, the ranks in order, and each row that of its record.
  refine ⟨?_, ?_, ranking, ranked, fun item member => ?_⟩
  · rw [stored.length_eq, List.length_map, List.length_zipIdx, hundred]
  · refine (stored.map _).trans (.of_eq ?_)
    rw [List.map_map, ← hundred, ← List.zipIdx_map_snd 1 selected]
    rfl
  · obtain ⟨⟨record, rank⟩, inside, rfl⟩ := List.mem_map.mp (stored.mem_iff.mp member)
    obtain ⟨_, place⟩ := List.mk_mem_zipIdx_iff_le_and_getElem?_sub.mp inside
    refine ⟨record, ?_, rfl⟩
    rw [first, List.getElem?_take] at place
    split at place
    · exact place
    · cases place

/-- Importing the same day again leaves every daily row as it is. -/
theorem Replaced.again (replaced : Replaced store after call tradeDate selected)
    (resolved : resolveTradeDate client call = .ok (tradeDate, records))
    (chose : selectTop100 records = .ok selected) (distinct : (selected.map (·.ticker)).Nodup)
    {client' : KrxClient} {call' : ImportCall}
    (same : resolveTradeDate client' call' = resolveTradeDate client call)
    (key : String × Date) :
    (after.importLatestKospiTop100 client' call').1.daily.get? key = after.daily.get? key := by
  cases ran : (after.createRun call').attempt client' call' with
  | error error =>
    -- Whether or not the failure is recorded, the daily rows are those from before.
    rw [import_of_error ran]
    cases call'.refusals.fail <;> rfl
  | ok done =>
    obtain ⟨last, result⟩ := done
    obtain ⟨records', selected', resolved', chose', _, _, replaced'⟩ := attempt_ok ran
    rw [same, resolved] at resolved'
    obtain ⟨rfl, rfl⟩ := Prod.mk.inj (Except.ok.inj resolved')
    obtain rfl := Except.ok.inj (chose.symm.trans chose')
    obtain ⟨ticker, day⟩ := key
    rw [import_of_ok ran]
    -- Rows of other days stay, and a row of the day is written the same way twice.
    by_cases other : day = result.tradeDate
    · subst other
      by_cases chosen : ticker ∈ selected.map (·.ticker)
      · rw [← zipIdx_tickers 1 selected] at chosen
        obtain ⟨item, inside, rfl⟩ := List.mem_map.mp chosen
        rw [replaced.written distinct inside, replaced'.written distinct inside]
      · rw [replaced.unchosen chosen, replaced'.unchosen chosen]
    · exact replaced'.other other

/-- An import that ends normally is exact exactly when no ticker was chosen twice. -/
theorem importsExactly_of_ok
    (ran : (store.createRun call).attempt client call = .ok (after, result)) :
    store.ImportsExactly client call ↔
      ∀ selected, Completes client call selected → (selected.map (·.ticker)).Nodup := by
  obtain ⟨records, selected, resolved, chose, clear, counted, replaced⟩ := attempt_ok ran
  have completes : Completes client call selected := ⟨⟨_, records, resolved, chose⟩, clear⟩
  have hundred := (selectTop100_spec chose).1
  unfold ReferenceStore.ImportsExactly
  rw [import_of_ok ran]
  constructor
  · -- The rows that are there are as many as there are different tickers.
    intro imported other completes'
    obtain ⟨⟨tradeDate', records', resolved', chose'⟩, _⟩ := completes'
    rw [resolved] at resolved'
    obtain ⟨rfl, rfl⟩ := Prod.mk.inj (Except.ok.inj resolved')
    obtain rfl := Except.ok.inj (chose.symm.trans chose')
    obtain ⟨records', _, exact_day⟩ := imported.day
    exact replaced.distinct (exact_day.count.trans hundred.symm)
  · intro choice
    -- With distinct tickers every selected record has its own row.
    have distinct := choice selected completes
    have exact_day := replaced.exactDay chose distinct
    have as_many := hundred.trans exact_day.count.symm
    refine ⟨⟨records, resolved, exact_day⟩, fun ticker day differs => ?_, ?_, ?_, ?_⟩
    · exact replaced.other differs
    · rw [counted, as_many]
    · rw [replaced.runs, ← as_many]
      simp [ReferenceStore.finishRun, ReferenceStore.createRun]
    · exact fun client' call' same key => replaced.again resolved chose distinct same key

/-- Every import is exact and all or nothing exactly when its records are well chosen. -/
theorem importsExactly_iff (store : ReferenceStore) (client : KrxClient) (call : ImportCall) :
    store.ImportsExactly client call ↔ WellChosen client call := by
  -- The attempt succeeds or it fails, and the run is recorded in both cases.
  cases ran : (store.createRun call).attempt client call with
  | ok done =>
    obtain ⟨after, result⟩ := done
    rw [importsExactly_of_ok ran]
    obtain ⟨records, selected, resolved, chose, clear, _⟩ := attempt_ok ran
    refine ⟨fun distinct => ⟨distinct, fun stopped => ?_⟩, WellChosen.distinct⟩
    exact absurd ⟨⟨_, records, resolved, chose⟩, clear⟩ (stopped selected)
  | error error =>
    rw [importsExactly_of_error ran]
    -- An attempt that fails is no completed one.
    have stopped : ∀ selected, ¬ Completes client call selected := fun selected completes => by
      obtain ⟨after, result, ended⟩ := attempt_total completes (store.createRun call)
      rw [ran] at ended
      cases ended
    exact ⟨fun recorded => ⟨fun selected completes => absurd completes (stopped selected),
      fun _ => recorded⟩, fun chosen => chosen.recorded stopped⟩

/-- A day on which the exchange was open. -/
def tradingDay : Date := ⟨2026, 7, 27⟩

/-- A traded record, with a ticker of its own. -/
def recordNumber (number : Nat) : KrxDailyRecord :=
  ⟨zeroPadded 6 number, "Listed", "KOSPI", tradingDay, 10000, 1000, 1000000 - number, []⟩

/-- A response of a hundred rows, of which the last one repeats the first. -/
def repeatedRow : List KrxDailyRecord := (List.range 99).map recordNumber ++ [recordNumber 0]

/-- An import of one day that meets no refusal. -/
def plainCall : ImportCall :=
  ⟨1, some tradingDay, 10, tradingDay, 0, 1, ⟨none, fun _ => none, fun _ => none, none, none, none⟩⟩

/-- A row that is repeated leaves fewer than a hundred rows behind an import that succeeds. -/
theorem repeatedRow_inexact :
    ¬ ReferenceStore.empty.ImportsExactly ⟨fun _ => .ok repeatedRow⟩ plainCall := by
  have traded : eligible repeatedRow = repeatedRow := by
    refine List.filter_eq_self.mpr fun record member => decide_eq_true ?_
    rcases List.mem_append.mp member with listed | last
    · obtain ⟨number, inside, rfl⟩ := List.mem_map.mp listed
      have below := List.mem_range.mp inside
      show (0 : Int) < 1000000 - number
      omega
    · rw [List.mem_singleton.mp last]
      decide
  have hundred : repeatedRow.length = 100 := by simp [repeatedRow]
  -- There are enough rows for a selection, although one ticker is in it twice.
  have many : 100 ≤ (eligible repeatedRow).length := by rw [traded, hundred]
  obtain ⟨selected, chose⟩ := selectTop100_total many
  have clear : plainCall.refusals.Clear := ⟨rfl, fun _ _ _ => ⟨rfl, rfl⟩, rfl, rfl⟩
  have completes : Completes ⟨fun _ => .ok repeatedRow⟩ plainCall selected :=
    ⟨⟨tradingDay, repeatedRow, rfl, chose⟩, clear⟩
  obtain ⟨after, result, ran⟩ := attempt_total completes (ReferenceStore.empty.createRun plainCall)
  rw [importsExactly_of_ok ran]
  intro distinct
  -- All hundred rows are chosen, and so is the repeated one.
  obtain ⟨_, ranking, ranked, first⟩ := selectTop100_spec chose
  have perm : ranking.Perm repeatedRow := traded ▸ ranked.traded
  have whole : selected = ranking := by
    rw [first, List.take_of_length_le (by rw [perm.length_eq, hundred])]
  have nodup := distinct selected completes
  rw [whole, (perm.map _).nodup_iff, repeatedRow, List.map_append, List.nodup_append'] at nodup
  have listed : (recordNumber 0).ticker ∈ ((List.range 99).map recordNumber).map (·.ticker) :=
    List.mem_map_of_mem (List.mem_map_of_mem (List.mem_range.mpr (by decide)))
  exact nodup.2.2 listed (List.mem_singleton_self _)

end Imports

end StockMarket
