import Mathlib.Data.List.Induction
import Mathlib.Data.List.Infix
import StockMarket.Deployment.GatewayMetrics
import StockMarket.Library.Outcome

/-! What a scrape reads adds up, in whatever order the calls on the metrics were made. -/

namespace StockMarket

section Calls

variable {α : Type}

namespace MetricsCall

/-- The request that a call starts. -/
def started? : MetricsCall α → Option Nat
  | requestStarted request => some request
  | _ => none

/-- The request that a call finishes. -/
def finished? : MetricsCall α → Option Nat
  | requestFinished request .. => some request
  | _ => none

/-- The duration of a request with a method that a call finishes. -/
def duration? (method : String) : MetricsCall α → Option α
  | requestFinished _ finished _ seconds => if finished = method then some seconds else none
  | _ => none

/-- The duration of a round trip to a shard, whether it failed or not. -/
def upstream? (shard : String) : MetricsCall α → Option α
  | observeUpstream reached seconds _ => if toString reached = shard then some seconds else none
  | _ => none

/-- The time that a call has observed a connection to wait. -/
def acceptWait? : MetricsCall α → Option α
  | observeAcceptWait seconds => some seconds
  | _ => none

end MetricsCall

/-- Every request is started at most once, and finished at most once after it has been started. -/
structure ProperCalls (calls : List (MetricsCall α)) : Prop where
  startedOnce : (calls.filterMap MetricsCall.started?).Nodup
  finishedOnce : (calls.filterMap MetricsCall.finished?).Nodup
  ordered : ∀ first, first <+: calls →
    first.filterMap MetricsCall.finished? ⊆ first.filterMap MetricsCall.started?

/-- No more requests are finished than were started. -/
theorem ProperCalls.finished_le {calls : List (MetricsCall α)} (proper : ProperCalls calls) :
    (calls.filterMap MetricsCall.finished?).length ≤
      (calls.filterMap MetricsCall.started?).length :=
  (List.subperm_of_subset proper.finishedOnce
    (proper.ordered calls List.prefix_rfl)).length_le

end Calls

section Tables

variable {α : Type} [LinearOrder α] [Zero α] [Add α] {bounds values : List α}

/-- A histogram that has counted some values. -/
structure Histogram.Holds (bounds values : List α) (histogram : Histogram α) : Prop where
  bounds_eq : histogram.bounds = bounds
  counts_eq : histogram.counts = Buckets.histogram bounds values
  count_eq : histogram.count = values.length

omit [Add α] in
/-- A new histogram holds no values. -/
theorem Histogram.new_holds (bounds : List α) : (Histogram.new bounds).Holds bounds [] :=
  ⟨rfl, (Buckets.histogram_nil bounds).symm, rfl⟩

omit [Zero α] in
/-- An observed value is counted with those before it. -/
theorem Histogram.Holds.observe {histogram : Histogram α} (holds : histogram.Holds bounds values)
    (value : α) : (histogram.observe value).Holds bounds (values ++ [value]) := by
  refine ⟨holds.bounds_eq, ?_, ?_⟩
  · -- The value is placed in the bucket that counts it.
    show Buckets.place histogram.bounds histogram.counts value = _
    rw [holds.bounds_eq, holds.counts_eq, Buckets.place_histogram]
  · show histogram.count + 1 = _
    rw [holds.count_eq, List.length_append, List.length_singleton]

/-- A table has a histogram for exactly the labels with values, and it has counted those. -/
def Tabled (bounds : List α) (values : String → List α) (table : Dict String (Histogram α)) : Prop :=
  ∀ label, table.get? label = none ∧ values label = [] ∨
    ∃ histogram, table.get? label = some histogram ∧ values label ≠ [] ∧
      histogram.Holds bounds (values label)

/-- A value that is observed under a label belongs to that label. -/
theorem Tabled.observeIn {before after : String → List α} {table : Dict String (Histogram α)}
    (tabled : Tabled bounds before table) {observed : String} {value : α}
    (own : after observed = before observed ++ [value])
    (others : ∀ label, label ≠ observed → after label = before label) :
    Tabled bounds after (GatewayMetrics.observeIn bounds table observed value) := by
  intro label
  unfold GatewayMetrics.observeIn
  rw [Dict.get?_set]
  by_cases same : label = observed
  · -- The histogram of the label is the one before, or a new one.
    subst same
    refine .inr ⟨_, if_pos rfl, by simp [own], ?_⟩
    rw [own]
    rcases tabled label with ⟨missing, nothing⟩ | ⟨histogram, found, _, holds⟩
    · rw [missing, nothing]
      exact (Histogram.new_holds bounds).observe value
    · rw [found]
      exact holds.observe value
  · -- Other labels keep their histograms and their values.
    rw [if_neg same, others label same]
    exact tabled label

/-- Counting once more under a key adds its weight of one. -/
theorem total_countIn {κ : Type} [DecidableEq κ] (table : Dict κ Nat) (key : κ)
    (counted : κ → Bool) :
    (GatewayMetrics.countIn table key).total (fun other count => if counted other then count else 0) =
      table.total (fun other count => if counted other then count else 0) +
        if counted key then 1 else 0 := by
  unfold GatewayMetrics.countIn
  -- The key is counted for the first time, or once more.
  cases found : table.get? key with
  | none =>
    rw [Dict.total_set_new found]
    rfl
  | some count =>
    have replaced := Dict.total_replace found (count + 1)
      (fun other count => if counted other then count else 0)
    rw [Option.getD_some]
    split_ifs at replaced ⊢ <;> omega

end Tables

section Runs

variable {α : Type} [LinearOrder α] [Zero α] [Add α] {bounds : List α}
  {calls : List (MetricsCall α)} {metrics : GatewayMetrics α}

/-- The values that the calls have observed, by what they are observed of. -/
def requestTimes (calls : List (MetricsCall α)) (method : String) : List α :=
  calls.filterMap (MetricsCall.duration? method)

/-- The round trips of a shard, in the order of the calls. -/
def upstreamTimes (calls : List (MetricsCall α)) (shard : String) : List α :=
  calls.filterMap (MetricsCall.upstream? shard)

/-- The waiting times, in the order of the calls. -/
def acceptWaits (calls : List (MetricsCall α)) : List α :=
  calls.filterMap MetricsCall.acceptWait?

/-- Every table agrees with the calls that were made. -/
structure Counted (bounds : List α) (calls : List (MetricsCall α)) (metrics : GatewayMetrics α) :
    Prop where
  requests : ∀ method, metrics.requests.total
    (fun key count => if decide (key.1 = method) then count else 0) =
      (requestTimes calls method).length
  durations : Tabled bounds (requestTimes calls) metrics.durations
  upstream : Tabled bounds (upstreamTimes calls) metrics.upstream
  errors : ∀ shard count, metrics.upstreamErrors.get? shard = some count →
    1 ≤ count ∧ count ≤ (upstreamTimes calls shard).length
  acceptWait : metrics.acceptWait.Holds bounds (acceptWaits calls)
  inFlight : metrics.inFlight = (calls.filterMap MetricsCall.started?).length -
    (calls.filterMap MetricsCall.finished?).length

omit [Add α] in
/-- New metrics have counted nothing. -/
theorem Counted.new (bounds : List α) : Counted bounds [] (GatewayMetrics.new bounds) :=
  ⟨fun _ => rfl, fun _ => .inl ⟨rfl, rfl⟩, fun _ => .inl ⟨rfl, rfl⟩,
    fun _ _ found => absurd found.symm (Option.some_ne_none _), Histogram.new_holds bounds, rfl⟩

omit [LinearOrder α] [Zero α] [Add α] in
/-- One more call contributes what is selected of it, behind what the others contribute. -/
theorem filterMap_concat {β : Type} (chosen : MetricsCall α → Option β) (calls : List (MetricsCall α))
    (call : MetricsCall α) :
    (calls ++ [call]).filterMap chosen = calls.filterMap chosen ++ (chosen call).toList := by
  rw [List.filterMap_append]
  cases found : chosen call with
  | none => rw [List.filterMap_cons_none found]; rfl
  | some value => rw [List.filterMap_cons_some found]; rfl

omit [LinearOrder α] [Zero α] [Add α] in
/-- A call from which nothing is chosen adds nothing. -/
theorem filterMap_concat_none {β : Type} {chosen : MetricsCall α → Option β}
    {calls : List (MetricsCall α)} {call : MetricsCall α} (nothing : chosen call = none) :
    (calls ++ [call]).filterMap chosen = calls.filterMap chosen := by
  rw [filterMap_concat, nothing]
  exact List.append_nil _

omit [LinearOrder α] [Zero α] [Add α] in
/-- A call from which a value is chosen adds the value at the end. -/
theorem filterMap_concat_some {β : Type} {chosen : MetricsCall α → Option β}
    {calls : List (MetricsCall α)} {call : MetricsCall α} {value : β}
    (something : chosen call = some value) :
    (calls ++ [call]).filterMap chosen = calls.filterMap chosen ++ [value] := by
  rw [filterMap_concat, something]
  rfl

omit [Zero α] [Add α] in
/-- A call that observes nothing of a kind leaves what was observed of it. -/
theorem Tabled.kept {values : String → MetricsCall α → Option α} {table : Dict String (Histogram α)}
    (tabled : Tabled bounds (fun label => calls.filterMap (values label)) table)
    {call : MetricsCall α} (nothing : ∀ label, values label call = none) :
    Tabled bounds (fun label => (calls ++ [call]).filterMap (values label)) table := by
  -- For every label, the new call adds no value.
  have same : (fun label => (calls ++ [call]).filterMap (values label)) =
      fun label => calls.filterMap (values label) :=
    funext fun label => filterMap_concat_none (nothing label)
  rw [same]
  exact tabled

/-- The errors of a shard are counted together with its round trips. -/
theorem Counted.errors_observed (counted : Counted bounds calls metrics) (shard : Int) (seconds : α)
    (failed : Bool) (label : String) (count : Nat)
    (found : (metrics.apply bounds (.observeUpstream shard seconds failed)).upstreamErrors.get?
      label = some count) : 1 ≤ count ∧
        count ≤ (upstreamTimes (calls ++ [.observeUpstream shard seconds failed]) label).length := by
  -- The round trip is observed for its shard, whether it failed or not.
  have longer : (upstreamTimes (calls ++ [.observeUpstream shard seconds failed]) label).length =
      (upstreamTimes calls label).length + if toString shard = label then 1 else 0 := by
    rw [upstreamTimes, filterMap_concat, List.length_append, MetricsCall.upstream?]
    split_ifs <;> rfl
  rw [longer]
  -- Only a failure changes the errors.
  cases failed with
  | false =>
    obtain ⟨some_error, bounded⟩ := counted.errors label count found
    exact ⟨some_error, by omega⟩
  | true =>
    have stored : (GatewayMetrics.countIn metrics.upstreamErrors (toString shard)).get? label =
      some count := found
    rw [GatewayMetrics.countIn, Dict.get?_set] at stored
    by_cases same : label = toString shard
    · rw [if_pos same] at stored
      rw [if_pos same.symm, same]
      -- The first error is counted together with its round trip.
      cases before : metrics.upstreamErrors.get? (toString shard) with
      | none =>
        rw [before] at stored
        cases stored
        exact ⟨le_refl 1, Nat.le_add_left 1 _⟩
      | some errors =>
        obtain ⟨_, bounded⟩ := counted.errors _ errors before
        rw [before] at stored
        cases stored
        exact ⟨Nat.le_add_left 1 _, Nat.add_le_add_right bounded 1⟩
    · -- Other shards have the errors that they had.
      rw [if_neg same] at stored
      obtain ⟨some_error, bounded⟩ := counted.errors label count stored
      exact ⟨some_error, by omega⟩

/-- A request is in flight from its start to its finish, whatever else is observed. -/
theorem Counted.inFlight_apply (counted : Counted bounds calls metrics) (call : MetricsCall α) :
    (metrics.apply bounds call).inFlight =
      ((calls ++ [call]).filterMap MetricsCall.started?).length -
        ((calls ++ [call]).filterMap MetricsCall.finished?).length := by
  have before := counted.inFlight
  rw [filterMap_concat, filterMap_concat, List.length_append, List.length_append]
  -- A call starts a request, or finishes one, or does neither.
  cases call with
  | requestStarted request =>
    simp only [GatewayMetrics.apply, MetricsCall.started?, MetricsCall.finished?,
      Option.toList_some, Option.toList_none, List.length_singleton, List.length_nil]
    omega
  | requestFinished request method status seconds =>
    simp only [GatewayMetrics.apply, MetricsCall.started?, MetricsCall.finished?,
      Option.toList_some, Option.toList_none, List.length_singleton, List.length_nil]
    omega
  | observeUpstream shard seconds failed => exact before
  | observeAcceptWait seconds => exact before

/-- Every call keeps the tables in step. -/
theorem Counted.apply (counted : Counted bounds calls metrics) (call : MetricsCall α) :
    Counted bounds (calls ++ [call]) (metrics.apply bounds call) := by
  -- Each call changes one family of numbers, and leaves the others as they were.
  cases call with
  | requestStarted request =>
    refine ⟨fun method => ?_, counted.durations.kept fun _ => rfl,
      counted.upstream.kept fun _ => rfl, fun shard count found => ?_, ?_, ?_⟩
    · rw [requestTimes, filterMap_concat_none rfl]
      exact counted.requests method
    · rw [upstreamTimes, filterMap_concat_none rfl]
      exact counted.errors shard count found
    · rw [acceptWaits, filterMap_concat_none rfl]
      exact counted.acceptWait
    · exact counted.inFlight_apply _
  | requestFinished request method status seconds =>
    refine ⟨fun other => ?_, counted.durations.observeIn ?_ fun other differs => ?_,
      counted.upstream.kept fun _ => rfl, fun shard count found => ?_, ?_, ?_⟩
    · -- The new request counts for its own method, as does its duration.
      show Dict.total (GatewayMetrics.countIn metrics.requests (method, toString status)) _ = _
      rw [total_countIn metrics.requests (method, toString status)
        fun key => decide (key.1 = other), counted.requests other]
      simp only [requestTimes]
      rw [filterMap_concat (MetricsCall.duration? other)]
      by_cases same : method = other <;> simp [MetricsCall.duration?, same]
    · exact filterMap_concat_some (if_pos rfl)
    · exact filterMap_concat_none (if_neg differs.symm)
    · rw [upstreamTimes, filterMap_concat_none rfl]
      exact counted.errors shard count found
    · rw [acceptWaits, filterMap_concat_none rfl]
      exact counted.acceptWait
    · exact counted.inFlight_apply _
  -- A round trip counts for its shard, with an error where it failed.
  | observeUpstream shard seconds failed =>
    refine ⟨fun method => ?_, counted.durations.kept fun _ => rfl,
      counted.upstream.observeIn ?_ fun other differs => ?_, fun label count found => ?_, ?_, ?_⟩
    · rw [requestTimes, filterMap_concat_none rfl]
      exact counted.requests method
    · exact filterMap_concat_some (if_pos rfl)
    · exact filterMap_concat_none (if_neg differs.symm)
    · exact counted.errors_observed shard seconds failed label count found
    · rw [acceptWaits, filterMap_concat_none rfl]
      exact counted.acceptWait
    · exact counted.inFlight_apply _
  -- A wait counts for no method and for no shard.
  | observeAcceptWait seconds =>
    refine ⟨fun method => ?_, counted.durations.kept fun _ => rfl,
      counted.upstream.kept fun _ => rfl, fun shard count found => ?_, ?_, ?_⟩
    · rw [requestTimes, filterMap_concat_none rfl]
      exact counted.requests method
    · rw [upstreamTimes, filterMap_concat_none rfl]
      exact counted.errors shard count found
    · rw [acceptWaits, filterMap_concat MetricsCall.acceptWait?]
      exact counted.acceptWait.observe seconds
    · exact counted.inFlight_apply _

/-- The tables agree with the calls of every run. -/
theorem run_counted (bounds : List α) (calls : List (MetricsCall α)) :
    Counted bounds calls (calls.foldl (GatewayMetrics.apply bounds) (.new bounds)) := by
  -- The induction takes the last call off, as each call follows those before it.
  induction calls using List.reverseRecOn with
  | nil => exact .new bounds
  | append_singleton calls call ih =>
    rw [List.foldl_concat]
    exact ih.apply call

end Runs

section Select

variable {α : Type}

/-- The values of the samples with a name whose labels include some labels. -/
def select (name : String) (labels : List (String × String)) (lines : List (MetricLine α)) :
    List (SampleValue α) :=
  lines.filterMap fun
    | .header .. => none
    | .sample named labelled value =>
      if named = name ∧ labels ⊆ labelled then some value else none

/-- The selected buckets, counts, and numbers. -/
def bucketsOf (values : List (SampleValue α)) : List (WithTop α × Nat) :=
  values.filterMap fun
    | .bucket bound cumulative => some (bound, cumulative)
    | _ => none

/-- The counts among the values of samples. -/
def countsOf (values : List (SampleValue α)) : List Nat :=
  values.filterMap fun
    | .count count => some count
    | _ => none

/-- The numbers among the values of samples. -/
def numbersOf (values : List (SampleValue α)) : List Int :=
  values.filterMap fun
    | .number value => some value
    | _ => none

variable {name : String} {labels : List (String × String)}

/-- Samples are selected from one page after the other. -/
@[simp] theorem select_append (first second : List (MetricLine α)) :
    select name labels (first ++ second) = select name labels first ++ select name labels second :=
  List.filterMap_append

/-- A header is no sample. -/
@[simp] theorem select_header (header kind help : String) :
    select name labels [.header header kind help] = ([] : List (SampleValue α)) := rfl

/-- All samples of some lines have one name. -/
def Family (name : String) (lines : List (MetricLine α)) : Prop :=
  ∀ other labels value, .sample other labels value ∈ lines → other = name

/-- Nothing is selected from a family of another name. -/
theorem Family.select_other {other : String} {lines : List (MetricLine α)}
    (family : Family other lines) (differs : other ≠ name) : select name labels lines = [] := by
  -- Every sample of a family has its name, which is not the one that is selected.
  refine List.filterMap_eq_nil_iff.mpr fun line member => ?_
  cases line with
  | header => rfl
  | sample named labelled value =>
    have same := family named labelled value member
    exact if_neg fun both => differs (same.symm.trans both.1)

/-- Lines that share name and labels are selected together. -/
theorem select_map (named : String) (labelled : List (String × String))
    (values : List (SampleValue α)) : select name labels (values.map (.sample named labelled)) =
      if named = name ∧ labels ⊆ labelled then values else [] := by
  -- The samples share a name and labels, so that all of them are selected or none is.
  unfold select
  rw [List.filterMap_map]
  split_ifs with matching
  · refine (List.filterMap_congr fun value _ => ?_).trans List.filterMap_some
    exact if_pos matching
  · exact List.filterMap_eq_nil_iff.mpr fun value _ => if_neg matching

/-- The first line is selected or not, in front of what is selected of the others. -/
theorem select_cons (named : String) (labelled : List (String × String)) (value : SampleValue α)
    (later : List (MetricLine α)) : select name labels (.sample named labelled value :: later) =
      (if named = name ∧ labels ⊆ labelled then [value] else []) ++ select name labels later := by
  rw [← List.singleton_append, select_append]
  exact congrArg (· ++ _) (select_map named labelled [value])

/-- Lines that are made from items belong to a family when those of each item do. -/
theorem family_flatMap {β : Type} {items : List β} {made : β → List (MetricLine α)}
    (each : ∀ item, Family name (made item)) : Family name (items.flatMap made) := by
  intro named labels value member
  obtain ⟨item, _, inside⟩ := List.mem_flatMap.mp member
  exact each item named labels value inside

/-- Samples under one name are a family. -/
theorem family_map {β : Type} {items : List β} {labelled : β → List (String × String)}
    {value : β → SampleValue α} :
    Family name (items.map fun item => .sample name (labelled item) (value item)) := by
  intro named labels found member
  obtain ⟨item, _, same⟩ := List.mem_map.mp member
  cases same
  rfl

end Select

section Histograms

variable {α : Type} {name : String}

/-- The values of the samples of a histogram. -/
def Histogram.values (histogram : Histogram α) : List (SampleValue α) :=
  (Buckets.cumulate 0 (histogram.bounds.zip histogram.counts)).1.map
      (fun (bound, cumulative) => .bucket ↑bound cumulative) ++
    [.bucket ⊤ ((Buckets.cumulate 0 (histogram.bounds.zip histogram.counts)).2 +
      histogram.counts.getLastD 0), .sum histogram.total, .count histogram.count]

/-- The samples of a histogram carry its values. -/
theorem Histogram.samples_eq (histogram : Histogram α) (labels : List (String × String)) :
    histogram.samples name labels = histogram.values.map (.sample name labels) := by
  rw [samples, values, List.map_append, List.map_map]
  rfl

/-- The samples of a histogram are a family. -/
theorem Histogram.family (histogram : Histogram α) (labels : List (String × String)) :
    Family name (histogram.samples name labels) := by
  rw [samples_eq]
  exact family_map

/-- Of the items of a table, only one has a key. -/
theorem sortedItems_flatMap {κ ν β : Type} [DecidableEq κ] {before : κ → κ → Bool}
    {table : Dict κ ν} (key : κ) {made : κ × ν → List β}
    (others : ∀ item ∈ table.items, item.1 ≠ key → made item = []) :
    (sortedItems before table).flatMap made =
      ((table.get? key).map fun value => made (key, value)).getD [] := by
  have perm : (sortedItems before table).Perm table.items := List.perm_insertionSort _ _
  have unique : ((sortedItems before table).map Prod.fst).Nodup :=
    (perm.map Prod.fst).nodup_iff.mpr table.nodup
  -- Items without the key make nothing, and sorting keeps the keys apart.
  have nothing : ∀ items ⊆ sortedItems before table, key ∉ items.map Prod.fst →
      items.flatMap made = [] := by
    intro items inside absent
    refine List.flatMap_eq_nil_iff.mpr fun item member => ?_
    exact others item (perm.subset (inside member)) fun same =>
      absent (same ▸ List.mem_map_of_mem member)
  cases found : table.get? key with
  | none =>
    refine nothing _ (List.Subset.refl _) fun present => ?_
    obtain ⟨value, stored⟩ := Dict.mem_keys_iff.mp
      (show key ∈ table.keys from (perm.map Prod.fst).subset present)
    rw [found] at stored
    cases stored
  | some value =>
    -- The item stands somewhere, and those before and behind it have other keys.
    have stored := perm.symm.subset (Dict.get?_eq_some_iff.mp found)
    obtain ⟨front, back, split⟩ := List.append_of_mem stored
    rw [split, List.map_append, List.map_cons, List.nodup_append'] at unique
    obtain ⟨_, behind, apart⟩ := unique
    rw [split, List.flatMap_append, List.flatMap_cons,
      nothing front (split ▸ List.subset_append_left _ _) fun present =>
        apart present List.mem_cons_self,
      nothing back
        (split ▸ fun item member => List.mem_append_right _ (List.mem_cons_of_mem _ member))
        (List.nodup_cons.mp behind).1, List.nil_append, List.append_nil]
    rfl

/-- A label selects the histogram of its value from a table. -/
theorem select_table (table : Dict String (Histogram α)) (label key : String) :
    select name [(label, key)] ((sortedItems (· ≤ ·) table).flatMap fun (other, histogram) =>
      histogram.samples name [(label, other)]) =
        ((table.get? key).map Histogram.values).getD [] := by
  -- Of each item, the samples with its own label are selected, and no others.
  have selected : ∀ items : List (String × Histogram α), select name [(label, key)]
      (items.flatMap fun (other, histogram) => histogram.samples name [(label, other)]) =
        items.flatMap fun (other, histogram) => if key = other then histogram.values else [] := by
    intro items
    induction items with
    | nil => rfl
    | cons item later ih =>
      obtain ⟨other, histogram⟩ := item
      rw [List.flatMap_cons, List.flatMap_cons, select_append, ih]
      simp [Histogram.samples_eq, select_map]
  rw [selected, sortedItems_flatMap key fun item _ differs => if_neg differs.symm]
  simp

end Histograms

section Lines

variable {α : Type} {name : String} {labels : List (String × String)}
  (metrics : GatewayMetrics α) (readings : ProcessReadings)

/-- The readings of the process have other names than what the gateway counts. -/
theorem readings_unselected (own : name ∈ [requestsName, durationsName, upstreamName,
    upstreamErrorsName, acceptWaitName, inFlightName]) :
    select name labels (readings.lines : List (MetricLine α)) = [] := by
  have named : ∀ other labelled value,
      (.sample other labelled value : MetricLine α) ∈ readings.lines → other ∈
        ["gateway_threads", "gateway_listen_queue", "process_cpu_seconds_total",
          "process_resident_memory_bytes"] := by
    obtain ⟨threads, listenQueue, cpuSeconds, residentMemory⟩ := readings
    intro other labelled value member
    -- A queue or a memory that could not be read has no line.
    cases listenQueue <;> cases residentMemory <;>
      simp only [ProcessReadings.lines, List.mem_append, List.mem_cons, List.not_mem_nil,
        or_false, reduceCtorEq, false_or, MetricLine.sample.injEq] at member ⊢ <;>
      tauto
  -- None of these names is one of the gateway's own.
  have apart : ∀ other ∈ ["gateway_threads", "gateway_listen_queue", "process_cpu_seconds_total",
      "process_resident_memory_bytes"], other ∉ [requestsName, durationsName, upstreamName,
        upstreamErrorsName, acceptWaitName, inFlightName] := by decide
  refine List.filterMap_eq_nil_iff.mpr fun line member => ?_
  cases line with
  | header => rfl
  | sample other labelled value =>
    have foreign := apart other (named other labelled value member)
    refine if_neg ?_
    rintro ⟨rfl, _⟩
    exact foreign own

/-- The families that the gateway counts, by their names. -/
def GatewayMetrics.families : List (String × List (MetricLine α)) :=
  [(requestsName, metrics.requestLines), (durationsName, metrics.durationLines),
    (upstreamName, metrics.upstreamLines), (upstreamErrorsName, metrics.upstreamErrorLines),
    (acceptWaitName, metrics.acceptWait.samples acceptWaitName []),
    (inFlightName, [.sample inFlightName [] (.number metrics.inFlight)])]

/-- All samples of a family have its name. -/
theorem families_named : ∀ family ∈ metrics.families, Family family.1 family.2 := by
  -- Each family has one name, which is written into all of its samples.
  have requests : Family requestsName metrics.requestLines := by
    intro other labelled value member
    obtain ⟨⟨⟨method, status⟩, count⟩, _, same⟩ := List.mem_map.mp member
    cases same
    rfl
  have errors : Family upstreamErrorsName metrics.upstreamErrorLines := by
    intro other labelled value member
    obtain ⟨⟨shard, count⟩, _, same⟩ := List.mem_map.mp member
    cases same
    rfl
  -- The gauge is a family with one sample.
  have inFlight : Family inFlightName
      ([.sample inFlightName [] (.number metrics.inFlight)] : List (MetricLine α)) := by
    intro other labelled value member
    cases List.mem_singleton.mp member
    rfl
  simp only [GatewayMetrics.families, List.forall_mem_cons]
  exact ⟨requests, family_flatMap fun _ => Histogram.family _ _,
    family_flatMap fun _ => Histogram.family _ _, errors, Histogram.family _ _, inFlight,
    fun _ member => absurd member List.not_mem_nil⟩

/-- Among families with different names, one is selected by its name. -/
theorem select_named {families : List (String × List (MetricLine α))}
    (distinct : (families.map Prod.fst).Nodup)
    (named : ∀ family ∈ families, Family family.1 family.2) {own : List (MetricLine α)}
    (member : (name, own) ∈ families) :
    select name labels (families.flatMap Prod.snd) = select name labels own := by
  -- The family stands somewhere, and those before and behind it have other names.
  have nothing : ∀ others ⊆ families, name ∉ others.map Prod.fst →
      select name labels (others.flatMap Prod.snd) = [] := by
    intro others inside absent
    induction others with
    | nil => rfl
    | cons family later ih =>
      rw [List.map_cons, List.mem_cons, not_or] at absent
      rw [List.flatMap_cons, select_append,
        (named family (inside List.mem_cons_self)).select_other (Ne.symm absent.1),
        ih (fun other more => inside (List.mem_cons_of_mem _ more)) absent.2, List.nil_append]
  -- The family is the only one of its name, so the others give nothing.
  obtain ⟨front, back, rfl⟩ := List.append_of_mem member
  rw [List.map_append, List.map_cons, List.nodup_append'] at distinct
  obtain ⟨_, behind, apart⟩ := distinct
  rw [List.flatMap_append, List.flatMap_cons, select_append, select_append,
    nothing front (List.subset_append_left _ _) fun present => apart present List.mem_cons_self,
    nothing back (fun item there => List.mem_append_right _ (List.mem_cons_of_mem _ there))
      (List.nodup_cons.mp behind).1, List.nil_append, List.append_nil]

/-- What is selected by the name of a family is selected from the family. -/
theorem select_family {own : List (MetricLine α)} (place : Nat)
    (stands : metrics.families[place]? = some (name, own)) :
    select name labels (metrics.lines readings) = select name labels own := by
  -- The families have different names, and the readings have yet others.
  have member := List.mem_of_getElem? stands
  have listed : name ∈ [requestsName, durationsName, upstreamName, upstreamErrorsName,
      acceptWaitName, inFlightName] := List.mem_map_of_mem (f := Prod.fst) member
  have distinct : (metrics.families.map Prod.fst).Nodup :=
    show [requestsName, durationsName, upstreamName, upstreamErrorsName, acceptWaitName,
      inFlightName].Nodup by decide
  rw [← select_named distinct (families_named metrics) member]
  unfold GatewayMetrics.lines
  simp only [select_append, select_header, List.nil_append, List.append_nil,
    readings_unselected readings listed, GatewayMetrics.families, List.flatMap_cons,
    List.flatMap_nil, List.append_assoc]

/-- The histogram of a method is all that its duration samples show. -/
theorem select_durations (method : String) :
    select durationsName [("method", method)] (metrics.lines readings) =
      ((metrics.durations.get? method).map Histogram.values).getD [] :=
  (select_family metrics readings 1 rfl).trans
    (select_table metrics.durations "method" method)

/-- A shard's samples are those of its histogram. -/
theorem select_upstream (shard : String) :
    select upstreamName [("shard", shard)] (metrics.lines readings) =
      ((metrics.upstream.get? shard).map Histogram.values).getD [] :=
  (select_family metrics readings 2 rfl).trans
    (select_table metrics.upstream "shard" shard)

/-- The waiting times have the samples of their histogram. -/
theorem select_acceptWait :
    select acceptWaitName [] (metrics.lines readings) = metrics.acceptWait.values := by
  rw [select_family metrics readings 4 rfl, Histogram.samples_eq, select_map]
  simp

/-- The gauge has one sample. -/
theorem select_inFlight :
    select inFlightName [] (metrics.lines readings) = [.number metrics.inFlight] :=
  select_family metrics readings 5 rfl

/-- The error count of a shard is all that its error samples show. -/
theorem select_errors (shard : String) :
    select upstreamErrorsName [("shard", shard)] (metrics.lines readings) =
      ((metrics.upstreamErrors.get? shard).map fun count => [.number count]).getD [] := by
  rw [select_family metrics readings 3 rfl]
  -- The samples of a shard are found by going through the items one by one.
  have selected : ∀ items : List (String × Nat), select upstreamErrorsName [("shard", shard)]
      (items.map fun item =>
        .sample upstreamErrorsName [("shard", item.1)] (.number item.2)) =
      items.flatMap fun item =>
        if shard = item.1 then [(.number item.2 : SampleValue α)] else [] := by
    intro items
    induction items with
    | nil => rfl
    | cons item later ih =>
      rw [List.map_cons, List.flatMap_cons, select_cons, ih]
      simp
  -- The lines are the sorted items, one line for each.
  have listed : metrics.upstreamErrorLines =
      (sortedItems (· ≤ ·) metrics.upstreamErrors).map fun item =>
        .sample upstreamErrorsName [("shard", item.1)] (.number item.2) := rfl
  rw [listed, selected, sortedItems_flatMap shard fun item _ differs => if_neg differs.symm]
  simp

/-- The requests of a method are summed up over their statuses. -/
theorem sum_requests (method : String) :
    (numbersOf (select requestsName [("method", method)] (metrics.lines readings))).sum =
      metrics.requests.total fun key count => if decide (key.1 = method) then count else 0 := by
  -- Each item of the method adds its count to the sum.
  have selected : ∀ items : List ((String × String) × Nat),
      (numbersOf (select (α := α) requestsName [("method", method)]
        (items.map fun item =>
          .sample requestsName [("method", item.1.1), ("status", item.1.2)]
            (.number item.2)))).sum =
        ((items.map fun item => if decide (item.1.1 = method) then item.2 else 0).sum : Nat) := by
    intro items
    induction items with
    | nil => rfl
    | cons item later ih =>
      rw [List.map_cons, List.map_cons, List.sum_cons, select_cons, numbersOf,
        List.filterMap_append, List.sum_append, Nat.cast_add, ← ih]
      -- An item of another method is not selected.
      by_cases same : item.1.1 = method
      · simp [numbersOf, same]
      · simp [numbersOf, same, Ne.symm same]
  have listed : metrics.requestLines = (sortedItems (fun first second =>
      first.1 < second.1 ∨ first.1 = second.1 ∧ first.2 ≤ second.2) metrics.requests).map
        fun item => .sample requestsName [("method", item.1.1), ("status", item.1.2)]
          (.number item.2) := rfl
  -- Sorting the items does not change their sum.
  rw [select_family metrics readings 0 rfl, listed, selected]
  exact congrArg _ ((List.perm_insertionSort _ _).map _).sum_eq

end Lines

section Scrapes

variable {α : Type} [LinearOrder α] [Zero α] [Add α] {bounds values : List α}
  {calls : List (MetricsCall α)}

/-- The number of values up to a bound, which may be no bound at all. -/
def countUpTo (values : List α) (bound : WithTop α) : Nat :=
  values.countP fun (value : α) => (↑value : WithTop α) ≤ bound

/-- The samples of a histogram agree with the values that were observed. -/
structure HistogramAddsUp (bounds values : List α) (samples : List (SampleValue α)) : Prop where
  /-- Each bucket counts the values up to its bound, and the last one counts all. -/
  buckets : bucketsOf samples =
    (bounds.map WithTop.some ++ [⊤]).map fun bound => (bound, countUpTo values bound)
  nondecreasing : ((bucketsOf samples).map Prod.snd).Pairwise (· ≤ ·)
  infinite : ∃ count, countsOf samples = [count] ∧
    (bucketsOf samples).getLast? = some (⊤, count)

/-- The lines of a scrape agree with the calls that were made before it. -/
structure AddsUp (bounds : List α) (calls : List (MetricsCall α)) (lines : List (MetricLine α)) :
    Prop where
  durations : ∀ method, requestTimes calls method ≠ [] →
    HistogramAddsUp bounds (requestTimes calls method)
      (select durationsName [("method", method)] lines)
  upstream : ∀ shard, upstreamTimes calls shard ≠ [] →
    HistogramAddsUp bounds (upstreamTimes calls shard)
      (select upstreamName [("shard", shard)] lines)
  acceptWait : HistogramAddsUp bounds (acceptWaits calls) (select acceptWaitName [] lines)
  /-- What was never observed has no samples. -/
  unobserved : ∀ label,
    (requestTimes calls label = [] → select durationsName [("method", label)] lines = []) ∧
    (upstreamTimes calls label = [] → select upstreamName [("shard", label)] lines = [])
  /-- The requests of a method, over all statuses, are those whose duration was counted. -/
  requests : ∀ method, (numbersOf (select requestsName [("method", method)] lines)).sum =
    (countsOf (select durationsName [("method", method)] lines)).sum
  errors : ∀ shard, ∀ failed ∈ numbersOf (select upstreamErrorsName [("shard", shard)] lines),
    ∃ count ∈ countsOf (select upstreamName [("shard", shard)] lines), failed ≤ count
  inFlight : numbersOf (select inFlightName [] lines) =
    [((calls.filterMap MetricsCall.started?).length : Int) -
      (calls.filterMap MetricsCall.finished?).length]
  inFlight_nonneg : ∀ value ∈ numbersOf (select inFlightName [] lines), 0 ≤ value

omit [LinearOrder α] [Zero α] [Add α] in
/-- The counts and the buckets among the values of a histogram. -/
theorem countsOf_values (histogram : Histogram α) :
    countsOf histogram.values = [histogram.count] := by
  -- The buckets come first, and they are no counts.
  rw [Histogram.values, countsOf, List.filterMap_append]
  refine (congrArg (· ++ _) (List.filterMap_eq_nil_iff.mpr fun value member => ?_)).trans
    (List.nil_append _)
  obtain ⟨bucket, _, rfl⟩ := List.mem_map.mp member
  rfl

omit [LinearOrder α] [Zero α] [Add α] in
/-- The buckets among the values of a histogram are its cumulated counts. -/
theorem bucketsOf_values (histogram : Histogram α) : bucketsOf histogram.values =
    (Buckets.cumulate 0 (histogram.bounds.zip histogram.counts)).1.map
        (fun (bound, cumulative) => ((bound : WithTop α), cumulative)) ++
      [((⊤ : WithTop α), (Buckets.cumulate 0 (histogram.bounds.zip histogram.counts)).2 +
        histogram.counts.getLastD 0)] := by
  rw [Histogram.values, bucketsOf, List.filterMap_append, List.filterMap_map]
  refine congrArg (· ++ _) ?_
  rw [← List.filterMap_eq_map]
  rfl

omit [Zero α] [Add α] in
/-- The samples of a histogram with increasing bounds agree with what it has counted. -/
theorem Histogram.Holds.addsUp {histogram : Histogram α} (holds : histogram.Holds bounds values)
    (increasing : bounds.Pairwise (· < ·)) :
    HistogramAddsUp bounds values histogram.values := by
  -- The cumulated counts are those of the values up to each bound.
  obtain ⟨sums, total⟩ := Buckets.cumulate_histogram increasing 0 values
  rw [Nat.zero_add] at total
  have buckets : bucketsOf histogram.values =
      (bounds.map WithTop.some ++ [⊤]).map fun bound => (bound, countUpTo values bound) := by
    rw [bucketsOf_values, holds.bounds_eq, holds.counts_eq, sums, total]
    simp [countUpTo]
  refine ⟨buckets, ?_, histogram.count, countsOf_values histogram, ?_⟩
  · -- Larger bounds count more values, and no bound counts more than all.
    rw [buckets, List.map_map, List.pairwise_map]
    have ordered : (bounds.map WithTop.some ++ [⊤]).Pairwise (· ≤ ·) := by
      refine List.pairwise_append.mpr ⟨?_, List.pairwise_singleton _ _, ?_⟩
      · exact List.pairwise_map.mpr (increasing.imp fun less => WithTop.coe_le_coe.mpr less.le)
      · rintro bound _ top member
        rw [List.mem_singleton.mp member]
        exact le_top
    refine ordered.imp fun less => List.countP_mono_left fun value _ below => ?_
    exact decide_eq_true ((of_decide_eq_true below).trans less)
  · rw [bucketsOf_values, holds.bounds_eq, holds.counts_eq, total, holds.count_eq,
      List.getLast?_append_of_ne_nil _ (List.cons_ne_nil _ _)]
    rfl

omit [Zero α] [Add α] in
/-- The histogram that a table has for a label agrees with the values of the label. -/
theorem Tabled.addsUp {values : String → List α} {table : Dict String (Histogram α)}
    (tabled : Tabled bounds values table) (increasing : bounds.Pairwise (· < ·)) (label : String)
    (observed : values label ≠ []) :
    HistogramAddsUp bounds (values label) (((table.get? label).map Histogram.values).getD []) := by
  rcases tabled label with ⟨_, nothing⟩ | ⟨histogram, found, _, holds⟩
  · exact absurd nothing observed
  · rw [found]
    exact holds.addsUp increasing

omit [Zero α] [Add α] in
/-- A label without values has no samples. -/
theorem Tabled.unobserved {values : String → List α} {table : Dict String (Histogram α)}
    (tabled : Tabled bounds values table) (label : String) (nothing : values label = []) :
    ((table.get? label).map Histogram.values).getD [] = [] := by
  rcases tabled label with ⟨missing, _⟩ | ⟨_, _, something, _⟩
  · rw [missing]
    rfl
  · exact absurd nothing something

omit [Zero α] [Add α] in
/-- The counts that a table shows for a label sum up to the number of its values. -/
theorem Tabled.counts {values : String → List α} {table : Dict String (Histogram α)}
    (tabled : Tabled bounds values table) (label : String) :
    countsOf (((table.get? label).map Histogram.values).getD []) =
      if values label = [] then [] else [(values label).length] := by
  -- Either nothing was observed under the label, or its histogram holds the values.
  rcases tabled label with ⟨missing, nothing⟩ | ⟨histogram, found, something, holds⟩
  · rw [missing, if_pos nothing]
    rfl
  · rw [found, if_neg something, ← holds.count_eq]
    exact countsOf_values histogram

/--
Whatever is observed in whatever order, a scrape shows histograms whose buckets count the values up to
their bounds, and counters that agree with them.
-/
theorem scrape_adds_up (increasing : bounds.Pairwise (· < ·)) (proper : ProperCalls calls)
    (readings : ProcessReadings) : AddsUp bounds calls
      ((calls.foldl (GatewayMetrics.apply bounds) (.new bounds)).lines readings) := by
  -- What is shown is what is counted, and what is counted are the calls.
  have counted := run_counted bounds calls
  generalize calls.foldl (GatewayMetrics.apply bounds) (.new bounds) = metrics at counted
  refine ⟨fun method observed => ?_, fun shard observed => ?_, ?_, fun label => ⟨?_, ?_⟩,
    fun method => ?_, fun shard failed member => ?_, ?_, fun value member => ?_⟩
  · rw [select_durations]
    exact counted.durations.addsUp increasing method observed
  · rw [select_upstream]
    exact counted.upstream.addsUp increasing shard observed
  · rw [select_acceptWait]
    exact counted.acceptWait.addsUp increasing
  · rw [select_durations]
    exact counted.durations.unobserved label
  · rw [select_upstream]
    exact counted.upstream.unobserved label
  · -- The requests of a method are as many as its durations.
    rw [sum_requests, counted.requests, select_durations, counted.durations.counts]
    split_ifs with nothing
    · rw [nothing]
      rfl
    · rw [List.sum_singleton]
  · -- A shard with errors has been reached, and so its round trips are shown.
    rw [select_errors] at member
    rw [select_upstream, counted.upstream.counts]
    cases found : metrics.upstreamErrors.get? shard with
    | none =>
      rw [found] at member
      exact absurd member List.not_mem_nil
    | some count =>
      rw [found] at member
      obtain ⟨some_error, bounded⟩ := counted.errors shard count found
      obtain rfl : failed = count := List.mem_singleton.mp member
      rw [if_neg (List.ne_nil_of_length_pos (some_error.trans bounded))]
      exact ⟨_, List.mem_singleton_self _, Int.ofNat_le.mpr bounded⟩
  · -- The gauge is what has started less what has finished.
    rw [select_inFlight, counted.inFlight]
    rfl
  · rw [select_inFlight] at member
    obtain rfl : value = metrics.inFlight := List.mem_singleton.mp member
    -- No more requests are finished than were started.
    have bounded := proper.finished_le
    rw [counted.inFlight]
    omega

end Scrapes

/-- Two requests that overlap, with a round trip that fails exactly at a bound. -/
def overlapping : List (MetricsCall Int) :=
  [.requestStarted 0, .observeAcceptWait 0, .requestStarted 1, .observeUpstream 1 5 true,
    .requestFinished 1 "POST" 502 6, .observeUpstream 0 1 false, .requestFinished 0 "POST" 201 2]

/-- Two requests that overlap, one of them failed. -/
theorem scrape_adds_up_overlapping : AddsUp [1, 5] overlapping
    ((overlapping.foldl (GatewayMetrics.apply [1, 5]) (.new [1, 5])).lines
      ⟨3, none, "0.120", none⟩) := by
  have ordered : ∀ first ∈ overlapping.inits, first.filterMap MetricsCall.finished? ⊆
      first.filterMap MetricsCall.started? := by decide
  exact scrape_adds_up (by decide) ⟨by decide, by decide,
    fun first start => ordered first ((List.mem_inits _ _).mpr start)⟩ _

end StockMarket
