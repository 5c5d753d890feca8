import Mathlib.Data.List.Sort
import Mathlib.Order.WithBot
import StockMarket.Library.Buckets
import StockMarket.Library.Dict

/-! The metrics of the gateway: histograms and counters behind one lock, and their text format. -/

namespace StockMarket

section Histogram

variable {α : Type} [LinearOrder α] [Zero α] [Add α]

/-- Observed values by buckets, of which the last one has no bound, and their sum and number. -/
structure Histogram (α : Type) where
  bounds : List α
  counts : List Nat
  total : α
  count : Nat
  counts_length : counts.length = bounds.length + 1

namespace Histogram

omit [LinearOrder α] [Add α] in
/-- A histogram without observations. -/
def new (bounds : List α) : Histogram α where
  bounds := bounds
  counts := List.replicate (bounds.length + 1) 0
  total := 0
  count := 0
  counts_length := List.length_replicate

omit [Zero α] in
/-- A value that equals a bound goes into the bucket of that bound. -/
def observe (histogram : Histogram α) (value : α) : Histogram α where
  bounds := histogram.bounds
  counts := Buckets.place histogram.bounds histogram.counts value
  total := histogram.total + value
  count := histogram.count + 1
  counts_length := by rw [Buckets.place, List.length_modify, histogram.counts_length]

end Histogram

end Histogram

/-- What is measured; every method runs under one lock, so that calls happen one by one. -/
structure GatewayMetrics (α : Type) where
  requests : Dict (String × String) Nat
  durations : Dict String (Histogram α)
  upstream : Dict String (Histogram α)
  upstreamErrors : Dict String Nat
  acceptWait : Histogram α
  inFlight : Int

/-- The calls on the metrics; requests are named here to tell which call belongs to which. -/
inductive MetricsCall (α : Type) where
  | requestStarted (request : Nat)
  | requestFinished (request : Nat) (method : String) (status : Int) (seconds : α)
  | observeUpstream (shard : Int) (seconds : α) (failed : Bool)
  | observeAcceptWait (seconds : α)

namespace GatewayMetrics

variable {α : Type} [LinearOrder α] [Zero α] [Add α] (bounds : List α)

omit [LinearOrder α] [Add α] in
/-- Metrics whose histograms all have the same bounds. -/
def new : GatewayMetrics α := ⟨.empty, .empty, .empty, .empty, .new bounds, 0⟩

/-- Observe a value in the histogram of a label, which is created when it is missing. -/
def observeIn (table : Dict String (Histogram α)) (label : String) (value : α) :
    Dict String (Histogram α) :=
  table.set label (((table.get? label).getD (.new bounds)).observe value)

/-- Count once more under a key. -/
def countIn {κ : Type} [DecidableEq κ] (table : Dict κ Nat) (key : κ) : Dict κ Nat :=
  table.set key ((table.get? key).getD 0 + 1)

/-- Apply one call. -/
def apply (metrics : GatewayMetrics α) : MetricsCall α → GatewayMetrics α
  | .requestStarted _ => { metrics with inFlight := metrics.inFlight + 1 }
  | .requestFinished _ method status seconds =>
    { metrics with
      inFlight := metrics.inFlight - 1
      requests := countIn metrics.requests (method, toString status)
      durations := observeIn bounds metrics.durations method seconds }
  | .observeUpstream shard seconds failed =>
    { metrics with
      upstream := observeIn bounds metrics.upstream (toString shard) seconds
      upstreamErrors := if failed then countIn metrics.upstreamErrors (toString shard)
        else metrics.upstreamErrors }
  | .observeAcceptWait seconds =>
    { metrics with acceptWait := metrics.acceptWait.observe seconds }

end GatewayMetrics

/-- The value of a sample: a bucket up to its bound, a sum, a count, a number, or a reading. -/
inductive SampleValue (α : Type) where
  | bucket (bound : WithTop α) (cumulative : Nat)
  | sum (total : α)
  | count (count : Nat)
  | number (value : Int)
  | reading (text : String)

/-- A line of the metrics, or the two lines that describe what follows. -/
inductive MetricLine (α : Type) where
  | header (name kind help : String)
  | sample (name : String) (labels : List (String × String)) (value : SampleValue α)

/-- What the process is asked for while it renders. -/
structure ProcessReadings where
  threads : Int
  listenQueue : Option Int
  cpuSeconds : String
  residentMemory : Option Int

section Render

variable {α : Type}

/-- The samples of a histogram, with counts that include those of all smaller bounds. -/
def Histogram.samples (name : String) (labels : List (String × String)) (histogram : Histogram α) :
    List (MetricLine α) :=
  let (buckets, cumulative) := Buckets.cumulate 0 (histogram.bounds.zip histogram.counts)
  buckets.map (fun (bound, cumulative) => .sample name labels (.bucket ↑bound cumulative)) ++
    [.sample name labels (.bucket ⊤ (cumulative + histogram.counts.getLastD 0)),
      .sample name labels (.sum histogram.total), .sample name labels (.count histogram.count)]

/-- The items of a table by their keys. -/
def sortedItems {κ ν : Type} (before : κ → κ → Bool) (table : Dict κ ν) : List (κ × ν) :=
  table.items.insertionSort fun first second => before first.1 second.1

/-- The counter of requests. -/
def requestsName : String := "gateway_requests_total"

/-- The histogram of how long requests take. -/
def durationsName : String := "gateway_request_duration_seconds"

/-- The histogram of how long matchers take. -/
def upstreamName : String := "gateway_upstream_duration_seconds"

/-- The counter of round trips that failed. -/
def upstreamErrorsName : String := "gateway_upstream_errors_total"

/-- The histogram of how long connections wait for their threads. -/
def acceptWaitName : String := "gateway_accept_wait_seconds"

/-- The gauge of requests that are handled right now. -/
def inFlightName : String := "gateway_in_flight_requests"

/-- The lines about the process, of which those without a reading are left out. -/
def ProcessReadings.lines (readings : ProcessReadings) : List (MetricLine α) :=
  [.header "gateway_threads" "gauge" "Live Python threads in the gateway process.",
    .sample "gateway_threads" [] (.number readings.threads)] ++
  (match readings.listenQueue with
    | none => []
    | some queue =>
      [.header "gateway_listen_queue" "gauge"
          "Connections accepted by the kernel but not yet by the gateway (ss Recv-Q).",
        .sample "gateway_listen_queue" [] (.number queue)]) ++
  [.header "process_cpu_seconds_total" "counter" "User and system CPU time of the gateway.",
    .sample "process_cpu_seconds_total" [] (.reading readings.cpuSeconds)] ++
  (match readings.residentMemory with
    | none => []
    | some bytes =>
      [.header "process_resident_memory_bytes" "gauge" "Resident memory of the gateway.",
        .sample "process_resident_memory_bytes" [] (.number bytes)])

section Families

variable (metrics : GatewayMetrics α)

/-- The requests by method and status, in order. -/
def GatewayMetrics.requestLines : List (MetricLine α) :=
  (sortedItems (fun first second => first.1 < second.1 ∨ first.1 = second.1 ∧ first.2 ≤ second.2)
    metrics.requests).map fun ((method, status), value) =>
      .sample requestsName [("method", method), ("status", status)] (.number value)

/-- The durations by method, in order. -/
def GatewayMetrics.durationLines : List (MetricLine α) :=
  (sortedItems (· ≤ ·) metrics.durations).flatMap fun (method, histogram) =>
    histogram.samples durationsName [("method", method)]

/-- The round trips by shard, in order. -/
def GatewayMetrics.upstreamLines : List (MetricLine α) :=
  (sortedItems (· ≤ ·) metrics.upstream).flatMap fun (shard, histogram) =>
    histogram.samples upstreamName [("shard", shard)]

/-- The failed round trips by shard, in order. -/
def GatewayMetrics.upstreamErrorLines : List (MetricLine α) :=
  (sortedItems (· ≤ ·) metrics.upstreamErrors).map fun (shard, value) =>
    .sample upstreamErrorsName [("shard", shard)] (.number value)

end Families

/-- All lines, one family of samples after the other. -/
def GatewayMetrics.lines (metrics : GatewayMetrics α) (readings : ProcessReadings) :
    List (MetricLine α) :=
  [.header requestsName "counter" "Requests answered by the gateway."] ++
  metrics.requestLines ++
  [.header durationsName "histogram"
    "From the handler starting to the response written, by method."] ++
  metrics.durationLines ++
  [.header upstreamName "histogram" "Matcher round trip (connect, request, read) by shard."] ++
  metrics.upstreamLines ++
  [.header upstreamErrorsName "counter" "Matcher round trips that failed (502)."] ++
  metrics.upstreamErrorLines ++
  [.header acceptWaitName "histogram"
    "From accept() to the handler thread starting. Grows when threads wait for the GIL."] ++
  metrics.acceptWait.samples acceptWaitName [] ++
  [.header inFlightName "gauge" "Requests being handled right now."] ++
  [.sample inFlightName [] (.number metrics.inFlight)] ++
  readings.lines

/-- The labels of a sample between braces, or nothing when it has none. -/
def labelText (labels : List (String × String)) : String :=
  if labels = [] then ""
  else "\x7b" ++ ",".intercalate (labels.map fun (name, value) => name ++ "=\"" ++ value ++ "\"") ++
    "\x7d"

/-- A line as text, given how values of the linear order and their sums are written. -/
def MetricLine.text (write writeSum : α → String) : MetricLine α → List String
  | .header name kind help => ["# HELP " ++ name ++ " " ++ help, "# TYPE " ++ name ++ " " ++ kind]
  | .sample name labels (.bucket bound cumulative) =>
    let le := match bound with
      | ⊤ => "+Inf"
      | (value : α) => write value
    [name ++ "_bucket" ++ labelText (labels ++ [("le", le)]) ++ " " ++ toString cumulative]
  | .sample name labels (.sum total) => [name ++ "_sum" ++ labelText labels ++ " " ++ writeSum total]
  | .sample name labels (.count count) =>
    [name ++ "_count" ++ labelText labels ++ " " ++ toString count]
  | .sample name labels (.number value) => [name ++ labelText labels ++ " " ++ toString value]
  | .sample name labels (.reading text) => [name ++ labelText labels ++ " " ++ text]

/-- The page that a scrape reads. -/
def GatewayMetrics.render (write writeSum : α → String) (metrics : GatewayMetrics α)
    (readings : ProcessReadings) : String :=
  "\n".intercalate ((metrics.lines readings).flatMap (MetricLine.text write writeSum)) ++ "\n"

end Render

end StockMarket
