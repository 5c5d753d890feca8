import Mathlib.Data.List.Induction
import StockMarket.Library.Machine
import StockMarket.Matcher.NextOpen

/-! The loop of a runner follows the market: it ticks while it is open, and cleans up at its close. -/

namespace StockMarket

/-- The session flag of a runner, with the number of times that it was switched. -/
structure SessionFlag where
  marketSessionOpen : Bool
  openTransitions : Nat
  closeTransitions : Nat
  deriving DecidableEq

/-- Switch the flag; setting it to what it is counts nothing. -/
def SessionFlag.setMarketSessionOpen (flag : SessionFlag) (isOpen : Bool) : SessionFlag :=
  if flag.marketSessionOpen = isOpen then flag
  else if isOpen then
    { flag with marketSessionOpen := true, openTransitions := flag.openTransitions + 1 }
  else { flag with marketSessionOpen := false, closeTransitions := flag.closeTransitions + 1 }

/-- The calls of the loop; durations are in microseconds. -/
inductive LoopCall where
  | setMarketSessionOpen (isOpen : Bool)
  | tickOnce
  | cancelAllOpenOrders
  | wait (duration : Int)
  | close
  deriving DecidableEq

/-- What one iteration meets: the stop event at its head, the wall clock, and the stop event later. -/
structure LoopLook where
  stopSet : Bool
  wallNow : Int
  stopWaits : Bool

/-- The loop of the session, with what it has done. -/
structure SessionLoop where
  wasOpen : Bool
  flag : SessionFlag
  stopped : Bool
  deriving DecidableEq

namespace SessionLoop

/-- The loop of a runner that has not been used. -/
def start : SessionLoop := ⟨false, ⟨false, 0, 0⟩, false⟩

/-- Leave the loop; the orders are canceled, and the pool is shut down. -/
def stop (loop : SessionLoop) : SessionLoop × List LoopCall :=
  ({ loop with stopped := true }, [.cancelAllOpenOrders, .close])

/-- Wait for a time, or until the loop has to be left. -/
def wait (loop : SessionLoop) (duration : Int) (look : LoopLook) : SessionLoop × List LoopCall :=
  if look.stopWaits then (loop.stop.1, .wait duration :: loop.stop.2)
  else (loop, [.wait duration])

/-- Switch the session on or off, as the market was found, and say so to the runner. -/
def follow (loop : SessionLoop) (isOpen : Bool) : SessionLoop :=
  { loop with wasOpen := isOpen, flag := loop.flag.setMarketSessionOpen isOpen }

/-- One iteration. -/
def iterate (mode : MarketMode) (tickIntervalMs : Int) (loop : SessionLoop) (look : LoopLook) :
    SessionLoop × List LoopCall :=
  if loop.stopped then (loop, [])
  else if look.stopSet then loop.stop
  else if ¬ isOpen mode look.wallNow then
    let (loop, closing) :=
      if loop.wasOpen then
        (loop.follow false, [LoopCall.cancelAllOpenOrders, .setMarketSessionOpen false])
      else (loop, [])
    let (loop, waiting) :=
      loop.wait (max 1000 (nextOpen mode look.wallNow - look.wallNow)) look
    (loop, closing ++ waiting)
  else
    let (loop, opening) :=
      if ¬ loop.wasOpen then (loop.follow true, [LoopCall.setMarketSessionOpen true])
      else (loop, [])
    let (loop, waiting) := loop.wait (tickIntervalMs * 1000) look
    (loop, opening ++ .tickOnce :: waiting)

/-- The loop after a number of iterations, with the calls of each. -/
def ran (mode : MarketMode) (tickIntervalMs : Int) (looks : List LoopLook) :
    SessionLoop × List (List LoopCall) :=
  Machine.runTotal (iterate mode tickIntervalMs) start looks

end SessionLoop

/-- Whether an iteration finds the stop event set. -/
def LoopLook.stops (look : LoopLook) : Bool := look.stopSet || look.stopWaits

/-- The readings that the loop acts on, each open or closed, until it stops. -/
def readings (mode : MarketMode) : List LoopLook → List Bool
  | [] => []
  | look :: later =>
    if look.stopSet then []
    else isOpen mode look.wallNow :: if look.stopWaits then [] else readings mode later

/-- Whether the market was open at the last reading. -/
def lastOpen (readings : List Bool) : Bool := readings.getLast?.getD false

/-- How often an open reading is followed by a closed one. -/
def closings : List Bool → Nat
  | first :: second :: later => (first && !second).toNat + closings (second :: later)
  | _ => 0

section Readings

/-- A loop that has not stopped acts on one more reading, unless it stops first. -/
theorem readings_concat (mode : MarketMode) (looks : List LoopLook) (look : LoopLook) :
    readings mode (looks ++ [look]) = readings mode looks ++
      if looks.any LoopLook.stops || look.stopSet then [] else [isOpen mode look.wallNow] := by
  induction looks with
  | nil =>
    simp only [List.nil_append, readings, List.any_nil, Bool.false_or]
    split_ifs <;> rfl
  | cons first later ih =>
    -- The loop may stop at the head of the first iteration, or at its end.
    obtain ⟨_ | _, wallNow, _ | _⟩ := first
    · simpa [readings, LoopLook.stops] using ih
    · simp [readings, LoopLook.stops]
    · simp [readings, LoopLook.stops]
    · simp [readings, LoopLook.stops]

/-- One more reading is the last one. -/
@[simp] theorem lastOpen_concat (known : List Bool) (opened : Bool) :
    lastOpen (known ++ [opened]) = opened := by
  simp [lastOpen]

/-- One more reading closes the market if it was open before. -/
theorem closings_concat (known : List Bool) (opened : Bool) :
    closings (known ++ [opened]) = closings known + (lastOpen known && !opened).toNat := by
  induction known with
  | nil => rfl
  | cons first later ih =>
    cases later with
    | nil => simp [closings, lastOpen]
    | cons second later =>
      -- The last reading of a longer list is that of its tail.
      have same : lastOpen (first :: second :: later) = lastOpen (second :: later) := by
        simp [lastOpen]
      rw [same]
      simp only [List.cons_append, closings] at ih ⊢
      omega

end Readings

namespace SessionLoop

section Iterations

variable (mode : MarketMode) (tickIntervalMs : Int)

omit mode tickIntervalMs in
/-- Waiting cancels the orders only if the stop event is set meanwhile. -/
theorem wait_counts (loop : SessionLoop) (duration : Int) (look : LoopLook) :
    (loop.wait duration look).1 = { loop with stopped := loop.stopped || look.stopWaits } ∧
      (loop.wait duration look).2.count .tickOnce = 0 ∧
      (loop.wait duration look).2.count .cancelAllOpenOrders = look.stopWaits.toNat := by
  obtain ⟨wasOpen, flag, stopped⟩ := loop
  unfold wait
  -- The stop event ends the wait, and the orders are cancelled then.
  cases look.stopWaits with
  | true => exact ⟨by simp [stop], rfl, rfl⟩
  | false => exact ⟨by simp, rfl, rfl⟩

/-- What one iteration does to the loop. -/
theorem iterate_loop {loop : SessionLoop} (agrees : loop.flag.marketSessionOpen = loop.wasOpen)
    (look : LoopLook) :
    (loop.iterate mode tickIntervalMs look).1 =
      if loop.stopped || look.stopSet then { loop with stopped := true }
      else { loop.follow (isOpen mode look.wallNow) with stopped := look.stopWaits } := by
  unfold iterate
  cases ended : loop.stopped with
  | true =>
    obtain ⟨wasOpen, flag, stopped⟩ := loop
    cases ended
    rfl
  | false =>
    cases look.stopSet with
    | true => rfl
    | false =>
      simp only [Bool.false_eq_true, if_false, Bool.or_false]
      -- A reading that changes nothing leaves the flag as it is.
      have unchanged : loop.wasOpen = isOpen mode look.wallNow →
          loop.follow (isOpen mode look.wallNow) = loop := by
        intro same
        rw [← same, follow, SessionFlag.setMarketSessionOpen, if_pos agrees]
      -- What is left are the four pairs of the reading before and this one.
      cases opened : isOpen mode look.wallNow with
      | true =>
        cases was : loop.wasOpen with
        | true =>
          rw [opened] at unchanged
          simp [wait_counts, unchanged was, ended]
        | false => simp [wait_counts, follow, ended]
      | false =>
        cases was : loop.wasOpen with
        | true => simp [wait_counts, follow, ended]
        | false =>
          rw [opened] at unchanged
          simp [wait_counts, unchanged was, ended]

/-- One iteration ticks once if it finds the market open, and not otherwise. -/
theorem iterate_ticks (loop : SessionLoop) (look : LoopLook) :
    (loop.iterate mode tickIntervalMs look).2.count .tickOnce =
      (!loop.stopped && !look.stopSet && isOpen mode look.wallNow).toNat := by
  -- A loop that has stopped, or stops at its head, does not look at the market.
  unfold iterate
  cases loop.stopped with
  | true => rfl
  | false =>
    cases look.stopSet with
    | true => rfl
    | false =>
      cases isOpen mode look.wallNow <;> cases loop.wasOpen <;> simp [wait_counts]

/-- One iteration cancels the orders once if it finds the market closed, and once if it stops. -/
theorem iterate_cancels (loop : SessionLoop) (look : LoopLook) :
    (loop.iterate mode tickIntervalMs look).2.count .cancelAllOpenOrders =
      (!loop.stopped && !look.stopSet && loop.wasOpen && !isOpen mode look.wallNow).toNat +
        (!loop.stopped && look.stops).toNat := by
  -- The loop cancels when it stops and when the market has just closed.
  unfold iterate LoopLook.stops
  cases loop.stopped with
  | true => rfl
  | false =>
    cases look.stopSet with
    | true => rfl
    | false =>
      cases isOpen mode look.wallNow with
      | true => cases loop.wasOpen <;> simp [wait_counts]
      | false => cases loop.wasOpen <;> simp [wait_counts, Nat.add_comm]

end Iterations

/-- A loop that follows its readings, with the calls that it has made so far. -/
structure FollowsReadings (mode : MarketMode) (looks : List LoopLook) (loop : SessionLoop)
    (calls : List LoopCall) : Prop where
  stopped_eq : loop.stopped = looks.any LoopLook.stops
  wasOpen_eq : loop.wasOpen = lastOpen (readings mode looks)
  flag_eq : loop.flag.marketSessionOpen = loop.wasOpen
  balanced : loop.flag.openTransitions = loop.flag.closeTransitions + loop.wasOpen.toNat
  cancels : calls.count .cancelAllOpenOrders =
    closings (readings mode looks) + (looks.any LoopLook.stops).toNat

section Runs

variable (mode : MarketMode) (tickIntervalMs : Int)

omit mode tickIntervalMs in
/-- A flag that is switched counts the switch on one side. -/
theorem setMarketSessionOpen_spec {flag : SessionFlag} {was : Bool}
    (agrees : flag.marketSessionOpen = was)
    (balanced : flag.openTransitions = flag.closeTransitions + was.toNat) (isOpen : Bool) :
    (flag.setMarketSessionOpen isOpen).marketSessionOpen = isOpen ∧
      (flag.setMarketSessionOpen isOpen).openTransitions =
        (flag.setMarketSessionOpen isOpen).closeTransitions + isOpen.toNat := by
  unfold SessionFlag.setMarketSessionOpen
  subst agrees
  -- The flag is the same, or it opens, or it closes.
  split_ifs with same opened
  · exact ⟨same, same ▸ balanced⟩
  · rw [opened] at same ⊢
    rw [Bool.not_eq_true] at same
    rw [same] at balanced
    exact ⟨rfl, congrArg (· + 1) balanced⟩
  · rw [Bool.not_eq_true] at opened
    rw [opened] at same ⊢
    rw [Bool.not_eq_false] at same
    rw [same] at balanced
    exact ⟨rfl, balanced⟩

/-- One more iteration follows one more reading. -/
theorem FollowsReadings.iterate {looks : List LoopLook} {loop : SessionLoop}
    {calls : List LoopCall} (follows : FollowsReadings mode looks loop calls) (look : LoopLook) :
    FollowsReadings mode (looks ++ [look]) (loop.iterate mode tickIntervalMs look).1
      (calls ++ (loop.iterate mode tickIntervalMs look).2) := by
  have after := iterate_loop mode tickIntervalMs follows.flag_eq look
  have canceled := iterate_cancels mode tickIntervalMs loop look
  have any_concat : (looks ++ [look]).any LoopLook.stops = (loop.stopped || look.stops) := by
    rw [List.any_append, follows.stopped_eq, List.any_cons, List.any_nil, Bool.or_false]
  have counted : (calls ++ (loop.iterate mode tickIntervalMs look).2).count .cancelAllOpenOrders =
      closings (readings mode looks) + loop.stopped.toNat +
        ((!loop.stopped && !look.stopSet && loop.wasOpen && !isOpen mode look.wallNow).toNat +
          (!loop.stopped && look.stops).toNat) := by
    rw [List.count_append, follows.cancels, canceled, follows.stopped_eq]
  have read := readings_concat mode looks look
  rw [← follows.stopped_eq] at read
  cases through : loop.stopped || look.stopSet with
  | true =>
    -- No reading is acted on when the loop stops first.
    rw [through, if_pos rfl, List.append_nil] at read
    rw [through, if_pos rfl] at after
    have stops : (loop.stopped || look.stops) = true := by
      unfold LoopLook.stops
      rw [← Bool.or_assoc, through, Bool.true_or]
    refine ⟨?_, ?_, ?_, ?_, ?_⟩
    · rw [after, any_concat, stops]
    · rw [after, read]
      exact follows.wasOpen_eq
    · rw [after]
      exact follows.flag_eq
    · rw [after]
      exact follows.balanced
    · rw [counted, read, any_concat]
      cases ended : loop.stopped <;> simp_all
  | false =>
    -- Otherwise the reading is followed, whether or not the stop comes during the wait.
    obtain ⟨going, head⟩ := Bool.or_eq_false_iff.mp through
    rw [through, if_neg Bool.false_ne_true] at read
    rw [through, if_neg Bool.false_ne_true] at after
    -- The reading is acted on, and the flag follows it.
    have switched := setMarketSessionOpen_spec follows.flag_eq follows.balanced
      (isOpen mode look.wallNow)
    refine ⟨?_, ?_, ?_, ?_, ?_⟩
    · rw [after, any_concat, going, Bool.false_or, LoopLook.stops, head, Bool.false_or]
    · rw [after, read, lastOpen_concat]
      rfl
    · rw [after]
      exact switched.1
    · rw [after]
      exact switched.2
    · rw [counted, read, any_concat, closings_concat, ← follows.wasOpen_eq, going, head]
      simp only [Bool.not_false, Bool.true_and, Bool.toNat_false, Bool.false_or]
      omega

/-- The loop follows its readings from its start on. -/
theorem ran_follows (looks : List LoopLook) :
    FollowsReadings mode looks (ran mode tickIntervalMs looks).1
      (ran mode tickIntervalMs looks).2.flatten := by
  -- The induction adds one reading at the end.
  induction looks using List.reverseRecOn with
  | nil => exact ⟨rfl, rfl, rfl, rfl, rfl⟩
  | append_singleton looks look ih =>
    unfold ran at ih ⊢
    rw [Machine.runTotal_concat, List.flatten_append, List.flatten_singleton]
    exact ih.iterate mode tickIntervalMs look

end Runs

/--
The loop follows the market, whatever it reads and whenever the stop event is set.

An iteration ticks only if it finds the market open. It cancels the orders once if it is the first
one to find the market closed, and once if it is the one that stops. The session flag of the
runner and its counters tell what the last reading was.
-/
theorem session_followed (mode : MarketMode) (tickIntervalMs : Int) (looks : List LoopLook) :
    (∀ look,
      (((ran mode tickIntervalMs looks).1.iterate mode tickIntervalMs look).2.count .tickOnce =
        (!looks.any LoopLook.stops && !look.stopSet && isOpen mode look.wallNow).toNat) ∧
      (((ran mode tickIntervalMs looks).1.iterate mode tickIntervalMs look).2.count
          .cancelAllOpenOrders =
        (!looks.any LoopLook.stops && !look.stopSet && lastOpen (readings mode looks) &&
            !isOpen mode look.wallNow).toNat +
          (!looks.any LoopLook.stops && look.stops).toNat)) ∧
    (ran mode tickIntervalMs looks).2.flatten.count .cancelAllOpenOrders =
      closings (readings mode looks) + (looks.any LoopLook.stops).toNat ∧
    (ran mode tickIntervalMs looks).1.flag.marketSessionOpen = lastOpen (readings mode looks) ∧
    (ran mode tickIntervalMs looks).1.flag.openTransitions =
      (ran mode tickIntervalMs looks).1.flag.closeTransitions +
        (lastOpen (readings mode looks)).toNat := by
  obtain ⟨stopped, was, flag, balanced, cancels⟩ :=
    ran_follows mode tickIntervalMs looks
  -- What the loop knows at its end is what its readings tell.
  rw [was] at flag balanced
  refine ⟨fun look => ⟨?_, ?_⟩, cancels, flag, balanced⟩
  · rw [iterate_ticks, stopped]
  · rw [iterate_cancels, stopped, was]

end SessionLoop

end StockMarket
