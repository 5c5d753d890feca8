import Mathlib.Algebra.Order.Ring.Int

/-! The weekday session of the market, in Seoul time. -/

namespace StockMarket

/-- Instants are microseconds since the Unix epoch. -/
abbrev Instant := Int

/-- Whether the session follows the calendar of the exchange. -/
inductive MarketMode where
  | scheduled
  | alwaysOpen
  deriving DecidableEq, Repr

/-- A day in microseconds. -/
def dayLength : Int := 86400000000

/-- Seoul is nine hours ahead of universal time all year. -/
def seoulOffset : Int := 32400000000

/-- The session opens at 09:00. -/
def marketOpen : Int := 32400000000

/-- The session closes at 15:30. -/
def marketClose : Int := 55800000000

/-- The Seoul date of an instant, counted in days since 1 January 1970. -/
def seoulDate (now : Instant) : Int := (now + seoulOffset) / dayLength

/-- The Seoul time of day of an instant. -/
def seoulTime (now : Instant) : Int := (now + seoulOffset) % dayLength

/-- Days of the week from Monday, which is zero; the first day of the count was a Thursday. -/
def weekday (date : Int) : Int := (date + 3) % 7

/-- Whether orders are accepted. -/
def isOpen (mode : MarketMode) (now : Instant) : Bool :=
  match mode with
  | .alwaysOpen => true
  | .scheduled =>
    weekday (seoulDate now) < 5 && marketOpen ≤ seoulTime now && seoulTime now < marketClose

/-- The trading day of an instant; scheduled weekends have none. -/
def sessionDate (mode : MarketMode) (now : Instant) : Option Int :=
  if mode = .alwaysOpen ∨ weekday (seoulDate now) < 5 then some (seoulDate now) else none

/-- The instant of a Seoul date and time of day. -/
def seoulInstant (date time : Int) : Int := date * dayLength + time - seoulOffset

/-- The first weekday from a date on. -/
def nextWeekday (date : Int) : Int :=
  if 5 ≤ weekday date then nextWeekday (date + 1) else date
  termination_by (7 - weekday date).toNat % 7
  decreasing_by
    -- A Saturday is two days before the next weekday, and a Sunday one.
    unfold weekday at *
    omega

/-- When trading can next proceed. -/
def nextOpen (mode : MarketMode) (now : Int) : Int :=
  if mode = .alwaysOpen ∨ isOpen mode now = true then now
  else if weekday (seoulDate now) < 5 ∧ seoulTime now < marketOpen then
    seoulInstant (seoulDate now) marketOpen
  else seoulInstant (nextWeekday (seoulDate now + 1)) marketOpen

/-- Dates follow the clock. -/
theorem seoulDate_mono {earlier later : Instant} (forth : earlier ≤ later) :
    seoulDate earlier ≤ seoulDate later := by
  -- Division by a positive length keeps the order.
  apply Int.ediv_le_ediv
  · decide
  · exact Int.add_le_add_right forth seoulOffset

/-- An open market has a trading day. -/
theorem sessionDate_of_isOpen {mode : MarketMode} {now : Instant} (opened : isOpen mode now = true) :
    sessionDate mode now = some (seoulDate now) := by
  cases mode with
  | alwaysOpen => rfl
  | scheduled =>
    -- The calendar is open on working days only.
    simp only [isOpen, Bool.and_eq_true, decide_eq_true_eq] at opened
    exact if_pos (.inr opened.1.1)

/-- Noon on a Thursday is within the session, and noon two days later is not. -/
example : isOpen .scheduled (3 * 3600000000) = true ∧
    isOpen .scheduled (3 * 3600000000 + 2 * dayLength) = false := by decide

end StockMarket
