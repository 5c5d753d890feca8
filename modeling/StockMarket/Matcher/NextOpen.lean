import StockMarket.Matcher.MarketSession

/-! The market opens next at the first instant at which it is open. -/

namespace StockMarket

section Calendar

/-- The next weekday is the date itself, or the Monday after it. -/
theorem nextWeekday_spec (date : Int) :
    date ≤ nextWeekday date ∧ weekday (nextWeekday date) < 5 ∧
      ∀ skipped, date ≤ skipped → skipped < nextWeekday date → 5 ≤ weekday skipped := by
  induction date using nextWeekday.induct with
  | case1 date weekend ih =>
    rw [nextWeekday, if_pos weekend]
    obtain ⟨later, working, skips⟩ := ih
    refine ⟨by omega, working, fun skipped from_date before => ?_⟩
    -- The weekend day itself is skipped first.
    by_cases same : skipped = date
    · exact same ▸ weekend
    · exact skips skipped (by omega) before
  | case2 date working =>
    rw [nextWeekday, if_neg working]
    exact ⟨le_refl date, by omega, fun _ _ _ => by omega⟩

/-- Every instant is a time of day on a date. -/
theorem seoulInstant_eq (now : Int) :
    seoulInstant (seoulDate now) (seoulTime now) = now ∧ 0 ≤ seoulTime now ∧
      seoulTime now < dayLength := by
  simp only [seoulInstant, seoulDate, seoulTime, dayLength, seoulOffset]
  omega

/-- A time of day on a date has that date and that time. -/
theorem seoulDate_seoulInstant (date : Int) {time : Int} (nonneg : 0 ≤ time)
    (short : time < dayLength) :
    seoulDate (seoulInstant date time) = date ∧ seoulTime (seoulInstant date time) = time := by
  simp only [seoulInstant, seoulDate, seoulTime, dayLength, seoulOffset] at *
  omega

/-- The opening of a weekday is open. -/
theorem isOpen_opening {date : Int} (working : weekday date < 5) (mode : MarketMode) :
    isOpen mode (seoulInstant date marketOpen) = true := by
  cases mode with
  | alwaysOpen => rfl
  | scheduled =>
    -- The instant is read back as its own date and time.
    obtain ⟨dated, timed⟩ := seoulDate_seoulInstant date (by decide : 0 ≤ marketOpen) (by decide)
    rw [isOpen, dated, timed, decide_eq_true working]
    decide

/-- The market is closed at the weekend. -/
theorem not_isOpen_weekend {now : Int} (weekend : 5 ≤ weekday (seoulDate now)) :
    isOpen .scheduled now = false := by
  rw [isOpen, decide_eq_false (by omega)]
  rfl

/-- The market is closed before its opening. -/
theorem not_isOpen_early {now : Int} (early : seoulTime now < marketOpen) :
    isOpen .scheduled now = false := by
  rw [isOpen, decide_eq_false (by omega : ¬ marketOpen ≤ seoulTime now), Bool.and_false]
  rfl

/-- The market is closed from its closing on. -/
theorem not_isOpen_late {now : Int} (late : marketClose ≤ seoulTime now) :
    isOpen .scheduled now = false := by
  rw [isOpen, decide_eq_false (by omega : ¬ seoulTime now < marketClose), Bool.and_false]

end Calendar

/-- The opening of a weekday is the first one if nothing is open on the dates before it. -/
theorem first_opening {now : Int} {date : Int} (working : weekday date < 5)
    (closed : ∀ other, now ≤ other → seoulDate other < date → isOpen .scheduled other = false) :
    isOpen .scheduled (seoulInstant date marketOpen) = true ∧
      ∀ other, now ≤ other → other < seoulInstant date marketOpen →
        isOpen .scheduled other = false := by
  refine ⟨isOpen_opening working .scheduled, fun other from_now before => ?_⟩
  obtain ⟨split, nonneg, short⟩ := seoulInstant_eq other
  by_cases earlier : seoulDate other < date
  · exact closed other from_now earlier
  · -- On the date itself, every instant before the opening is early.
    apply not_isOpen_early
    simp only [seoulInstant, dayLength, marketOpen] at *
    omega

/-- A market that is closed, and not before its opening, stays closed for the day. -/
theorem closed_all_day {now other : Int}
    (past : ¬ weekday (seoulDate now) < 5 ∨ ¬ seoulTime now < marketOpen)
    (closed : isOpen .scheduled now = false) (from_now : now ≤ other)
    (same : seoulDate other = seoulDate now) : isOpen .scheduled other = false := by
  by_cases working : weekday (seoulDate now) < 5
  · -- The session is over, and later times are later than its end as well.
    have opened := past.resolve_left (not_not.mpr working)
    have late : marketClose ≤ seoulTime now := by
      rw [isOpen, decide_eq_true working, decide_eq_true (by omega : marketOpen ≤ seoulTime now),
        Bool.true_and, Bool.true_and, decide_eq_false_iff_not] at closed
      omega
    apply not_isOpen_late
    obtain ⟨split, _, _⟩ := seoulInstant_eq now
    obtain ⟨split', _, _⟩ := seoulInstant_eq other
    rw [same] at split'
    unfold seoulInstant at split split'
    omega
  · exact not_isOpen_weekend (by rw [same]; omega)

/-- Trading proceeds at the first open instant from now on. -/
theorem nextOpen_spec (mode : MarketMode) (now : Int) :
    now ≤ nextOpen mode now ∧ isOpen mode (nextOpen mode now) = true ∧
      ∀ other, now ≤ other → other < nextOpen mode now → isOpen mode other = false := by
  unfold nextOpen
  split_ifs with opened early
  · refine ⟨le_refl now, ?_, fun other from_now before => by omega⟩
    rcases opened with always | opened
    · rw [always]
      rfl
    · exact opened
  · -- The market opens later on the same day.
    have scheduled : mode = .scheduled := by
      cases mode with
      | alwaysOpen => exact absurd (.inl rfl) opened
      | scheduled => rfl
    subst scheduled
    obtain ⟨split, _, _⟩ := seoulInstant_eq now
    have ahead : now ≤ seoulInstant (seoulDate now) marketOpen := by
      unfold seoulInstant at *
      omega
    refine ⟨ahead, first_opening early.1 fun other from_now before => ?_⟩
    exact absurd (seoulDate_mono from_now) (by omega)
  · -- The market opens on the next weekday.
    have scheduled : mode = .scheduled := by
      cases mode with
      | alwaysOpen => exact absurd (.inl rfl) opened
      | scheduled => rfl
    subst scheduled
    have closed : isOpen .scheduled now = false := by
      rw [← Bool.not_eq_true]
      exact fun opened' => opened (.inr opened')
    obtain ⟨later, working, skips⟩ := nextWeekday_spec (seoulDate now + 1)
    obtain ⟨split, nonneg, short⟩ := seoulInstant_eq now
    have ahead : now ≤ seoulInstant (nextWeekday (seoulDate now + 1)) marketOpen := by
      simp only [seoulInstant, dayLength, marketOpen] at *
      omega
    refine ⟨ahead, first_opening working fun other from_now before => ?_⟩
    -- Until then the market is closed: today it is too late, and the days between are free.
    by_cases same : seoulDate other = seoulDate now
    · exact closed_all_day (not_and_or.mp early) closed from_now same
    · have forth := seoulDate_mono from_now
      exact not_isOpen_weekend (skips _ (by omega) before)

/-- The market is open at two instants and at all those between them. -/
def OpenBetween (mode : MarketMode) (first second : Int) : Prop :=
  ∀ instant, min first second ≤ instant → instant ≤ max first second → isOpen mode instant = true

/-- The scheduled market is not open on two dates without a break. -/
theorem OpenBetween.seoulDate_le {first second : Int} (opened : OpenBetween .scheduled first second) :
    seoulDate second ≤ seoulDate first := by
  by_contra later
  -- The midnight before the later date lies between the two instants.
  obtain ⟨split, nonneg, short⟩ := seoulInstant_eq first
  obtain ⟨split', nonneg', short'⟩ := seoulInstant_eq second
  have midnight := opened (seoulInstant (seoulDate second) 0)
    (by simp only [seoulInstant, dayLength] at *; omega)
    (by simp only [seoulInstant, dayLength] at *; omega)
  obtain ⟨_, timed⟩ := seoulDate_seoulInstant (seoulDate second) (le_refl 0) (by decide)
  rw [not_isOpen_early (by rw [timed]; decide)] at midnight
  cases midnight

/--
The market opens next at the first open instant, and an open market trades on the date of Seoul.

While the scheduled market stays open, the trading day stays the same.
-/
theorem nextOpen_first (mode : MarketMode) (now : Int) :
    (now ≤ nextOpen mode now ∧ isOpen mode (nextOpen mode now) = true ∧
      ∀ other, now ≤ other → other < nextOpen mode now → isOpen mode other = false) ∧
    ∀ instant, isOpen mode instant = true →
      sessionDate mode instant = some (seoulDate instant) ∧
        (mode = .scheduled → ∀ other, OpenBetween mode instant other →
          sessionDate mode other = sessionDate mode instant) := by
  refine ⟨nextOpen_spec mode now, fun instant opened => ⟨sessionDate_of_isOpen opened, ?_⟩⟩
  rintro rfl other between
  -- Being open between two instants goes both ways, and so do their dates.
  have back : OpenBetween .scheduled other instant := by
    intro at_time least most
    rw [min_comm] at least
    rw [max_comm] at most
    exact between at_time least most
  have opened' := between other (min_le_right _ _) (le_max_right _ _)
  rw [sessionDate_of_isOpen opened, sessionDate_of_isOpen opened',
    le_antisymm between.seoulDate_le back.seoulDate_le]

/-- A market that is always open trades on one date at noon, and on the next one a day later. -/
theorem alwaysOpen_changes_date :
    ¬∀ (mode : MarketMode) (now : Int),
      (now ≤ nextOpen mode now ∧ isOpen mode (nextOpen mode now) = true ∧
        ∀ other, now ≤ other → other < nextOpen mode now → isOpen mode other = false) ∧
      ∀ instant, isOpen mode instant = true →
        sessionDate mode instant = some (seoulDate instant) ∧
          ∀ other, OpenBetween mode instant other →
            sessionDate mode other = sessionDate mode instant := by
  intro always
  have same := ((always .alwaysOpen 0).2 10800000000 rfl).2 (10800000000 + dayLength)
    fun _ _ _ => rfl
  exact absurd same (by decide)

end StockMarket
