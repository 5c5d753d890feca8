import Mathlib.Algebra.Order.Field.Power
import Mathlib.Algebra.Order.Round
import Mathlib.Data.Rat.Floor
import Mathlib.Tactic.FieldSimp
import Mathlib.Tactic.Linarith
import Mathlib.Tactic.Ring
import StockMarket.Library.Floating

/-! Rational numbers, rounded to the nearest number of 53 bits: in order, and exact where it can. -/

namespace StockMarket

/-- The nearest whole number; of two that are equally near, the even one. -/
def roundEven (x : ℚ) : ℤ :=
  if Int.fract x < 1 / 2 then ⌊x⌋
  else if 1 / 2 < Int.fract x then ⌊x⌋ + 1
  else ⌊x⌋ + ⌊x⌋ % 2

/--
The nearest number of 53 bits to a positive ratio.

Exponents have no bound here. The difference of two numbers below the least normal one is exact,
and one that is too large to be written is on the same side of all others as an infinite one.
-/
def nearestMagnitude (numerator denominator : Nat) : ℚ :=
  let exponent := Floating.binaryTop numerator denominator - 52
  let mantissa := Floating.roundRatio (numerator * 2 ^ (-exponent).toNat)
    (denominator * 2 ^ exponent.toNat)
  mkRat (mantissa * 2 ^ exponent.toNat) (2 ^ (-exponent).toNat)

/-- The nearest number of 53 bits. -/
def nearest (x : ℚ) : ℚ :=
  if x < 0 then -nearestMagnitude x.num.natAbs x.den else nearestMagnitude x.num.natAbs x.den

/-- A number that is written with 53 bits and some exponent. -/
def HasDouble (x : ℚ) : Prop :=
  ∃ (mantissa exponent : ℤ), mantissa.natAbs < 2 ^ 53 ∧ x = mantissa * 2 ^ exponent

section Whole

variable {x y : ℚ}

/-- A rounded number is the whole number below, or the next one. -/
theorem roundEven_bounds (x : ℚ) : ⌊x⌋ ≤ roundEven x ∧ roundEven x ≤ ⌊x⌋ + 1 := by
  unfold roundEven
  split_ifs <;> omega

/-- Whole numbers are left alone. -/
@[simp]
theorem roundEven_intCast (number : ℤ) : roundEven number = number := by
  rw [roundEven, Int.fract_intCast, if_pos (by norm_num), Int.floor_intCast]

/-- Rounding to whole numbers keeps the order. -/
theorem roundEven_mono (ordered : x ≤ y) : roundEven x ≤ roundEven y := by
  have floors := Int.floor_mono ordered
  rcases floors.lt_or_eq with apart | same
  · -- There is a whole number between the two.
    have above := (roundEven_bounds x).2
    have below := (roundEven_bounds y).1
    omega
  · -- Otherwise the one with the smaller fraction is not the only one that is rounded up.
    have fractions : Int.fract x ≤ Int.fract y := by
      rw [Int.fract, Int.fract, same]
      linarith
    unfold roundEven
    rw [same]
    split_ifs <;> first
      | omega
      | (exfalso; linarith)

/-- A ratio of natural numbers is rounded by its quotient and its remainder. -/
theorem roundRatio_eq (numerator : Nat) {denominator : Nat} (positive : 0 < denominator) :
    (Floating.roundRatio numerator denominator : ℤ) =
      roundEven ((numerator : ℚ) / denominator) := by
  have whole : ⌊(numerator : ℚ) / denominator⌋ = (numerator / denominator : ℕ) := by
    have cast := Rat.floor_intCast_div_natCast (numerator : ℤ) denominator
    simpa using cast
  have divided : (denominator : ℚ) ≠ 0 := by exact_mod_cast positive.ne'
  -- The fraction is the remainder over the denominator.
  have fraction : Int.fract ((numerator : ℚ) / denominator) =
      (numerator % denominator : ℕ) / denominator := by
    have split := Nat.div_add_mod numerator denominator
    have split' : (denominator : ℚ) * (numerator / denominator : ℕ) +
        (numerator % denominator : ℕ) = numerator := by exact_mod_cast split
    rw [Int.fract, whole, ← split', eq_div_iff divided]
    simp only [Int.cast_natCast]
    field_simp
    ring
  -- Comparing the fraction with one half is comparing twice the remainder.
  have half : Int.fract ((numerator : ℚ) / denominator) < 1 / 2 ↔
      2 * (numerator % denominator) < denominator := by
    rw [fraction, div_lt_div_iff₀ (by exact_mod_cast positive) (by norm_num)]
    rw [mul_comm, one_mul]
    exact_mod_cast Iff.rfl
  have half' : 1 / 2 < Int.fract ((numerator : ℚ) / denominator) ↔
      denominator < 2 * (numerator % denominator) := by
    rw [fraction, div_lt_div_iff₀ (by norm_num) (by exact_mod_cast positive)]
    rw [mul_comm, mul_one, mul_comm]
    exact_mod_cast Iff.rfl
  rw [roundEven, Floating.roundRatio]
  simp only [half, half', whole]
  split_ifs <;> simp

end Whole

section Magnitude

variable {numerator denominator numerator' denominator' : Nat}

/-- A power of two with a whole exponent, as a ratio of natural numbers. -/
theorem two_zpow_eq (exponent : ℤ) :
    (2 : ℚ) ^ exponent = (2 ^ exponent.toNat : ℕ) / (2 ^ (-exponent).toNat : ℕ) := by
  -- One of the two natural exponents is zero.
  rcases le_total 0 exponent with nonneg | nonpos
  · obtain ⟨count, rfl⟩ := Int.eq_ofNat_of_zero_le nonneg
    simp
  · obtain ⟨count, same⟩ := Int.eq_ofNat_of_zero_le (Int.neg_nonneg.mpr nonpos)
    obtain rfl : exponent = -count := by omega
    simp

/-- A ratio lies between the powers of two around the difference of the logarithms. -/
theorem log2_bounds (positive : 0 < numerator) (divides : 0 < denominator) :
    (2 : ℚ) ^ ((numerator.log2 : ℤ) - denominator.log2 - 1) < numerator / denominator ∧
      (numerator / denominator : ℚ) < 2 ^ ((numerator.log2 : ℤ) - denominator.log2 + 1) := by
  have above : (0 : ℚ) < denominator := by exact_mod_cast divides
  have low : (2 : ℚ) ^ (numerator.log2 : ℤ) ≤ numerator := by
    exact_mod_cast Nat.log2_self_le positive.ne'
  have high : (numerator : ℚ) < 2 ^ ((numerator.log2 : ℤ) + 1) := by
    exact_mod_cast Nat.lt_log2_self (n := numerator)
  have low' : (2 : ℚ) ^ (denominator.log2 : ℤ) ≤ denominator := by
    exact_mod_cast Nat.log2_self_le divides.ne'
  have high' : (denominator : ℚ) < 2 ^ ((denominator.log2 : ℤ) + 1) := by
    exact_mod_cast Nat.lt_log2_self (n := denominator)
  have two : (2 : ℚ) ≠ 0 := by norm_num
  -- The ratio lies between the ratios of the powers of two around both.
  constructor
  · rw [lt_div_iff₀ above]
    calc (2 : ℚ) ^ ((numerator.log2 : ℤ) - denominator.log2 - 1) * denominator
        < 2 ^ ((numerator.log2 : ℤ) - denominator.log2 - 1) * 2 ^ ((denominator.log2 : ℤ) + 1) :=
          mul_lt_mul_of_pos_left high' (zpow_pos (by norm_num) _)
      _ = 2 ^ (numerator.log2 : ℤ) := by rw [← zpow_add₀ two]; congr 1; ring
      _ ≤ numerator := low
  · rw [div_lt_iff₀ above]
    calc (numerator : ℚ) < 2 ^ ((numerator.log2 : ℤ) + 1) := high
      _ = 2 ^ ((numerator.log2 : ℤ) - denominator.log2 + 1) * 2 ^ (denominator.log2 : ℤ) := by
          rw [← zpow_add₀ two]; congr 1; ring
      _ ≤ 2 ^ ((numerator.log2 : ℤ) - denominator.log2 + 1) * denominator :=
          mul_le_mul_of_nonneg_left low' (zpow_pos (by norm_num) _).le

/-- The greatest power of two that a ratio reaches is found. -/
theorem binaryTop_spec (positive : 0 < numerator) (divides : 0 < denominator) :
    (2 : ℚ) ^ Floating.binaryTop numerator denominator ≤ numerator / denominator ∧
      (numerator / denominator : ℚ) < 2 ^ (Floating.binaryTop numerator denominator + 1) := by
  obtain ⟨low, high⟩ := log2_bounds positive divides
  have above : (0 : ℚ) < denominator := by exact_mod_cast divides
  simp only [Floating.binaryTop]
  generalize (numerator.log2 : ℤ) - denominator.log2 = guess at *
  -- The comparison of natural numbers is the one of the ratio and the power.
  have compared : numerator * 2 ^ (-guess).toNat < denominator * 2 ^ guess.toNat ↔
      (numerator / denominator : ℚ) < 2 ^ guess := by
    have base : (0 : ℚ) < (2 ^ (-guess).toNat : ℕ) := by positivity
    rw [two_zpow_eq, div_lt_div_iff₀ above base, mul_comm ((2 ^ guess.toNat : ℕ) : ℚ)]
    exact_mod_cast Iff.rfl
  split_ifs with less
  · exact ⟨low.le, by simpa using compared.mp less⟩
  · exact ⟨not_lt.mp fun below => less (compared.mpr below), high⟩

/-- The nearest number is a rounded mantissa with the exponent that leaves it 53 bits. -/
theorem nearestMagnitude_eq (numerator : Nat) (divides : 0 < denominator) :
    nearestMagnitude numerator denominator =
      roundEven (numerator / denominator / 2 ^ (Floating.binaryTop numerator denominator - 52)) *
        2 ^ (Floating.binaryTop numerator denominator - 52) := by
  simp only [nearestMagnitude]
  generalize Floating.binaryTop numerator denominator - 52 = exponent
  have scaled : 0 < denominator * 2 ^ exponent.toNat := by positivity
  -- Scaling the numerator or the denominator scales the ratio by the unit.
  have ratio : ((numerator * 2 ^ (-exponent).toNat : ℕ) : ℚ) /
      (denominator * 2 ^ exponent.toNat : ℕ) = numerator / denominator / 2 ^ exponent := by
    have above : (denominator : ℚ) ≠ 0 := by exact_mod_cast divides.ne'
    rw [two_zpow_eq]
    push_cast
    field_simp
  rw [Rat.mkRat_eq_div, ← ratio, ← roundRatio_eq _ scaled, two_zpow_eq]
  push_cast
  ring

/-- Nothing is nearest to nothing. -/
theorem nearestMagnitude_zero : nearestMagnitude 0 denominator = 0 := by
  -- Zero is rounded to no unit at all, whatever the unit is.
  have nothing : Floating.roundRatio 0 (denominator * 2 ^
      (Floating.binaryTop 0 denominator - 52).toNat) = 0 := by
    simp only [Floating.roundRatio, Nat.zero_div, Nat.zero_mod]
    split_ifs <;> first
      | rfl
      | omega
  simp only [nearestMagnitude, Nat.zero_mul, nothing]
  simp

/-- A rounded ratio is no less than the power of two below it. -/
theorem le_nearestMagnitude (positive : 0 < numerator) (divides : 0 < denominator) :
    (2 : ℚ) ^ Floating.binaryTop numerator denominator ≤
      nearestMagnitude numerator denominator := by
  obtain ⟨low, -⟩ := binaryTop_spec positive divides
  rw [nearestMagnitude_eq _ divides]
  generalize Floating.binaryTop numerator denominator = top at *
  have unit : (0 : ℚ) < 2 ^ (top - 52) := zpow_pos (by norm_num) _
  have two : (2 : ℚ) ≠ 0 := by norm_num
  -- The power is a whole number of units.
  have whole : (2 : ℚ) ^ top = ((2 ^ 52 : ℤ) : ℚ) * 2 ^ (top - 52) := by
    rw [show top = 52 + (top - 52) by ring, zpow_add₀ two]
    norm_num
  have rounded := roundEven_mono ((le_div_iff₀ unit).mpr (whole ▸ low))
  rw [roundEven_intCast] at rounded
  rw [whole]
  exact mul_le_mul_of_nonneg_right (by exact_mod_cast rounded) unit.le

/-- A rounded ratio is no more than the power of two above it. -/
theorem nearestMagnitude_le (positive : 0 < numerator) (divides : 0 < denominator) :
    nearestMagnitude numerator denominator ≤
      2 ^ (Floating.binaryTop numerator denominator + 1) := by
  -- The upper power of two is a whole number of units, and rounding is monotone.
  obtain ⟨-, high⟩ := binaryTop_spec positive divides
  rw [nearestMagnitude_eq _ divides]
  generalize Floating.binaryTop numerator denominator = top at *
  have unit : (0 : ℚ) < 2 ^ (top - 52) := zpow_pos (by norm_num) _
  have two : (2 : ℚ) ≠ 0 := by norm_num
  have whole : (2 : ℚ) ^ (top + 1) = ((2 ^ 53 : ℤ) : ℚ) * 2 ^ (top - 52) := by
    rw [show top + 1 = 53 + (top - 52) by ring, zpow_add₀ two]
    norm_num
  have rounded := roundEven_mono ((div_le_iff₀ unit).mpr (whole ▸ high.le))
  rw [roundEven_intCast] at rounded
  rw [whole]
  exact mul_le_mul_of_nonneg_right (by exact_mod_cast rounded) unit.le

/-- Rounding ratios keeps the order. -/
theorem nearestMagnitude_mono (divides : 0 < denominator) (divides' : 0 < denominator')
    (ordered : (numerator / denominator : ℚ) ≤ numerator' / denominator') :
    nearestMagnitude numerator denominator ≤ nearestMagnitude numerator' denominator' := by
  have above' : (0 : ℚ) < denominator' := by exact_mod_cast divides'
  rcases numerator.eq_zero_or_pos with rfl | positive
  · -- Nothing is less than nothing.
    rw [nearestMagnitude_zero]
    rcases numerator'.eq_zero_or_pos with rfl | positive'
    · rw [nearestMagnitude_zero]
    · exact (zpow_pos (by norm_num) _).le.trans (le_nearestMagnitude positive' divides')
  · have larger : (0 : ℚ) < numerator / denominator :=
      div_pos (by exact_mod_cast positive) (by exact_mod_cast divides)
    have positive' : 0 < numerator' := by
      have nonzero : (0 : ℚ) < numerator' := by
        have := larger.trans_le ordered
        rwa [div_pos_iff_of_pos_right above'] at this
      exact_mod_cast nonzero
    obtain ⟨low, high⟩ := binaryTop_spec positive divides
    obtain ⟨low', high'⟩ := binaryTop_spec positive' divides'
    -- A larger value has no smaller leading power.
    have tops : Floating.binaryTop numerator denominator ≤
        Floating.binaryTop numerator' denominator' := by
      have less := (zpow_lt_zpow_iff_right₀ (by norm_num : (1 : ℚ) < 2)).mp
        (low.trans_lt (ordered.trans_lt high'))
      omega
    rcases tops.lt_or_eq with apart | same
    · -- A power of two lies between the two.
      calc nearestMagnitude numerator denominator
          ≤ 2 ^ (Floating.binaryTop numerator denominator + 1) :=
            nearestMagnitude_le positive divides
        _ ≤ 2 ^ Floating.binaryTop numerator' denominator' :=
            zpow_le_zpow_right₀ (by norm_num) (by omega)
        _ ≤ nearestMagnitude numerator' denominator' := le_nearestMagnitude positive' divides'
    · -- Both are multiples of the same unit.
      rw [nearestMagnitude_eq _ divides, nearestMagnitude_eq _ divides', same]
      have unit : (0 : ℚ) < 2 ^ (Floating.binaryTop numerator' denominator' - 52) :=
        zpow_pos (by norm_num) _
      have rounded := roundEven_mono ((div_le_div_iff_of_pos_right unit).mpr ordered)
      exact mul_le_mul_of_nonneg_right (by exact_mod_cast rounded) unit.le

/-- A ratio that is written with 53 bits is its own nearest number. -/
theorem nearestMagnitude_eq_self (positive : 0 < numerator) (divides : 0 < denominator)
    (written : HasDouble (numerator / denominator)) :
    nearestMagnitude numerator denominator = numerator / denominator := by
  obtain ⟨low, -⟩ := binaryTop_spec positive divides
  rw [nearestMagnitude_eq _ divides]
  obtain ⟨mantissa, exponent, small, same⟩ := written
  rw [same] at low ⊢
  generalize Floating.binaryTop numerator denominator = top at *
  have two : (2 : ℚ) ≠ 0 := by norm_num
  -- With a smaller unit, 53 bits would not reach the power of two.
  have units : top - 52 ≤ exponent := by
    by_contra finer
    have bounded : (mantissa : ℚ) < 2 ^ (53 : ℤ) := by
      have less : mantissa < 2 ^ 53 := by omega
      exact_mod_cast less
    have reach : (mantissa : ℚ) * 2 ^ exponent < 2 ^ top := by
      calc (mantissa : ℚ) * 2 ^ exponent < 2 ^ (53 : ℤ) * 2 ^ exponent :=
            mul_lt_mul_of_pos_right bounded (zpow_pos (by norm_num) _)
        _ = 2 ^ (53 + exponent) := (zpow_add₀ two _ _).symm
        _ ≤ 2 ^ top := zpow_le_zpow_right₀ (by norm_num) (by omega)
    exact absurd low (not_le.mpr reach)
  obtain ⟨count, shift⟩ := Int.eq_ofNat_of_zero_le (sub_nonneg.mpr units)
  -- The ratio is a whole number of units, which is left alone.
  have whole : (mantissa : ℚ) * 2 ^ exponent / 2 ^ (top - 52) =
      ((mantissa * 2 ^ count : ℤ) : ℚ) := by
    rw [mul_div_assoc, ← zpow_sub₀ two, shift]
    push_cast
    simp
  rw [whole, roundEven_intCast, ← whole, div_mul_cancel₀ _ (zpow_ne_zero _ two)]

end Magnitude

section Nearest

variable {x y : ℚ}

/-- The distance from zero, as a ratio of natural numbers. -/
theorem natAbs_div_den (x : ℚ) : ((x.num.natAbs : ℕ) / (x.den : ℕ) : ℚ) = |x| := by
  have cast : ((x.num.natAbs : ℕ) : ℚ) = |(x.num : ℚ)| := by
    rw [Nat.cast_natAbs, Int.cast_abs]
  rw [cast, ← abs_of_pos (show (0 : ℚ) < x.den by exact_mod_cast x.den_pos), ← abs_div,
    Rat.num_div_den]

/-- The nearest numbers come in the order of the numbers. -/
theorem nearest_mono (ordered : x ≤ y) : nearest x ≤ nearest y := by
  have grows : ∀ {x y : ℚ}, |x| ≤ |y| →
      nearestMagnitude x.num.natAbs x.den ≤ nearestMagnitude y.num.natAbs y.den := by
    intro x y closer
    refine nearestMagnitude_mono x.den_pos y.den_pos ?_
    rwa [natAbs_div_den, natAbs_div_den]
  have nonneg : ∀ x : ℚ, 0 ≤ nearestMagnitude x.num.natAbs x.den := by
    intro x
    have least := grows (x := 0) (y := x) (by simp)
    rwa [Rat.num_zero, Int.natAbs_zero, nearestMagnitude_zero] at least
  unfold nearest
  -- Below zero the order of the distances is the other way round.
  split_ifs with left right right
  · exact neg_le_neg (grows (by rw [abs_of_neg left, abs_of_neg right]; linarith))
  · exact (neg_nonpos.mpr (nonneg x)).trans (nonneg y)
  · exact absurd (ordered.trans_lt right) left
  · refine grows ?_
    rwa [abs_of_nonneg (not_lt.mp left), abs_of_nonneg (not_lt.mp right)]

/-- A number that is written with 53 bits is its own nearest number. -/
theorem nearest_eq_self (written : HasDouble x) : nearest x = x := by
  -- A number that is written in units is a multiple of its own unit, with either sign.
  have distance : HasDouble ((x.num.natAbs : ℕ) / (x.den : ℕ)) := by
    obtain ⟨mantissa, exponent, small, same⟩ := written
    refine ⟨|mantissa|, exponent, by rwa [Int.natAbs_abs], ?_⟩
    rw [natAbs_div_den, same, abs_mul, abs_of_pos (zpow_pos (by norm_num : (0 : ℚ) < 2) _)]
    push_cast
    rfl
  rcases eq_or_ne x 0 with rfl | nonzero
  · rw [nearest, if_neg (lt_irrefl _), Rat.num_zero, Int.natAbs_zero, nearestMagnitude_zero]
  · have present : 0 < x.num.natAbs := Int.natAbs_pos.mpr (Rat.num_ne_zero.mpr nonzero)
    have exact_ := nearestMagnitude_eq_self present x.den_pos distance
    rw [natAbs_div_den] at exact_
    unfold nearest
    split_ifs with negative
    · rw [exact_, abs_of_neg negative, neg_neg]
    · rw [exact_, abs_of_nonneg (not_lt.mp negative)]

end Nearest

end StockMarket
