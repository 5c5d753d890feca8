import Mathlib.Data.List.Induction
import Mathlib.Data.Nat.Basic
import StockMarket.Library.Text

/-! Whole numbers written in decimal notation, and how they are read back. -/

namespace StockMarket

/-- The digits of a number, most significant first. -/
def decimalDigits (number : Nat) : List Char := Nat.toDigits 10 number

/-- A whole number as text, with a sign in front of a negative one. -/
def integerDigits (value : Int) : List Char :=
  if value < 0 then '-' :: decimalDigits value.natAbs else decimalDigits value.natAbs

/-- A number that has too many digits to be written. -/
def isUnwritable (value : Int) : Bool :=
  maxIntegerDigits < (decimalDigits value.natAbs).length

/-- The number that a text is converted to, with blanks around it. -/
def integerIn? (text : List Char) : Option Int := integerText (unpadded text)

variable {number : Nat} {value : Int} {c : Char}

/-- Every number has a digit. -/
theorem decimalDigits_ne_nil (number : Nat) : decimalDigits number ≠ [] := Nat.toDigits_ne_nil

/-- Every digit is an ordinary one. -/
theorem isDigit_of_mem_decimalDigits (member : c ∈ decimalDigits number) : c.isDigit = true :=
  Nat.isDigit_of_mem_toDigits (by decide) (by decide) member

/-- Every digit is a decimal digit of some script. -/
theorem isDecimal_of_mem_decimalDigits (member : c ∈ decimalDigits number) : isDecimal c = true :=
  isDecimal_of_isDigit (isDigit_of_mem_decimalDigits member)

/-- An ordinary digit lies between the first and the last one. -/
theorem bounds_of_isDigit (digit : c.isDigit = true) : 48 ≤ c.toNat ∧ c.toNat < 58 := by
  simp only [Char.isDigit, Bool.and_eq_true, decide_eq_true_eq] at digit
  have low : (48 : Nat) ≤ c.val.toNat := digit.1
  have high : c.val.toNat ≤ 57 := digit.2
  exact ⟨low, by show c.val.toNat < 58; omega⟩

/-- The value of an ordinary digit is its distance from the first one. -/
theorem decimalValue_of_isDigit (digit : c.isDigit = true) :
    decimalValue c = some (c.toNat - 48) := by
  have bounds := bounds_of_isDigit digit
  simp [decimalValue, decimalZeros, bounds]

/-- The digits of a number stand for it. -/
@[simp]
theorem decimalNumber_decimalDigits (number : Nat) :
    decimalNumber (decimalDigits number) = number := by
  -- The two ways to add up digits agree on ordinary ones.
  have agree : ∀ (digits : List Char) (start : Nat), (∀ c ∈ digits, c.isDigit = true) →
      digits.foldl (fun number digit => 10 * number + (decimalValue digit).getD 0) start =
        Nat.ofDigitChars 10 digits start := by
    intro digits
    induction digits with
    | nil => simp
    | cons digit digits ih =>
      intro start ordinary
      have value := decimalValue_of_isDigit (ordinary digit List.mem_cons_self)
      rw [List.foldl_cons, Nat.ofDigitChars_cons, value, Option.getD_some]
      exact ih _ fun c member => ordinary c (List.mem_cons_of_mem _ member)
  have whole := agree (decimalDigits number) 0 fun c => isDigit_of_mem_decimalDigits
  rw [decimalNumber, whole, decimalDigits, Nat.ofDigitChars_ten_toDigits]

/-- A number has as many digits as it has powers of ten below it. -/
theorem length_decimalDigits_le_iff {count : Nat} (positive : 0 < count) :
    (decimalDigits number).length ≤ count ↔ number < 10 ^ count :=
  Nat.length_toDigits_le_iff (by decide) positive

/-- The numbers that can be written are the short ones. -/
theorem isUnwritable_eq_false_iff :
    isUnwritable value = false ↔ value.natAbs < 10 ^ maxIntegerDigits := by
  rw [isUnwritable, decide_eq_false_iff_not, Nat.not_lt]
  exact length_decimalDigits_le_iff (by decide)

/-- A number of a few digits can be written. -/
theorem writable_of_small (small : value.natAbs < 10 ^ 9) : isUnwritable value = false := by
  have fewer : 9 ≤ maxIntegerDigits := by decide
  have powers : 10 ^ 9 ≤ 10 ^ maxIntegerDigits := Nat.pow_le_pow_right (by decide) fewer
  exact isUnwritable_eq_false_iff.mpr (Nat.lt_of_lt_of_le small powers)

/-- Only the number zero begins with that digit. -/
theorem head_decimalDigits_ne_zero (positive : 0 < number) :
    (decimalDigits number).head? ≠ some '0' := by
  -- The digits of a large number begin with those of its tenth part.
  induction number using Nat.strongRecOn with
  | ind number ih =>
    by_cases small : number < 10
    · rw [decimalDigits, Nat.toDigits_of_lt_base small, List.head?_cons, ne_eq, Option.some.injEq,
        Nat.digitChar_eq_zero]
      omega
    · rw [decimalDigits, Nat.toDigits_of_base_le (by decide) (by omega),
        List.head?_append_of_ne_nil _ Nat.toDigits_ne_nil]
      exact ih (number / 10) (by omega) (by omega)

/-- Digits without separators between them are one run. -/
theorem digitRun_of_isDigit {digits : List Char} (present : digits ≠ [])
    (ordinary : ∀ c ∈ digits, c.isDigit = true) : digitRun digits = some digits := by
  induction digits with
  | nil => exact absurd rfl present
  | cons digit rest ih =>
    have decimal : isDecimal digit = true :=
      isDecimal_of_isDigit (ordinary digit List.mem_cons_self)
    cases rest with
    | nil => simp [digitRun, decimal]
    | cons next rest =>
      -- An underscore is no digit, so the next character does not separate.
      have digit' : next.isDigit = true := ordinary next (by simp)
      have apart : next ≠ '_' := by
        rintro rfl
        exact absurd digit' (by decide)
      have later := ih (by simp) fun c member => ordinary c (List.mem_cons_of_mem _ member)
      rw [digitRun]
      · simp [decimal, later]
      · simpa using apart

/-- A number that is not too long is read back from its text. -/
theorem integerText_integerDigits (short : value.natAbs < 10 ^ maxIntegerDigits) :
    integerText (integerDigits value) = some value := by
  have run : digitRun (decimalDigits value.natAbs) = some (decimalDigits value.natAbs) :=
    digitRun_of_isDigit (decimalDigits_ne_nil _) fun c => isDigit_of_mem_decimalDigits
  have fits : ¬maxIntegerDigits < (decimalDigits value.natAbs).length :=
    Nat.not_lt.mpr ((length_decimalDigits_le_iff (by decide)).mpr short)
  -- The sign is taken off in front of a negative number, and there is none otherwise.
  by_cases negative : value < 0
  · rw [integerDigits, if_pos negative, integerText]
    simp only [run, if_neg fits, List.head?_cons, if_pos, decimalNumber_decimalDigits]
    rw [Option.some.injEq]
    omega
  · rw [integerDigits, if_neg negative]
    obtain ⟨digit, rest, digits⟩ := List.exists_cons_of_ne_nil
      (decimalDigits_ne_nil value.natAbs)
    have ordinary : digit.isDigit = true :=
      isDigit_of_mem_decimalDigits (digits ▸ List.mem_cons_self)
    -- A digit is no sign.
    have unsigned : digit ≠ '-' ∧ digit ≠ '+' := by
      constructor
      · rintro rfl
        exact absurd ordinary (by decide)
      · rintro rfl
        exact absurd ordinary (by decide)
    rw [digits] at run fits ⊢
    unfold integerText
    split
    · rename_i same
      exact absurd (List.cons.inj same).1 unsigned.1
    · rename_i same
      exact absurd (List.cons.inj same).1 unsigned.2
    · simp only [run, if_neg fits, List.head?_cons, Option.some.injEq, if_neg unsigned.1]
      rw [← digits, decimalNumber_decimalDigits]
      omega

/-- A decimal digit stands for less than ten. -/
theorem decimalValue_lt {value : Nat} (found : decimalValue c = some value) : value < 10 := by
  obtain ⟨first, member, rfl⟩ := Option.map_eq_some_iff.mp found
  have inside := List.find?_some member
  simp only [decide_eq_true_eq] at inside
  omega

/-- A number has a power of ten above it for each of its digits. -/
theorem decimalNumber_lt (digits : List Char) : decimalNumber digits < 10 ^ digits.length := by
  -- The last digit is less than ten, and the ones before it are counted ten times.
  induction digits using List.reverseRecOn with
  | nil => simp [decimalNumber]
  | append_singleton digits digit ih =>
    have small : (decimalValue digit).getD 0 < 10 := by
      cases found : decimalValue digit with
      | none => simp
      | some value => exact decimalValue_lt found
    have added : decimalNumber (digits ++ [digit]) =
        10 * decimalNumber digits + (decimalValue digit).getD 0 := by
      simp [decimalNumber]
    rw [added, List.length_append, List.length_singleton, Nat.pow_succ]
    omega

/-- A number that is read from a text is short. -/
theorem integerText_lt {text : List Char} {value : Int} (read : integerText text = some value) :
    value.natAbs < 10 ^ maxIntegerDigits := by
  -- The sign does not count, and the digits are few enough.
  unfold integerText at read
  extract_lets unsigned at read
  cases run : digitRun unsigned with
  | none =>
    rw [run] at read
    cases read
  | some digits =>
    simp only [run] at read
    split at read
    · cases read
    · rename_i fits
      -- As many digits as there are bound the number.
      have below := decimalNumber_lt digits
      have grows : 10 ^ digits.length ≤ 10 ^ maxIntegerDigits :=
        Nat.pow_le_pow_right (by decide) (Nat.not_lt.mp fits)
      have size : value.natAbs = decimalNumber digits := by
        split at read <;> cases read <;> simp
      rw [size]
      exact Nat.lt_of_lt_of_le below grows

/-- An ordinary digit is no blank. -/
theorem isSpace_of_isDigit (digit : c.isDigit = true) : isSpace c = false := by
  have bounds := bounds_of_isDigit digit
  simp [isSpace]
  omega

/-- A number that is not too long is read back from its digits. -/
theorem integerIn?_decimalDigits (short : number < 10 ^ maxIntegerDigits) :
    integerIn? (decimalDigits number) = some number := by
  -- No digit is a blank, so that nothing is trimmed.
  have solid : ∀ list : List Char, (∀ c ∈ list, c.isDigit = true) →
      list.dropWhile surroundsNumber = list := by
    intro list ordinary
    cases list with
    | nil => rfl
    | cons c rest =>
      have clear := isSpace_of_isDigit (ordinary c List.mem_cons_self)
      simp [surroundsNumber, clear]
  have digits : ∀ c ∈ decimalDigits number, c.isDigit = true :=
    fun c => isDigit_of_mem_decimalDigits
  have written : integerDigits (number : Int) = decimalDigits number := by
    simp [integerDigits]
  rw [integerIn?, unpadded, solid _ digits,
    solid _ (fun c member => digits c (List.mem_reverse.mp member)), List.reverse_reverse, ← written]
  exact integerText_integerDigits short

end StockMarket
