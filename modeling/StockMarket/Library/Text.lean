import Mathlib.Data.List.Basic
import Mathlib.Tactic.IntervalCases

/-! Text as the source language reads it: white space, stripping, and decimal digits. -/

namespace StockMarket

/-- The characters that stripping removes. -/
def isSpace (c : Char) : Bool :=
  let code := c.toNat
  (0x09 ≤ code && code ≤ 0x0D) || (0x1C ≤ code && code ≤ 0x20) || code == 0x85 || code == 0xA0 ||
    code == 0x1680 || (0x2000 ≤ code && code ≤ 0x200A) || code == 0x2028 || code == 0x2029 ||
    code == 0x202F || code == 0x205F || code == 0x3000

/-- Remove white space at both ends. -/
def strip (text : String) : String :=
  String.ofList (((text.toList.dropWhile isSpace).reverse.dropWhile isSpace).reverse)

/-- The blanks that may stand around a number; the separators of records are none of them. -/
def surroundsNumber (c : Char) : Bool := isSpace c && !(0x1C ≤ c.toNat && c.toNat ≤ 0x1F)

/-- A text without the blanks around a number. -/
def unpadded (text : List Char) : List Char :=
  ((text.dropWhile surroundsNumber).reverse.dropWhile surroundsNumber).reverse

/-- A text is blank when nothing is left after stripping. -/
def isBlank (text : String) : Bool := strip text = ""

/-- The zeros of all runs of ten decimal digits. -/
def decimalZeros : List Nat :=
  [0x30, 0x660, 0x6F0, 0x7C0, 0x966, 0x9E6, 0xA66, 0xAE6, 0xB66, 0xBE6, 0xC66, 0xCE6, 0xD66, 0xDE6,
   0xE50, 0xED0, 0xF20, 0x1040, 0x1090, 0x17E0, 0x1810, 0x1946, 0x19D0, 0x1A80, 0x1A90, 0x1B50,
   0x1BB0, 0x1C40, 0x1C50, 0xA620, 0xA8D0, 0xA900, 0xA9D0, 0xA9F0, 0xAA50, 0xABF0, 0xFF10, 0x104A0,
   0x10D30, 0x11066, 0x110F0, 0x11136, 0x111D0, 0x112F0, 0x11450, 0x114D0, 0x11650, 0x116C0,
   0x11730, 0x118E0, 0x11950, 0x11C50, 0x11D50, 0x11DA0, 0x11F50, 0x16A60, 0x16AC0, 0x16B50,
   0x1D7CE, 0x1D7D8, 0x1D7E2, 0x1D7EC, 0x1D7F6, 0x1E140, 0x1E2F0, 0x1E4F0, 0x1E950, 0x1FBF0]

/-- The value of a decimal digit in any script. -/
def decimalValue (c : Char) : Option Nat :=
  (decimalZeros.find? fun first => first ≤ c.toNat ∧ c.toNat < first + 10).map (c.toNat - ·)

/-- A character that is a decimal digit. -/
def isDecimal (c : Char) : Bool := (decimalValue c).isSome

/-- The digits that are not decimal digits, such as superscripts, by first and last code. -/
def otherDigits : List (Nat × Nat) :=
  [(0xB2, 0xB3), (0xB9, 0xB9), (0x1369, 0x1371), (0x19DA, 0x19DA), (0x2070, 0x2070),
   (0x2074, 0x2079), (0x2080, 0x2089), (0x2460, 0x2468), (0x2474, 0x247C), (0x2488, 0x2490),
   (0x24EA, 0x24EA), (0x24F5, 0x24FD), (0x24FF, 0x24FF), (0x2776, 0x277E), (0x2780, 0x2788),
   (0x278A, 0x2792), (0x10A40, 0x10A43), (0x10E60, 0x10E68), (0x11052, 0x1105A), (0x1F100, 0x1F10A)]

/-- A digit of any kind. -/
def isAnyDigit (c : Char) : Bool :=
  isDecimal c || otherDigits.any fun range => range.1 ≤ c.toNat ∧ c.toNat ≤ range.2

/-- A text that has characters, all of them digits. -/
def isDigits (text : String) : Bool := text ≠ "" ∧ text.toList.all isAnyDigit

/-- The number that a list of decimal digits stands for. -/
def decimalNumber (digits : List Char) : Nat :=
  digits.foldl (fun number digit => 10 * number + (decimalValue digit).getD 0) 0

/-- Most digits that are converted to a number; longer texts raise. -/
def maxIntegerDigits : Nat := 4300

/-- The digits of a number, which single underscores may separate. -/
def digitRun : List Char → Option (List Char)
  | [] => none
  | [c] => if isDecimal c then some [c] else none
  | c :: '_' :: rest => if isDecimal c then (digitRun rest).map (c :: ·) else none
  | c :: next :: rest => if isDecimal c then (digitRun (next :: rest)).map (c :: ·) else none

/-- The number that a text is converted to; texts of too many digits are not. -/
def integerText (text : List Char) : Option Int :=
  let unsigned := match text with
    | '-' :: rest => rest
    | '+' :: rest => rest
    | text => text
  match digitRun unsigned with
  | none => none
  | some digits =>
    if maxIntegerDigits < digits.length then none
    else some (if text.head? = some '-' then -decimalNumber digits else decimalNumber digits)

/-- The lower-case hexadecimal digits of a number, most significant first. -/
def hexDigits (number : Nat) : Nat → List Char
  | 0 => []
  | count + 1 =>
    hexDigits (number / 16) count ++ ["0123456789abcdef".toList.getD (number % 16) '0']

/-- The digits that a hexadecimal pattern accepts. -/
def isHexDigit (c : Char) : Bool :=
  (48 ≤ c.toNat ∧ c.toNat ≤ 57) ∨ (65 ≤ c.toNat ∧ c.toNat ≤ 70) ∨ (97 ≤ c.toNat ∧ c.toNat ≤ 102)

/-- An ordinary digit is a decimal digit, and the first run has it. -/
theorem isDecimal_of_isDigit {c : Char} (digit : c.isDigit = true) : isDecimal c = true := by
  -- The first entry of the table already covers these.
  simp only [Char.isDigit, Bool.and_eq_true, decide_eq_true_eq] at digit
  have bounds : 48 ≤ c.toNat ∧ c.toNat < 58 := by
    have low : (48 : Nat) ≤ c.val.toNat := digit.1
    have high : c.val.toNat ≤ 57 := digit.2
    exact ⟨low, by show c.val.toNat < 58; omega⟩
  simp [isDecimal, decimalValue, decimalZeros, bounds]

/-- Every digit of a number in hexadecimal is one that a pattern accepts. -/
theorem isHexDigit_of_mem {number count : Nat} {c : Char} (member : c ∈ hexDigits number count) :
    isHexDigit c = true := by
  induction count generalizing number with
  | zero => exact absurd member List.not_mem_nil
  | succ count ih =>
    rcases List.mem_append.mp member with front | last
    · exact ih front
    · -- The last digit is one of sixteen.
      rw [List.mem_singleton.mp last]
      have small : number % 16 < 16 := Nat.mod_lt _ (by decide)
      interval_cases number % 16 <;> decide

/-- Text whose first and last characters are not white space is its own stripped form. -/
theorem strip_eq_self {text : String} (solid : ∀ c ∈ text.toList, isSpace c = false) :
    strip text = text := by
  -- Neither end has anything to drop.
  have keep : ∀ list : List Char, (∀ c ∈ list, isSpace c = false) →
      list.dropWhile isSpace = list := by
    intro list clear
    cases list with
    | nil => rfl
    | cons head rest => simp [clear head (by simp)]
  rw [strip, keep _ solid, keep _ (fun c member => solid c (List.mem_reverse.mp member)),
    List.reverse_reverse, String.ofList_toList]

end StockMarket
