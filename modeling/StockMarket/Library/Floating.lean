import StockMarket.Library.Text

/-! Binary floating-point numbers of 64 bits, as they are read from decimal text. -/

namespace StockMarket

/-- A number of sign, mantissa, and binary exponent, or one of the values without those. -/
inductive Floating where
  | nan
  | infinite (negative : Bool)
  | finite (negative : Bool) (mantissa : Nat) (exponent : Int)
  deriving DecidableEq

namespace Floating

/-- A ratio, rounded to the nearest number; of two that are equally near, to the even one. -/
def roundRatio (numerator denominator : Nat) : Nat :=
  let quotient := numerator / denominator
  let rest := numerator % denominator
  if 2 * rest < denominator then quotient
  else if denominator < 2 * rest then quotient + 1
  else quotient + quotient % 2

/-- The greatest power of two that a positive ratio reaches. -/
def binaryTop (numerator denominator : Nat) : Int :=
  let guess : Int := (numerator.log2 : Int) - denominator.log2
  if numerator * 2 ^ (-guess).toNat < denominator * 2 ^ guess.toNat then guess - 1 else guess

/-- The nearest number of 53 bits; numbers that are too large are infinite. -/
def ofRatio (negative : Bool) (numerator denominator : Nat) : Floating :=
  if numerator = 0 then .finite negative 0 0
  else
    let exponent := max (binaryTop numerator denominator - 52) (-1074)
    let mantissa :=
      roundRatio (numerator * 2 ^ (-exponent).toNat) (denominator * 2 ^ exponent.toNat)
    if 2 ^ 1024 * 2 ^ (-exponent).toNat ≤ mantissa * 2 ^ exponent.toNat then .infinite negative
    else .finite negative mantissa exponent

/-- The nearest number to one in decimal notation. -/
def ofDecimal (negative : Bool) (mantissa : Nat) (exponent : Int) : Floating :=
  ofRatio negative (mantissa * 10 ^ exponent.toNat) (10 ^ (-exponent).toNat)

/-- The nearest number to a whole one. -/
def ofInt (value : Int) : Floating := ofRatio (decide (value < 0)) value.natAbs 1

/-- Whether a number counts as true. -/
def truthy : Floating → Bool
  | .finite _ mantissa _ => mantissa ≠ 0
  | _ => true

/-- A number from zero to one. -/
def isUnit : Floating → Bool
  | .finite negative mantissa exponent =>
    (mantissa = 0 ∨ negative = false) ∧ mantissa * 2 ^ exponent.toNat ≤ 2 ^ (-exponent).toNat
  | _ => false

/-- A finite number without its fraction. -/
def truncated (negative : Bool) (mantissa : Nat) (exponent : Int) : Int :=
  let whole : Nat := mantissa * 2 ^ exponent.toNat / 2 ^ (-exponent).toNat
  if negative then -whole else whole

/-- The digits at the beginning, with the underscores between them, and what follows. -/
def digitsThen (text : List Char) : Option (List Char) × List Char :=
  let isPart (c : Char) : Bool := isDecimal c || c = '_'
  (digitRun (text.takeWhile isPart), text.dropWhile isPart)

/-- A sign at the beginning, and what follows. -/
def signThen : List Char → Bool × List Char
  | '-' :: rest => (true, rest)
  | '+' :: rest => (false, rest)
  | text => (false, text)

/-- The exponent that ends a number, zero when there is none. -/
def exponentOf : List Char → Option Int
  | [] => some 0
  | mark :: rest =>
    if mark = 'e' ∨ mark = 'E' then
      let (negative, unsigned) := signThen rest
      match digitsThen unsigned with
      | (some digits, []) =>
        some (if negative then -decimalNumber digits else decimalNumber digits)
      | _ => none
    else none

/-- The number that a text without sign and white space stands for. -/
def ofUnsigned (negative : Bool) (text : List Char) : Option Floating :=
  let lower := String.ofList (text.map Char.toLower)
  if lower = "nan" then some .nan
  else if lower = "inf" ∨ lower = "infinity" then some (.infinite negative)
  else
    -- One of the two runs of digits around the point may be missing.
    let (whole, rest) := match text with
      | '.' :: _ => (some [], text)
      | _ => digitsThen text
    let (fraction, rest) := match rest with
      | '.' :: [] => (some [], [])
      | '.' :: mark :: later =>
        if mark = 'e' ∨ mark = 'E' then (some [], mark :: later) else digitsThen (mark :: later)
      | _ => (some [], rest)
    match whole, fraction, exponentOf rest with
    | some whole, some fraction, some exponent =>
      if whole = [] ∧ fraction = [] then none
      else
        let mantissa := decimalNumber (whole ++ fraction)
        some (ofDecimal negative mantissa (exponent - fraction.length))
    | _, _, _ => none

/-- The number that a text stands for, if it stands for any. -/
def ofText? (text : List Char) : Option Floating :=
  let (negative, unsigned) := signThen (unpadded text)
  ofUnsigned negative unsigned

end Floating

end StockMarket
