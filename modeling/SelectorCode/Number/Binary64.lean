import SelectorCode.Text.Basic

/-!
# Binary64 numbers

The double-precision numbers of IEEE 754 as exact values: a sign, a significand below `2 ^ 53` and a power of two.
All arithmetic is on natural numbers, so every rounding is a statement about integers.

## Main Definitions

* `Binary64`: the type.
* `roundHalfEven`: a quotient to the nearest integer, ties to even.
* `Binary64.ofRatio`: the nearest double of a quotient.
* `Binary64.ofDecimal`: the nearest double of a decimal.
* `Binary64.ofInt?`: the nearest double of an integer, if it is in range.
* `Binary64.toInt?`: the integer that a double is, if it is one.

## Design Notes

A finite value is kept in the one form with a significand of at least `2 ^ 52`, or with the least exponent
`-1074`, so equality of values of one sign is equality of fields. There is one not-a-number, equal to itself;
the two zeros differ in their sign.
-/

namespace SelectorCode

/-- A double-precision number. -/
inductive Binary64 where
  /-- The value `significand * 2 ^ exponent` with a sign. -/
  | finite (negative : Bool) (significand : Nat) (exponent : Int)
  | infinite (negative : Bool)
  | nan
deriving DecidableEq, Repr

/-- The integer nearest to a quotient; of two equally near, the even one. -/
def roundHalfEven (num den : Nat) : Nat :=
  if den < 2 * (num % den) ∨ (2 * (num % den) = den ∧ num / den % 2 = 1) then num / den + 1
  else num / den

namespace Binary64

/-- The exponent of the last place of every subnormal number. -/
def leastExponent : Int := -1074

/-- The exponent of the last place of the largest finite numbers. -/
def greatestExponent : Int := 971

/-- Zero with a sign. -/
def zero (negative : Bool) : Binary64 :=
  finite negative 0 leastExponent

/-- The quotient `num / den` divided by `2 ^ e`, as a quotient. -/
def scaled (num den : Nat) (e : Int) : Nat × Nat :=
  if 0 ≤ e then (num, den * Nat.pow 2 e.toNat) else (num * Nat.pow 2 (-e).toNat, den)

/-- The exponent at which a positive quotient has 53 significant bits, or the least exponent. -/
def lastPlace (num den : Nat) : Int :=
  let e : Int := num.log2 - den.log2 - 52
  let q := scaled num den e
  max (if q.2 * Nat.pow 2 52 ≤ q.1 then e else e - 1) leastExponent

/-- The double with a given rounded significand, renormalized when rounding has reached `2 ^ 53`. -/
def ofParts (negative : Bool) (significand : Nat) (exponent : Int) : Binary64 :=
  let (m, e) :=
    if significand = Nat.pow 2 53 then (Nat.pow 2 52, exponent + 1) else (significand, exponent)
  if greatestExponent < e then infinite negative else finite negative m e

/-- The double nearest to `num / den`; a quotient beyond the finite range is infinite. -/
def ofRatio (negative : Bool) (num den : Nat) : Binary64 :=
  if num = 0 then zero negative
  else
    let e := lastPlace num den
    let q := scaled num den e
    ofParts negative (roundHalfEven q.1 q.2) e

/-- The double nearest to `digits * 10 ^ exponent`. The binary logarithm settles exponents so large that the
result is infinite or zero, before any power of ten is taken. -/
def ofDecimal (negative : Bool) (digits : Nat) (exponent : Int) : Binary64 :=
  if digits = 0 then zero negative
  else if 309 < (digits.log2 * 3 / 10 : Nat) + exponent then infinite negative
  else if ((digits.log2 + 1) * 31 / 100 + 1 : Nat) + exponent < -330 then zero negative
  else if 0 ≤ exponent then ofRatio negative (digits * Nat.pow 10 exponent.toNat) 1
  else ofRatio negative digits (Nat.pow 10 (-exponent).toNat)

/-- Whether a number is neither infinite nor not-a-number. -/
def isFinite : Binary64 → Bool
  | finite .. => true
  | _ => false

/-- The double nearest to an integer, unless the integer is out of range. -/
def ofInt? (n : Int) : Option Binary64 :=
  let x := ofRatio (n < 0) n.natAbs 1
  if x.isFinite then some x else none

/-- The integer that a double is; the two zeros are the same integer. -/
def toInt? : Binary64 → Option Int
  | finite negative m e =>
    let sign (n : Nat) : Int := if negative then -n else n
    if 0 ≤ e then some (sign (m * Nat.pow 2 e.toNat))
    else if m % Nat.pow 2 (-e).toNat = 0 then some (sign (m / Nat.pow 2 (-e).toNat))
    else none
  | _ => none

example : ofDecimal false 1 (-1) = finite false 0x1999999999999a (-56) := by decide +kernel
example : ofDecimal false 5 (-324) = finite false 1 (-1074) := by decide +kernel
example : ofDecimal true 1 309 = infinite true := by decide +kernel
example : (ofDecimal false 1 22).toInt? = some (10 ^ 22) := by decide +kernel

end Binary64

end SelectorCode
