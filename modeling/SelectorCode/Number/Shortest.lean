import SelectorCode.Number.Binary64

/-!
# Shortest decimals

The decimal with the fewest digits that reads back as a given double, and of several such the one nearest to it.

## Main Definitions

* `RoundingInterval`: the reals that round to a double, in units of a quarter of its last place.
* `decimalExponent`: the power of ten of the first digit of a quotient.
* `onGrid?`: the nearest decimal with a given number of digits that lies in the interval.
* `Binary64.shortest`: digits and exponent of the shortest decimal.

## Design Notes

For each number of digits only the two neighbours of the value on that decimal grid are tested: if any point of
the grid lies in the interval, so does one of the two. Seventeen digits always suffice.
-/

namespace SelectorCode

/-- The reals that round to a positive double. In units of `num / den` they reach from `low` over `value` to
`high`, and the ends belong to them when `closed`. -/
structure RoundingInterval where
  low : Nat
  value : Nat
  high : Nat
  num : Nat
  den : Nat
  closed : Bool

/-- The interval of `significand * 2 ^ exponent`: half a place to each side, but only a quarter below a power of
two, where the numbers below lie twice as dense. -/
def RoundingInterval.of (significand : Nat) (exponent : Int) : RoundingInterval where
  low := 4 * significand -
    if significand = Nat.pow 2 52 ∧ Binary64.leastExponent < exponent then 1 else 2
  value := 4 * significand
  high := 4 * significand + 2
  num := Nat.pow 2 (exponent - 2).toNat
  den := Nat.pow 2 (2 - exponent).toNat
  closed := significand % 2 = 0

/-- The `k` with `10 ^ k ≤ num / den < 10 ^ (k + 1)`. -/
def decimalExponent (num den : Nat) : Int :=
  if den ≤ num then (Text.ofNat (num / den)).length - 1
  else -(Text.ofNat ((den + num - 1) / num - 1)).length

/-- The multiple of `10 ^ grid` in the interval that is nearest to its value, if any is in it. -/
def onGrid? (i : RoundingInterval) (grid : Int) : Option Nat :=
  let step := i.den * Nat.pow 10 grid.toNat
  let unit := i.num * Nat.pow 10 (-grid).toNat
  let below := i.value * unit / step
  let inside (a : Nat) : Bool :=
    if i.closed then i.low * unit ≤ a * step && a * step ≤ i.high * unit
    else i.low * unit < a * step && a * step < i.high * unit
  let belowGap := i.value * unit - below * step
  let aboveGap := (below + 1) * step - i.value * unit
  match inside below, inside (below + 1) with
  | true, true =>
    some (if aboveGap < belowGap ∨ (aboveGap = belowGap ∧ below % 2 = 1) then below + 1 else below)
  | true, false => some below
  | false, true => some (below + 1)
  | false, false => none

/-- The decimal digits of a number without its final zeros, and how many those were. -/
def significantDigits (n : Nat) : Text × Nat :=
  let zeros := ((Text.ofNat n).reverse.takeWhile (· = '0')).length
  ((Text.ofNat n).take ((Text.ofNat n).length - zeros), zeros)

/-- The digits of the shortest decimal that reads back as `significand * 2 ^ exponent`, and the power of ten of
the first one. -/
def shortest (significand : Nat) (exponent : Int) : Text × Int :=
  let i := RoundingInterval.of significand exponent
  let first := decimalExponent (i.value * i.num) i.den
  match (List.range 17).findSome? fun (n : Nat) => (onGrid? i (first - n)).map (·, first - n) with
  | some (n, grid) =>
    let (digits, zeros) := significantDigits n
    (digits, grid + zeros + digits.length - 1)
  | none => ([], first)

end SelectorCode
