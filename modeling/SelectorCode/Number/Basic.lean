import SelectorCode.Number.Shortest

/-!
# Numbers

A number is an exact integer or a double.

## Main Definitions

* `Binary64.text`: the shortest decimal of a double, laid out.
* `Number`: the type.
* `Number.text`: the written form of a number.
* `numeralLimit`: the longest integer that is written or read in decimal.
-/

namespace SelectorCode

/-- The decimal point after the first `k + 1` digits, with zeros where digits are missing and at least one digit
on each side. -/
def positional (digits : Text) (k : Int) : Text :=
  if k < 0 then '0' :: '.' :: List.replicate (-k - 1).toNat '0' ++ digits
  else
    let whole := digits.take (k.toNat + 1)
    let fraction := digits.drop (k.toNat + 1)
    whole ++ List.replicate (k.toNat + 1 - whole.length) '0' ++
      '.' :: (if fraction.isEmpty then ['0'] else fraction)

/-- One digit before the point, none after it when there are no more, and an exponent with a sign and at least
two digits. -/
def scientific (digits : Text) (k : Int) : Text :=
  let power := Text.ofNat k.natAbs
  digits.take 1 ++ (if digits.length ≤ 1 then [] else '.' :: digits.drop 1) ++
    'e' :: (if k < 0 then '-' else '+') :: List.replicate (2 - power.length) '0' ++ power

namespace Binary64

/-- The shortest decimal that reads back, positional from `10 ^ -4` up to below `10 ^ 16`. -/
def text : Binary64 → Text
  | finite negative m e =>
    (if negative then ['-'] else []) ++
      if m = 0 then "0.0".toList
      else
        let (digits, k) := shortest m e
        if -4 ≤ k ∧ k < 16 then positional digits k else scientific digits k
  | infinite negative => if negative then "-inf".toList else "inf".toList
  | nan => "nan".toList

example : (ofDecimal false 1 (-1)).text = "0.1".toList := by decide +kernel
example : (ofDecimal true 15 15).text = "-1.5e+16".toList := by decide +kernel
example : (ofDecimal false 1 (-7)).text = "1e-07".toList := by decide +kernel
example : (ofDecimal false 1 1).text = "10.0".toList := by decide +kernel
example : (ofDecimal false 5 (-324)).text = "5e-324".toList := by decide +kernel

end Binary64

/-- An exact integer or a double. -/
inductive Number where
  | int (value : Int)
  | float (value : Binary64)
deriving DecidableEq, Repr

namespace Number

/-- The written form of a number. -/
def text : Number → Text
  | int n => Text.ofInt n
  | float x => x.text

/-- The number of digits up to which integers are converted from and to decimal. -/
def digitLimit : Nat := 4300

/-- Whether an integer has more decimal digits than are converted. -/
def isTooLong (n : Int) : Bool :=
  Nat.pow 10 digitLimit ≤ n.natAbs

end Number

end SelectorCode
