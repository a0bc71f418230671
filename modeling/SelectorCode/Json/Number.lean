import SelectorCode.Json.Quoted
import SelectorCode.Number.Numeral

/-!
# Numbers in JSON

Numbers of the JSON grammar, together with the words `NaN`, `Infinity` and `-Infinity`.

## Main Definitions

* `integerPart?`: digits without a superfluous zero in front.
* `fractionPart`, `exponentPart`: what may follow them.
* `number?`: reads a number.

## Design Notes

Without a fraction and an exponent a number is an exact integer, and minus zero is zero. An integer is read only up
to the number of digits that are converted.
-/

namespace SelectorCode.Json

/-- The values of the ASCII digits that a text begins with, and the rest. -/
def asciiDigits (t : Text) : List Nat × Text :=
  ((t.takeWhile Char.isDigit).map fun c => c.toNat - 0x30, t.dropWhile Char.isDigit)

/-- A zero, or digits that do not begin with one. -/
def integerPart? : Text → Option (List Nat × Text)
  | [] => none
  | c :: r =>
    if c = '0' then some ([0], r)
    else if c.isDigit then some (asciiDigits (c :: r))
    else none

/-- A point and the digits after it, if there are any. -/
def fractionPart : Text → Option (List Nat) × Text
  | '.' :: r =>
    match asciiDigits r with
    | ([], _) => (none, '.' :: r)
    | (digits, rest) => (some digits, rest)
  | t => (none, t)

/-- An exponent, if it has digits. -/
def exponentPart : Text → Option Int × Text
  | [] => (none, [])
  | c :: r =>
    if c = 'e' ∨ c = 'E' then
      let (negative, s) := readSign r
      match asciiDigits s with
      | ([], _) => (none, c :: r)
      | (digits, rest) =>
        (some (if negative then -(ofDigits 10 digits) else ofDigits 10 digits), rest)
    else (none, c :: r)

/-- A number after its sign. -/
def magnitude? (negative : Bool) (t : Text) : Option (Number × Text) := do
  let (whole, t) ← integerPart? t
  let (fraction, t) := fractionPart t
  let (exponent, t) := exponentPart t
  if fraction.isNone && exponent.isNone then
    if Number.digitLimit < whole.length then none
    else
      let n : Int := ofDigits 10 whole
      return (.int (if negative then -n else n), t)
  else
    let digits := whole ++ fraction.getD []
    let power := exponent.getD 0 - (fraction.getD []).length
    return (.float (Binary64.ofDecimal negative (ofDigits 10 digits) power), t)

/-- The number that a word stands for. -/
def numberWord? (t : Text) : Option (Number × Text) :=
  match Text.stripPrefix? "NaN".toList t with
  | some r => some (.float .nan, r)
  | none =>
    match Text.stripPrefix? "Infinity".toList t with
    | some r => some (.float (.infinite false), r)
    | none => (Text.stripPrefix? "-Infinity".toList t).map fun r => (.float (.infinite true), r)

/-- Reads a number, and what follows it. -/
def number? (t : Text) : Option (Number × Text) :=
  match numberWord? t with
  | some n => some n
  | none =>
    match t with
    | '-' :: r => magnitude? true r
    | _ => magnitude? false t

example : number? "-0, 1".toList = some (.int 0, ", 1".toList) := by decide +kernel
example : number? "1.e5".toList = some (.int 1, ".e5".toList) := by decide +kernel

end SelectorCode.Json
