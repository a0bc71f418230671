import SelectorCode.Number.Basic
import SelectorCode.Text.Blank
import SelectorCode.Text.Digit

/-!
# Numerals

The numerals of attribute values: decimal with an optional fraction and exponent, hexadecimal, octal and binary
with a prefix, and the word `Infinity`. Blanks around a numeral are ignored and nothing at all counts as zero.

## Main Definitions

* `Decimal`: a decimal as written.
* `decimal?`: reads a decimal; the digits may be those of any script.
* `radixInteger?`: reads an integer with a radix prefix.
* `numeral?`: reads a numeral.
-/

namespace SelectorCode

/-- The number that digits in the given base stand for, most significant first. -/
def ofDigits (base : Nat) (digits : List Nat) : Nat :=
  digits.foldl (fun n d => n * base + d) 0

/-- A decimal as it is written: a sign, all digits as one number, and the power of ten of the last one. -/
structure Decimal where
  negative : Bool
  digits : Nat
  exponent : Int
deriving DecidableEq, Repr

namespace Decimal

/-- The nearest double. -/
def toBinary64 (d : Decimal) : Binary64 :=
  Binary64.ofDecimal d.negative d.digits d.exponent

end Decimal

/-- A plus or minus sign in front of a text, as whether it is a minus, and the rest. -/
def readSign : Text → Bool × Text
  | '-' :: r => (true, r)
  | '+' :: r => (false, r)
  | t => (false, t)

/-- The values of the decimal digits that a text begins with, and the rest. -/
def readDigits (t : Text) : List Nat × Text :=
  ((t.takeWhile Text.isDecimalDigit).filterMap Text.digitValue?, t.dropWhile Text.isDecimalDigit)

/-- The fraction that a decimal point introduces; without a point there is none. -/
def readFraction : Text → List Nat × Text
  | '.' :: r => readDigits r
  | t => ([], t)

/-- The exponent in a text that must hold nothing else; the empty text has exponent zero. -/
def exponent? : Text → Option Int
  | [] => some 0
  | c :: r =>
    if c = 'e' ∨ c = 'E' then
      let (negative, r) := readSign r
      match readDigits r with
      | ([], _) => none
      | (digits, []) => some (if negative then -(ofDigits 10 digits) else ofDigits 10 digits)
      | (_, _ :: _) => none
    else none

/-- Reads a decimal: an optional sign, digits with at most one point among or around them, an optional exponent. -/
def decimal? (t : Text) : Option Decimal :=
  let (negative, t) := readSign t
  let (whole, t) := readDigits t
  let (fraction, t) := readFraction t
  if whole.isEmpty && fraction.isEmpty then none
  else (exponent? t).map fun e => ⟨negative, ofDigits 10 (whole ++ fraction), e - fraction.length⟩

/-- The value of a digit in a base of at most sixteen. -/
def digitIn? (base : Nat) (c : Char) : Option Nat :=
  (Text.hexValue? c).filter (· < base)

/-- The base that a radix prefix names. -/
def radix? (c : Char) : Option Nat :=
  if c = 'x' ∨ c = 'X' then some 16
  else if c = 'o' ∨ c = 'O' then some 8
  else if c = 'b' ∨ c = 'B' then some 2
  else none

/-- Reads an integer with a radix prefix: `0x`, `0o` or `0b`, in either case, and at least one digit. -/
def radixInteger? : Text → Option Nat
  | '0' :: p :: c :: r => do
    let base ← radix? p
    return ofDigits base (← (c :: r).mapM (digitIn? base))
  | _ => none

/-- The infinity that a word names. -/
def infinity? (t : Text) : Option Binary64 :=
  if t = "Infinity".toList ∨ t = "+Infinity".toList then some (.infinite false)
  else if t = "-Infinity".toList then some (.infinite true)
  else none

/-- A double as a number: an integral one becomes an exact integer. -/
def Number.ofBinary64 (x : Binary64) : Number :=
  match x.toInt? with
  | some n => .int n
  | none => .float x

/-- Reads a numeral without blanks around it. -/
def trimmedNumeral? (t : Text) : Option Number :=
  if t.isEmpty then some (.int 0)
  else match radixInteger? t with
    | some n => some (.int n)
    | none => match infinity? t with
      | some x => some (.float x)
      | none => (decimal? t).map fun d => Number.ofBinary64 d.toBinary64

/-- Reads a numeral. -/
def numeral? (t : Text) : Option Number :=
  trimmedNumeral? (Text.trim t)

example : numeral? " 0x1F ".toList = some (.int 31) := by decide +kernel
example : numeral? "1e2".toList = some (.int 100) := by decide +kernel
example : numeral? "1.5e".toList = none := by decide +kernel
example : numeral? "".toList = some (.int 0) := by decide +kernel

end SelectorCode
