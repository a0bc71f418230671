import SelectorCode.Text.Literal
import SelectorCode.Text.Unprintable

/-!
# Shown text

Messages show a text that came from outside in quotation marks, with everything unprintable escaped, so that the
reader sees where it ends.

## Main Definitions

* `showChar`: the shown form of one character.
* `shown`: the shown form of a text.
-/

namespace SelectorCode.Text

/-- The last `digits` hexadecimal digits of a number, most significant first. -/
def hexDigits : Nat → Nat → Text
  | 0, _ => []
  | digits + 1, n => hexDigits digits (n / 16) ++ [hexDigit (n % 16)]

/-- The shown form of a character between the given quotation marks. -/
def showChar (quote c : Char) : Text :=
  if c = quote ∨ c = '\\' then ['\\', c]
  else if c = '\t' then ['\\', 't']
  else if c = '\n' then ['\\', 'n']
  else if c = '\r' then ['\\', 'r']
  else if isPrintable c then [c]
  else if c.toNat ≤ 0xFF then '\\' :: 'x' :: hexDigits 2 c.toNat
  else if c.toNat ≤ 0xFFFF then '\\' :: 'u' :: hexDigits 4 c.toNat
  else '\\' :: 'U' :: hexDigits 8 c.toNat

/-- The mark that surrounds a shown text: an apostrophe, unless the text holds apostrophes and no double
quotation mark. -/
def shownQuote (t : Text) : Char :=
  if '\x27' ∈ t ∧ '"' ∉ t then '"' else '\x27'

/-- A text in quotation marks with the unprintable characters escaped. -/
def shown (t : Text) : Text :=
  shownQuote t :: t.flatMap (showChar (shownQuote t)) ++ [shownQuote t]

example : shown "it's".toList = "\"it's\"".toList := by decide
example : shown "a\x7f\n".toList = "'a\\x7f\\n'".toList := by decide

end SelectorCode.Text
