import SelectorCode.Text.Digit

/-!
# Quoted string literals

The literal that stands for a text in generated code: the text between two delimiters, with control characters,
backslashes and the delimiter escaped.

## Main Definitions

* `Delimiter`: the three quotation marks that delimit a literal.
* `escapeChar`: the written form of one character.
* `literal`: the literal of a text.
* `unescape`: the text that the body of a literal stands for.

## Design Notes

A quotation mark other than the delimiter needs no escape and gets none, so the same text has a different literal
for each delimiter. Only characters below U+0020 are written in hexadecimal; everything above stands for itself.
-/

namespace SelectorCode.Text

/-- A quotation mark that opens and closes a literal. -/
inductive Delimiter where
  | single
  | double
  | backtick
deriving DecidableEq, Repr

namespace Delimiter

/-- The quotation mark itself. -/
def char : Delimiter → Char
  | single => '\x27'
  | double => '"'
  | backtick => '\x60'

/-- The delimiter that a text of one quotation mark names. -/
def ofText? (t : Text) : Option Delimiter :=
  if t = [single.char] then some single
  else if t = [double.char] then some double
  else if t = [backtick.char] then some backtick
  else none

end Delimiter

/-- The lower-case hexadecimal digit of a value below sixteen. -/
def hexDigit (n : Nat) : Char :=
  Nat.digitChar n

/-- The escape for a control character without a short one. -/
def escapeCode (n : Nat) : Text :=
  ['\\', 'u', '0', '0', hexDigit (n / 16), hexDigit (n % 16)]

/-- The written form of a character in a literal with the given delimiter. -/
def escapeChar (d : Delimiter) (c : Char) : Text :=
  if c = d.char then ['\\', c]
  else match c with
    | '\\' => ['\\', '\\']
    | '\n' => ['\\', 'n']
    | '\r' => ['\\', 'r']
    | '\t' => ['\\', 't']
    | '\x08' => ['\\', 'b']
    | '\x0c' => ['\\', 'f']
    | c => if c.toNat < 0x20 then escapeCode c.toNat else [c]

/-- The literal of a text. -/
def literal (d : Delimiter) (t : Text) : Text :=
  d.char :: t.flatMap (escapeChar d) ++ [d.char]

/-- The character that a letter stands for after a backslash; any other character stands for itself. -/
def unescapeChar : Char → Char
  | 'n' => '\n'
  | 'r' => '\r'
  | 't' => '\t'
  | 'b' => '\x08'
  | 'f' => '\x0c'
  | c => c

/-- The value of four hexadecimal digits. -/
def hexQuad? (a b c d : Char) : Option Nat := do
  return (((← hexValue? a) * 16 + (← hexValue? b)) * 16 + (← hexValue? c)) * 16 + (← hexValue? d)

/-- A character is written with a backslash and a letter, as the code of a control character, or as itself. -/
theorem escapeChar_cases (d : Delimiter) (c : Char) :
    (∃ e ∈ d.char :: ['\\', 'n', 'r', 't', 'b', 'f'],
      escapeChar d c = ['\\', e] ∧ unescapeChar e = c) ∨
    (c.toNat < 0x20 ∧ escapeChar d c = escapeCode c.toNat) ∨
    (escapeChar d c = [c] ∧ c ≠ d.char ∧ c ≠ '\\' ∧ 0x20 ≤ c.toNat) := by
  have hdelimiter : unescapeChar d.char = d.char := by cases d <;> rfl
  unfold escapeChar
  split
  next hc =>
    rw [hc]
    exact Or.inl ⟨d.char, List.mem_cons_self, rfl, hdelimiter⟩
  next hquote =>
    split
    · exact Or.inl ⟨'\\', List.mem_cons_of_mem _ (by decide), rfl, rfl⟩
    · exact Or.inl ⟨'n', List.mem_cons_of_mem _ (by decide), rfl, rfl⟩
    · exact Or.inl ⟨'r', List.mem_cons_of_mem _ (by decide), rfl, rfl⟩
    · exact Or.inl ⟨'t', List.mem_cons_of_mem _ (by decide), rfl, rfl⟩
    · exact Or.inl ⟨'b', List.mem_cons_of_mem _ (by decide), rfl, rfl⟩
    · exact Or.inl ⟨'f', List.mem_cons_of_mem _ (by decide), rfl, rfl⟩
    next hbackslash _ _ _ _ _ =>
      split
      next hcontrol => exact Or.inr (Or.inl ⟨hcontrol, rfl⟩)
      next hprint => exact Or.inr (Or.inr ⟨rfl, hquote, hbackslash, Nat.le_of_not_lt hprint⟩)

/-- Undoes the escapes in the body of a literal, from left to right. -/
def unescape : Text → Text
  | '\\' :: 'u' :: a :: b :: c :: d :: r =>
    match hexQuad? a b c d with
    | some n => Char.ofNat n :: unescape r
    | none => 'u' :: unescape (a :: b :: c :: d :: r)
  | '\\' :: c :: r => unescapeChar c :: unescape r
  | c :: r => c :: unescape r
  | [] => []

example : literal .single "it's \"x\"".toList = "'it\\'s \"x\"'".toList := by decide
example : literal .double "a\x01\n\"".toList = "\"a\\u0001\\n\\\"\"".toList := by decide
example : unescape "a\\u0001\\n\\\"".toList = "a\x01\n\"".toList := by decide

end SelectorCode.Text
