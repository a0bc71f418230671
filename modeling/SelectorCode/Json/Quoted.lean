import SelectorCode.Text.Literal

/-!
# Quoted text in JSON

Strings of the JSON grammar: characters from U+0020 on, two-character escapes, and escapes of four hexadecimal digits, of
which two may make up one character beyond U+FFFF.

## Main Definitions

* `isSpace`, `skipSpaces`: the white space between tokens.
* `Piece`: an element of a quoted text before pairs of escapes are joined.
* `pieces?`: reads up to the closing quotation mark.
* `join`: the text that pieces make up.
* `quoted?`: reads the rest of a string.
* `document?`: reads a document that is one string.

## Design Notes

An escape that names half of a pair without its other half stands for no character and is read as U+FFFD.
-/

namespace SelectorCode.Json

/-- White space between tokens. -/
def isSpace (c : Char) : Bool :=
  c == ' ' || c == '\t' || c == '\n' || c == '\r'

/-- A text without its leading white space. -/
def skipSpaces (t : Text) : Text :=
  t.dropWhile isSpace

/-- An element of a quoted text. -/
inductive Piece where
  | char (c : Char)
  /-- A value given in four hexadecimal digits. -/
  | code (n : Nat)
deriving DecidableEq, Repr

/-- The character that stands for itself or a control character after a backslash. -/
def escaped? : Char → Option Char
  | '"' => some '"'
  | '\\' => some '\\'
  | '/' => some '/'
  | 'b' => some '\x08'
  | 'f' => some '\x0c'
  | 'n' => some '\n'
  | 'r' => some '\r'
  | 't' => some '\t'
  | _ => none

/-- The pieces up to the closing quotation mark, and what follows it. -/
def pieces? : Text → Option (List Piece × Text)
  | [] => none
  | '"' :: r => some ([], r)
  | '\\' :: 'u' :: a :: b :: c :: d :: r =>
    match Text.hexQuad? a b c d with
    | none => none
    | some n => (pieces? r).map fun p => (.code n :: p.1, p.2)
  | '\\' :: c :: r =>
    match escaped? c with
    | none => none
    | some e => (pieces? r).map fun p => (.char e :: p.1, p.2)
  | c :: r =>
    if c.toNat < 0x20 then none
    else (pieces? r).map fun p => (.char c :: p.1, p.2)

/-- The first half of a pair. -/
def isHighHalf (n : Nat) : Bool :=
  0xD800 ≤ n && n ≤ 0xDBFF

/-- The second half of a pair. -/
def isLowHalf (n : Nat) : Bool :=
  0xDC00 ≤ n && n ≤ 0xDFFF

/-- The character of a pair of halves. -/
def joinHalves (high low : Nat) : Char :=
  Char.ofNat (0x10000 + (high - 0xD800) * 0x400 + (low - 0xDC00))

/-- The character of a value that is no pair with its neighbour. -/
def ofCode (n : Nat) : Char :=
  if isHighHalf n || isLowHalf n then '\ufffd' else Char.ofNat n

/-- The text that pieces make up. -/
def join : List Piece → Text
  | [] => []
  | .char c :: r => c :: join r
  | .code high :: .code low :: r =>
    if isHighHalf high && isLowHalf low then joinHalves high low :: join r
    else ofCode high :: join (.code low :: r)
  | .code n :: r => ofCode n :: join r

/-- The text up to the closing quotation mark, and what follows it. -/
def quoted? (t : Text) : Option (Text × Text) :=
  (pieces? t).map fun p => (join p.1, p.2)

/-- Pieces and what follows them are shorter than the text, which holds the closing quotation mark as well. -/
theorem pieces?_length {t rest : Text} {ps : List Piece} (h : pieces? t = some (ps, rest)) :
    ps.length + rest.length < t.length := by
  fun_induction pieces? t generalizing ps rest with
  | case1 => cases h
  | case2 r =>
    cases h
    simp
  | case3 => cases h
  | case4 a b c d r n hn ih =>
    obtain ⟨⟨qs, u⟩, hq, heq⟩ := Option.map_eq_some_iff.1 h
    cases heq
    have := ih hq
    simp only [List.length_cons]
    omega
  | case5 => cases h
  | case6 c r _ e he ih =>
    obtain ⟨⟨qs, u⟩, hq, heq⟩ := Option.map_eq_some_iff.1 h
    cases heq
    have := ih hq
    simp only [List.length_cons]
    omega
  | case7 => cases h
  | case8 c r _ _ _ hc ih =>
    obtain ⟨⟨qs, u⟩, hq, heq⟩ := Option.map_eq_some_iff.1 h
    cases heq
    have := ih hq
    simp only [List.length_cons]
    omega

/-- A piece stands for at most one character. -/
theorem length_join_le (ps : List Piece) : (join ps).length ≤ ps.length := by
  fun_induction join ps with
  | case1 => exact Nat.le_refl _
  | case2 c r ih => exact Nat.succ_le_succ ih
  | case3 high low r _ ih =>
    simp only [List.length_cons]
    omega
  | case4 high low r _ ih => exact Nat.succ_le_succ ih
  | case5 n r _ ih => exact Nat.succ_le_succ ih

/-- A string is shorter than its written form. -/
theorem quoted?_length {t text rest : Text} (h : quoted? t = some (text, rest)) :
    text.length + rest.length < t.length := by
  obtain ⟨⟨ps, u⟩, hp, heq⟩ := Option.map_eq_some_iff.1 h
  cases heq
  have h1 := pieces?_length hp
  have h2 := length_join_le ps
  simp only
  omega

theorem skipSpaces_suffix (t : Text) : skipSpaces t <:+ t :=
  List.dropWhile_suffix _

/-- A string is shorter than a text that begins with it, at least by its two quotation marks. -/
theorem length_add_two_le {t r text rest : Text} (ht : skipSpaces t = '"' :: r)
    (hr : quoted? r = some (text, rest)) : text.length + 2 ≤ t.length := by
  have hspaces := (skipSpaces_suffix t).length_le
  have hquoted := quoted?_length hr
  rw [ht, List.length_cons] at hspaces
  omega

/-- The text of a document that is one string. -/
def document? (t : Text) : Option Text :=
  match skipSpaces t with
  | '"' :: r =>
    match quoted? r with
    | some (text, rest) => if (skipSpaces rest).isEmpty then some text else none
    | none => none
  | _ => none

example : document? " \"a\\u0041\\n\\ud83d\\ude00\" ".toList = some "aA\n😀".toList := by decide

end SelectorCode.Json
