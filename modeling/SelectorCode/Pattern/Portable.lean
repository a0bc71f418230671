import SelectorCode.Text.Digit
import SelectorCode.Text.Letter

/-!
# Portable patterns

Two dialects of regular expressions meet here: the one that selectors are written in, and the one whose grammar is
checked. This module rewrites the constructs of the first that the second spells differently.

* `(?<name>` becomes `(?P<name>` and a reference `\k<name>` becomes `(?P=name)`.
* A backslash before a letter that it does not change is dropped, and so is one that starts an incomplete `\x` or
  `\u` escape.
* The empty classes `[^]` and `[]` become `[\s\S]` and `(?!)`.

## Main Definitions

* `Text.isWord`: the characters that group names are made of.
* `startsName`: whether a group name and its closing bracket follow.
* `Context`: where in a pattern the rewriting stands.
* `portable`: the rewriting.
-/

namespace SelectorCode

/-- Letters and numeric characters of any script, and the underscore. -/
def Text.isWord (c : Char) : Bool :=
  isLetter c || isNumeric c || c == '_'

namespace Pattern

/-- ASCII letters and the underscore, which start a group name. -/
def startsGroupName (c : Char) : Bool :=
  c.isAlpha || c == '_'

/-- Whether a group name and the bracket that closes it stand at the beginning of a text. -/
def startsName : Text → Bool
  | [] => false
  | c :: r => startsGroupName c && (r.dropWhile Text.isWord).head? == some '>'

/-- Letters that stand for themselves after a backslash. -/
def identityEscapes : Text :=
  "ceghijklmopqyzCEFGHIJKLMNOPQRTUVXY".toList

/-- Whether a text begins with the given number of hexadecimal digits. -/
def startsHex (digits : Nat) (t : Text) : Bool :=
  (t.take digits).length == digits && (t.take digits).all Text.isHexDigit

/-- Whether the backslash before `c` is dropped, when `rest` follows. -/
def isIdentityEscape (c : Char) (rest : Text) : Bool :=
  if c = 'x' then !startsHex 2 rest
  else if c = 'u' then !startsHex 4 rest
  else identityEscapes.contains c

/-- Where the rewriting stands: between items, inside a character class, or inside the name of a reference. -/
inductive Context where
  | item
  | characterClass
  | reference
deriving DecidableEq, Repr

/-- Rewrites the rest of a source from the given context. -/
def rewrite (ctx : Context) : Text → Text
  | [] => []
  | '\\' :: c :: r =>
    if ctx = .item && c == 'k' && r.head? == some '<' && startsName (r.drop 1) then
      '(' :: '?' :: 'P' :: '=' :: rewrite .reference r
    else if isIdentityEscape c r then c :: rewrite ctx r
    else '\\' :: c :: rewrite ctx r
  | '[' :: '^' :: ']' :: r =>
    if ctx = .item then "[\\s\\S]".toList ++ rewrite .item r
    else '[' :: '^' :: ']' :: rewrite (if ctx = .characterClass then .item else ctx) r
  | '[' :: ']' :: r =>
    if ctx = .item then "(?!)".toList ++ rewrite .item r
    else '[' :: ']' :: rewrite (if ctx = .characterClass then .item else ctx) r
  | '(' :: '?' :: '<' :: r =>
    if ctx = .item && startsName r then '(' :: '?' :: 'P' :: '<' :: rewrite .item r
    else '(' :: '?' :: '<' :: rewrite ctx r
  | c :: r =>
    match ctx with
    | .item => c :: rewrite (if c = '[' then .characterClass else .item) r
    | .characterClass => c :: rewrite (if c = ']' then .item else .characterClass) r
    | .reference =>
      if c = '<' then rewrite .reference r
      else if c = '>' then ')' :: rewrite .item r
      else c :: rewrite .reference r

/-- A source in the dialect whose grammar is checked. -/
def portable (source : Text) : Text :=
  rewrite .item source

example : portable "(?<n>a)\\k<n>[]\\-\\x4g".toList = "(?P<n>a)(?P=n)(?!)\\-x4g".toList := by decide

end Pattern

end SelectorCode
