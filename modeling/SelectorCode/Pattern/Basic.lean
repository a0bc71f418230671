import SelectorCode.Text.Basic

/-!
# Patterns

A pattern is a regular expression taken from selector text, written `/source/flags`.

## Main Definitions

* `Pattern`: the type.
* `Pattern.text`: the written form.
* `Pattern.ignoresCase`: whether the flag `i` is among the flags.
* `normalizeSource`: a source as it has to stand between slashes.

## Design Notes

A source is kept in the form in which it is written: slashes outside character classes are escaped, and line
breaks are escape sequences. Backslashes pair with the character that follows them before anything else is
looked at.
-/

namespace SelectorCode

/-- A regular expression with its flags. -/
structure Pattern where
  source : Text
  flags : Text
deriving DecidableEq, Repr

namespace Pattern

/-- The pattern between slashes, followed by its flags. -/
def text (p : Pattern) : Text :=
  '/' :: p.source ++ '/' :: p.flags

/-- Whether letters match without regard to case. -/
def ignoresCase (p : Pattern) : Bool :=
  p.flags.contains 'i'

/-- Whether a character class is open after a character that is not escaped. -/
def classAfter (inClass : Bool) (c : Char) : Bool :=
  if c = '[' then true else if c = ']' then false else inClass

/-- The written form of a character that is not escaped. -/
def writtenChar (inClass : Bool) (c : Char) : Text :=
  if c = '/' ∧ !inClass then ['\\', '/']
  else if c = '\n' then ['\\', 'n']
  else if c = '\r' then ['\\', 'r']
  else [c]

/-- The written form of the rest of a source, inside or outside a character class. -/
def writeSource (inClass : Bool) : Text → Text
  | '\\' :: c :: r => '\\' :: c :: writeSource inClass r
  | c :: r => writtenChar (classAfter inClass c) c ++ writeSource (classAfter inClass c) r
  | [] => []

/-- A source as it stands between slashes; the empty source becomes an empty group. -/
def normalizeSource (source : Text) : Text :=
  if source.isEmpty then "(?:)".toList else writeSource false source

example : normalizeSource "a/b[/]\\/".toList = "a\\/b[/]\\/".toList := by decide

end Pattern

end SelectorCode
