import SelectorCode.Json.Quoted
import SelectorCode.Pattern.Checked

/-!
# Text matches

The body of a text engine says what to look for and how: a slashed pattern, a quoted text that has to match exactly
or not, or the text itself.

## Main Definitions

* `Target`: a text or a pattern to look for.
* `TextMatch`: a target with the mode of matching.
* `slashed?`: the source and flags of a slashed pattern.
* `unquote?`: the text of a quoted body.
* `TextMatch.ofBody`: reads a body.
-/

namespace SelectorCode

/-- What a locator looks for. -/
inductive Target where
  | text (t : Text)
  | pattern (p : Pattern)
deriving DecidableEq, Repr

/-- The written form of a target. -/
def Target.written : Target → Text
  | text t => t
  | pattern p => p.text

/-- A target and whether it has to match exactly; a pattern has its own way of matching. -/
structure TextMatch where
  exact : Option Bool
  target : Target
deriving DecidableEq, Repr

namespace TextMatch

/-- Why a body is refused. -/
inductive Error where
  | malformedQuote (quoted : Text)
  | pattern (e : Pattern.Error)
deriving DecidableEq, Repr

namespace Error

/-- The wording of a refusal. -/
def message : Error → Text
  | malformedQuote q => "Malformed quoted text: ".toList ++ q
  | pattern e => e.message

/-- The class of a refusal. -/
def kind : Error → ErrorKind
  | malformedQuote _ => .invalidSelector
  | pattern e => e.kind

end Error

/-- The flags of a slashed pattern in a body. -/
def isBodyFlag (c : Char) : Bool :=
  c == 'i' || c == 'g' || c == 'm'

/-- The source and flags of a text that is wholly a slashed pattern on one line. -/
def slashed? : Text → Option (Text × Text)
  | '/' :: r =>
    match Text.splitLast? '/' r with
    | some (source, flags) =>
      if flags.all isBodyFlag && !source.contains '\n' then some (source, flags) else none
    | none => none
  | _ => none

/-- A quoted text with its opening quotation mark, which may have been left out. -/
def withOpeningQuote (quoted : Text) : Text :=
  if quoted.length < 2 ∨ quoted.head? ≠ some '"' then '"' :: quoted else quoted

/-- The text that a quoted body stands for. -/
def unquote (quoted : Text) : Except Error Text :=
  match Json.document? (withOpeningQuote quoted) with
  | some t => .ok t
  | none => .error (.malformedQuote (withOpeningQuote quoted))

/-- The match that a quoted body asks for. -/
def ofQuoted (exact : Bool) (quoted : Text) : Except Error TextMatch :=
  (unquote quoted).map fun t => ⟨some exact, .text t⟩

/-- The quoted part of a body that ends in a quotation mark and perhaps a suffix, with the mode that the suffix
asks for: exact without one or with `s`, inexact with `i`. -/
def quotedPart? (body : Text) : Option (Bool × Text) :=
  match body.reverse with
  | '"' :: _ => some (true, body)
  | 's' :: '"' :: r => some (true, ('"' :: r).reverse)
  | 'i' :: '"' :: r => some (false, ('"' :: r).reverse)
  | _ => none

/-- Reads the body of a text engine. -/
def ofBody (body : Text) : Except Error TextMatch :=
  match slashed? body with
  | some (source, flags) =>
    match Pattern.ofSource source flags with
    | .ok p => .ok ⟨none, .pattern p⟩
    | .error e => .error (.pattern e)
  | none =>
    match quotedPart? body with
    | some (exact, quoted) => ofQuoted exact quoted
    | none => .ok ⟨some false, .text body⟩

end TextMatch

end SelectorCode
