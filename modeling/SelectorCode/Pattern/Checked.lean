import SelectorCode.Pattern.Basic
import SelectorCode.Pattern.Grammar
import SelectorCode.Pattern.Portable

/-!
# Checked patterns

A pattern is accepted when its flags are distinct letters and its source, in the portable dialect, has no fault.

## Main Definitions

* `Pattern.Error`: why a pattern is refused.
* `Pattern.Error.message`, `Pattern.Error.kind`: its wording and its class.
* `Pattern.isTolerated`: the faults that do not count.
* `Pattern.ofSource`: normalizes and checks a source with its flags.

## Design Notes

Look-behinds of variable length are legal in the dialect that selectors are written in, so a message that speaks of
look-behinds is not held against a pattern.
-/

namespace SelectorCode.Pattern

/-- Why a pattern is refused. -/
inductive Error where
  | repeatedFlags (pattern : Pattern)
  | fault (pattern : Pattern) (fault : Fault)
deriving DecidableEq, Repr

namespace Error

/-- The class of a refusal. -/
def kind : Error → ErrorKind
  | repeatedFlags _ => .invalidSelector
  | fault _ f => f.cause.kind

/-- The wording of a refusal; a fault that is no mistake in the selector speaks for itself. -/
def message : Error → Text
  | repeatedFlags p => "Invalid regular expression flags: ".toList ++ p.text
  | fault p f =>
    if f.cause.kind = .invalidSelector then
      "Invalid regular expression: ".toList ++ p.text ++ ": ".toList ++ f.message (portable p.source)
    else f.cause.message

end Error

/-- Faults that concern look-behinds. -/
def isTolerated (f : Fault) : Bool :=
  Text.includes "look-behind".toList f.cause.message

/-- Checks a pattern whose source is normalized. -/
def check? (p : Pattern) : Except Error Pattern :=
  if p.flags.Nodup then
    match check (portable p.source) with
    | .ok () => .ok p
    | .error f => if isTolerated f then .ok p else .error (.fault p f)
  else .error (.repeatedFlags p)

/-- The pattern of a source and its flags. -/
def ofSource (source flags : Text) : Except Error Pattern :=
  check? ⟨normalizeSource source, flags⟩

/-- An accepted pattern is the normalized source with the flags given. -/
theorem eq_of_ofSource {source flags : Text} {p : Pattern} (h : ofSource source flags = .ok p) :
    p = ⟨normalizeSource source, flags⟩ := by
  unfold ofSource check? at h
  split at h
  · split at h
    · exact (Except.ok.inj h).symm
    · split at h
      · exact (Except.ok.inj h).symm
      · cases h
  · cases h

end SelectorCode.Pattern
