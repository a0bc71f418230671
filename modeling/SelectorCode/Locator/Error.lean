import SelectorCode.Attribute.Error
import SelectorCode.Selector.Reading
import SelectorCode.TextMatch

/-!
# Errors of translating a selector

## Main Definitions

* `Locator.Error`: why a selector has no locator expression.
* `Locator.Error.message`, `Locator.Error.kind`: its wording and its class.
-/

namespace SelectorCode.Locator

/-- Why a selector has no locator expression. -/
inductive Error where
  | selector (e : Selector.Error)
  | conditions (e : Attribute.Error)
  | textMatch (e : TextMatch.Error)
  | unexpectedNested (name source : Text)
  | malformed (name source : Text)
  | missingTestId (source : Text)
  | invalidTestId (source : Text)
  | missingAttribute (source : Text)
  | invalidAttribute (name source : Text)
  | invalidLevel (source : Text)
  /-- A level beyond the range of doubles. -/
  | levelTooLarge
deriving DecidableEq, Repr

namespace Error

/-- The wording of an error. -/
def message : Error → Text
  | selector e => e.message
  | conditions e => e.message
  | textMatch e => e.message
  | unexpectedNested n s => "Unexpected nested selector: ".toList ++ n ++ '=' :: s
  | malformed n s => "Malformed selector: ".toList ++ n ++ '=' :: s
  | missingTestId s => "Missing test id in selector: ".toList ++ s
  | invalidTestId s => "Invalid test id in selector: ".toList ++ s
  | missingAttribute s => "Missing attribute in selector: ".toList ++ s
  | invalidAttribute n s => "Invalid ".toList ++ n ++ " in selector: ".toList ++ s
  | invalidLevel s => "Invalid level in selector: ".toList ++ s
  | levelTooLarge => "int too large to convert to float".toList

/-- The class of an error. -/
def kind : Error → ErrorKind
  | selector e => e.kind
  | conditions e => e.kind
  | textMatch e => e.kind
  | levelTooLarge => .overflow
  | _ => .invalidSelector

end Error

end SelectorCode.Locator
