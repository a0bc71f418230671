import SelectorCode.Number.Basic
import SelectorCode.Pattern.Basic

/-!
# Attribute selectors

An attribute selector is a name with conditions in brackets: `button[name="Submit"i][pressed=true]`.

## Main Definitions

* `Value`: what an attribute is compared with.
* `Comparison`: the six ways of comparing.
* `Condition`: a property path and the test it has to pass.
* `AttributeSelector`: a name and its conditions.
-/

namespace SelectorCode

/-- What an attribute is compared with. -/
inductive Value where
  | text (t : Text)
  | bool (b : Bool)
  | number (n : Number)
  | pattern (p : Pattern)
deriving DecidableEq, Repr

namespace Value

/-- The written form of a value in a message. -/
def written : Value → Text
  | text t => t
  | bool b => if b then "True".toList else "False".toList
  | number n => n.text
  | pattern p => p.text

/-- Whether a value is a text. -/
def isText : Value → Bool
  | text _ => true
  | _ => false

/-- Whether writing a value takes more digits than are converted. -/
def isTooLong : Value → Bool
  | number (.int n) => Number.isTooLong n
  | _ => false

end Value

/-- How an attribute is compared with a value. -/
inductive Comparison where
  | equals
  | contains
  | startsWith
  | endsWith
  /-- Equal, or longer by a hyphen and more. -/
  | dashMatches
  /-- One of the words of the attribute. -/
  | hasWord
deriving DecidableEq, Repr

/-- The operator of a comparison. -/
def Comparison.text : Comparison → Text
  | equals => "=".toList
  | contains => "*=".toList
  | startsWith => "^=".toList
  | endsWith => "$=".toList
  | dashMatches => "|=".toList
  | hasWord => "~=".toList

/-- What the attribute at a path has to satisfy. -/
inductive Test where
  /-- The attribute is present and not false. -/
  | truthy
  | compare (op : Comparison) (value : Value) (caseSensitive : Bool)
deriving DecidableEq, Repr

namespace Test

/-- The operator of a test. -/
def operator : Test → Text
  | truthy => "<truthy>".toList
  | compare op _ _ => op.text

/-- The value that a test compares with. -/
def value? : Test → Option Value
  | truthy => none
  | compare _ v _ => some v

/-- Whether a test distinguishes upper and lower case. -/
def isCaseSensitive : Test → Bool
  | truthy => false
  | compare _ _ s => s

end Test

/-- A test for the attribute at a path. -/
structure Condition where
  path : List Text
  test : Test
deriving DecidableEq, Repr

/-- The name of the attribute: the path with points between its tokens. -/
def Condition.name (c : Condition) : Text :=
  List.intercalate ['.'] c.path

/-- A name with conditions. -/
structure AttributeSelector where
  name : Text
  conditions : List Condition
deriving DecidableEq, Repr

end SelectorCode
