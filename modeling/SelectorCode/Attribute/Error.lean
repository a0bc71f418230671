import SelectorCode.Attribute.Basic
import SelectorCode.Pattern.Checked

/-!
# Errors of reading an attribute selector

## Main Definitions

* `Attribute.Stage`: what was being read.
* `Attribute.Cause`: what was wrong, with the text that was left.
* `Attribute.Error`: a cause together with the selector.
* `Attribute.Error.position`: where the text that was left begins.
* `Attribute.Error.message`, `Attribute.Error.kind`: wording and class.
-/

namespace SelectorCode.Attribute

/-- What is being read when a symbol turns out to be unexpected. -/
inductive Stage where
  | quotedString
  | regularExpression
  | propertyPath
  | operator
  | value
deriving DecidableEq, Repr

/-- The wording of a stage. -/
def Stage.message : Stage → Text
  | quotedString => "parsing quoted string".toList
  | regularExpression => "parsing regular expression".toList
  | propertyPath => "parsing property path".toList
  | operator => "parsing operator".toList
  | value => "parsing attribute value".toList

/-- What is wrong with an attribute selector. -/
inductive Cause where
  /-- The text that is left does not continue as it should; between conditions there is no stage. -/
  | unexpected (rest : Text) (stage : Option Stage)
  | patternOperator (op : Comparison)
  | valueOperator (op : Comparison) (value : Value)
  | empty
  | pattern (e : Pattern.Error)
deriving DecidableEq, Repr

/-- A cause in a selector. -/
structure Error where
  selector : Text
  cause : Cause
deriving DecidableEq, Repr

namespace Error

/-- The position at which a text begins that is left of the selector. -/
def position (e : Error) (rest : Text) : Nat :=
  e.selector.length - rest.length

/-- The wording of a symbol that does not continue the selector. -/
def unexpectedMessage (e : Error) (rest : Text) (stage : Option Stage) : Text :=
  match rest with
  | [] =>
    "Unexpected end of selector while parsing selector \x60".toList ++ e.selector ++ ['\x60']
  | c :: _ =>
    "Error while parsing selector \x60".toList ++ e.selector ++
      "\x60 - unexpected symbol \"".toList ++ c :: "\" at position ".toList ++
      Text.ofNat (e.position rest) ++
      match stage with
      | none => []
      | some s => " during ".toList ++ s.message

/-- The wording of an error. -/
def message (e : Error) : Text :=
  match e.cause with
  | .unexpected rest stage => e.unexpectedMessage rest stage
  | .patternOperator op =>
    "Error while parsing selector \x60".toList ++ e.selector ++ "\x60 - cannot use ".toList ++
      op.text ++ " in attribute with regular expression".toList
  | .valueOperator op v =>
    if v.isTooLong then "Exceeds the limit (4300 digits) for integer string conversion".toList
    else
      "Error while parsing string value \x60".toList ++ e.selector ++ "\x60 - cannot use ".toList ++
        op.text ++ " in attribute with non-string matching value - ".toList ++ v.written
  | .empty =>
    "Error while parsing selector \x60".toList ++ e.selector ++
      "\x60 - selector cannot be empty".toList
  | .pattern p => p.message

/-- The class of an error. -/
def kind (e : Error) : ErrorKind :=
  match e.cause with
  | .pattern p => p.kind
  | .valueOperator _ v => if v.isTooLong then .invalidArgument else .invalidSelector
  | _ => .invalidSelector

end Error

end SelectorCode.Attribute
