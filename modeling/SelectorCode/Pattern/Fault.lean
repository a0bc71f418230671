import SelectorCode.Text.Shown

/-!
# Faults of a pattern

Everything that the grammar of patterns rejects, as a cause with the data its message shows. Like every failure of this
library it has a kind, which says whose mistake it is and so decides how the command line reports it.

## Main Definitions

* `ErrorKind`: the kinds of failures.
* `Cause`: what is wrong.
* `Cause.message`, `Cause.kind`: its wording and its class.
* `Fault`: a cause and the position it is reported at.
* `Fault.message`: wording, position, and line and column when the pattern has more than one line.
-/

namespace SelectorCode

/-- The class of a failure. -/
inductive ErrorKind where
  /-- A selector that cannot be read or translated. -/
  | invalidSelector
  /-- A kind of locator that no language renders. -/
  | unknownKind
  /-- A language without a rendering. -/
  | unsupportedLanguage
  /-- A setting with an unusable value. -/
  | configuration
  /-- An argument outside the values a function is defined for. -/
  | invalidArgument
  /-- A number too large for its representation. -/
  | overflow
  /-- A value that does not fit the type of its field. -/
  | invalidData
deriving DecidableEq, Repr

namespace Pattern

/-- The places in an inline flag group where something is missing. -/
inductive FlagGap where
  /-- After the flags that are turned on. -/
  | afterFlags
  /-- After the minus sign. -/
  | afterMinus
  /-- After the flags that are turned off. -/
  | afterRemoved
deriving DecidableEq, Repr

/-- The wording of what was expected in a gap. -/
def FlagGap.message : FlagGap → Text
  | afterFlags => "missing -, : or )".toList
  | afterMinus => "missing flag".toList
  | afterRemoved => "missing :".toList

/-- How often a repetition takes its item. -/
inductive Greed where
  | greedy
  | lazy
  | possessive
deriving DecidableEq, Repr

/-- The operator that a repetition is compiled to. -/
def Greed.operator : Greed → Text
  | greedy => "MAX_REPEAT".toList
  | lazy => "MIN_REPEAT".toList
  | possessive => "POSSESSIVE_REPEAT".toList

/-- What is wrong with a pattern. -/
inductive Cause where
  | danglingBackslash
  | unclosedGroup
  | unopenedGroup
  | unclosedClass
  | nothingToRepeat
  | repeatedRepeat
  | descendingBounds
  | badEscape (written : Text)
  | incompleteEscape (written : Text)
  | badRange (first last : Text)
  | largeOctal (written : Text)
  | unknownGroup (number : Nat)
  | openGroup
  | groupBehind
  | unknownName (name : Text)
  | repeatedName (name : Text) (group earlier : Nat)
  | missingName
  | badName (name : Text)
  | unclosedName (close : Char)
  | groupZero
  | thirdBranch
  | endInGroup
  | unknownExtension (written : Text)
  | unclosedComment
  | lateFlags
  | missingFlagPart (gap : FlagGap)
  | unknownFlag
  | localeFlag
  | clashingFlags
  | removedTypeFlag
  | addedTemplateFlag
  | removedTemplateFlag
  | addedAndRemovedFlag
  /-- A look-behind whose length is not fixed. -/
  | variableBehind
  /-- A look-behind that is longer than any text. -/
  | endlessBehind
  /-- A repetition under the template flag. -/
  | templateRepeat (greed : Greed)
  /-- A repetition bound beyond the representable ones. -/
  | largeBound
  /-- A repetition bound with more digits than are converted. -/
  | longBound
  /-- Two global flags for the character set that exclude each other. -/
  | clashingGlobalFlags
deriving DecidableEq, Repr

/-- The wording of a cause. -/
def Cause.message : Cause → Text
  | danglingBackslash => "bad escape (end of pattern)".toList
  | unclosedGroup => "missing ), unterminated subpattern".toList
  | unopenedGroup => "unbalanced parenthesis".toList
  | unclosedClass => "unterminated character set".toList
  | nothingToRepeat => "nothing to repeat".toList
  | repeatedRepeat => "multiple repeat".toList
  | descendingBounds => "min repeat greater than max repeat".toList
  | badEscape w => "bad escape ".toList ++ w
  | incompleteEscape w => "incomplete escape ".toList ++ w
  | badRange a b => "bad character range ".toList ++ a ++ '-' :: b
  | largeOctal w => "octal escape value ".toList ++ w ++ " outside of range 0-0o377".toList
  | unknownGroup n => "invalid group reference ".toList ++ Text.ofNat n
  | openGroup => "cannot refer to an open group".toList
  | groupBehind => "cannot refer to group defined in the same lookbehind subpattern".toList
  | unknownName n => "unknown group name ".toList ++ Text.shown n
  | repeatedName n g e =>
    "redefinition of group name ".toList ++ Text.shown n ++ " as group ".toList ++ Text.ofNat g ++
      "; was group ".toList ++ Text.ofNat e
  | missingName => "missing group name".toList
  | badName n => "bad character in group name ".toList ++ Text.shown n
  | unclosedName c => "missing ".toList ++ c :: ", unterminated name".toList
  | groupZero => "bad group number".toList
  | thirdBranch => "conditional backref with more than two branches".toList
  | endInGroup => "unexpected end of pattern".toList
  | unknownExtension w => "unknown extension ".toList ++ w
  | unclosedComment => "missing ), unterminated comment".toList
  | lateFlags => "global flags not at the start of the expression".toList
  | missingFlagPart gap => gap.message
  | unknownFlag => "unknown flag".toList
  | localeFlag => "bad inline flags: cannot use 'L' flag with a str pattern".toList
  | clashingFlags => "bad inline flags: flags 'a', 'u' and 'L' are incompatible".toList
  | removedTypeFlag => "bad inline flags: cannot turn off flags 'a', 'u' and 'L'".toList
  | addedTemplateFlag => "bad inline flags: cannot turn on global flag".toList
  | removedTemplateFlag => "bad inline flags: cannot turn off global flag".toList
  | addedAndRemovedFlag => "bad inline flags: flag turned on and off".toList
  | variableBehind => "look-behind requires fixed-width pattern".toList
  | endlessBehind => "looks too much behind".toList
  | templateRepeat g => "internal: unsupported template operator ".toList ++ g.operator
  | largeBound => "the repetition number is too large".toList
  | longBound => "Exceeds the limit (4300 digits) for integer string conversion".toList
  | clashingGlobalFlags => "ASCII and UNICODE flags are incompatible".toList

/-- The class of a cause. -/
def Cause.kind : Cause → ErrorKind
  | largeBound => .overflow
  | longBound => .invalidData
  | clashingGlobalFlags => .invalidData
  | _ => .invalidSelector

/-- A cause at a position of the pattern; what concerns the pattern as a whole has none. -/
structure Fault where
  cause : Cause
  position : Option Nat
deriving DecidableEq, Repr

/-- The line of a position, from one. -/
def lineOf (pattern : Text) (position : Nat) : Nat :=
  (pattern.take position).count '\n' + 1

/-- The column of a position in its line, from one. -/
def columnOf (pattern : Text) (position : Nat) : Nat :=
  ((pattern.take position).reverse.takeWhile (· != '\n')).length + 1

/-- The wording of a fault of a pattern. -/
def Fault.message (pattern : Text) (fault : Fault) : Text :=
  fault.cause.message ++ match fault.position with
    | none => []
    | some n =>
      " at position ".toList ++ Text.ofNat n ++
        if pattern.contains '\n' then
          " (line ".toList ++ Text.ofNat (lineOf pattern n) ++
            ", column ".toList ++ Text.ofNat (columnOf pattern n) ++ ")".toList
        else []

end Pattern

end SelectorCode
