import SelectorCode.Number.Numeral
import SelectorCode.Pattern.Reader

/-!
# Escapes and character classes

What a backslash and the character after it mean, outside and inside a character class, and the class itself.

## Main Definitions

* `Item`: what the grammar remembers of an item of a pattern.
* `readEscape`: an escape outside a character class.
* `ClassMember`, `readClassEscape`: a member of a character class.
* `readClass`: a character class after its opening bracket.
-/

namespace SelectorCode.Pattern

/-- The kinds of item that a repetition tells apart. -/
inductive ItemKind where
  /-- A position, such as the beginning of the text. -/
  | anchor
  | repetition
  | other
deriving DecidableEq, Repr

/-- An item of a pattern: its kind, its width, and the first reason in it not to compile it. -/
structure Item where
  kind : ItemKind
  width : Width
  issue : Option Cause

namespace Item

/-- An item that matches at a position without taking a character. -/
def anchor : Item := ⟨.anchor, .nothing, none⟩

/-- An item that matches one character. -/
def single : Item := ⟨.other, .one, none⟩

end Item

/-- The digits zero to seven. -/
def isOctalDigit (c : Char) : Bool :=
  '0' ≤ c && c ≤ '7'

/-- The number that hexadecimal or smaller digits stand for. -/
def valueIn (base : Nat) (digits : Text) : Nat :=
  ofDigits base (digits.filterMap Text.hexValue?)

/-- The largest value of an octal escape. -/
def octalLimit : Nat := 0o377

/-- Takes exactly the given number of hexadecimal digits after a backslash and `c`. -/
def readHex (start : Nat) (c : Char) (digits : Nat) : Reader Nat := do
  let ds ← takeChars Text.isHexDigit digits
  if ds.length = digits then return valueIn 16 ds
  else failAt (.incompleteEscape ('\\' :: c :: ds)) start

/-- Refuses a reference inside a look-behind to a group that is open or inside it as well. -/
def checkBehind (number : Nat) : Reader Unit := do
  let g := (← get).groups
  match g.behind with
  | none => return
  | some before =>
    if (g.closedWidth? number).isNone then failHere .openGroup
    else if before ≤ number then failHere .groupBehind

/-- A reference by number, whose backslash stands at `start`. -/
def readReference (start : Nat) (digits : Text) : Reader Item := do
  let number := valueIn 10 digits
  let g := (← get).groups
  if g.count ≤ number then failAt (.unknownGroup number) (start + 1)
  else match g.closedWidth? number with
    | none => failAt .openGroup start
    | some width =>
      checkBehind number
      return ⟨.other, width, none⟩

/-- An escape that begins with a digit from one to nine: three octal digits are a character, anything less is a
reference. -/
def readNumericEscape (start : Nat) (c : Char) : Reader Item := do
  let second ← takeChars Char.isDigit 1
  match second with
  | [] => readReference start [c]
  | d :: _ =>
    if isOctalDigit c && isOctalDigit d then
      let third ← takeChars isOctalDigit 1
      if third.isEmpty then readReference start [c, d]
      else
        let digits := c :: d :: third
        if octalLimit < valueIn 8 digits then failAt (.largeOctal ('\\' :: digits)) start
        else return .single
    else readReference start [c, d]

/-- The meaning of a backslash and `c` outside a character class, once both are taken. -/
def readEscape (c : Char) : Reader Item := do
  let start := (← position) - 2
  if "AbBZ".toList.contains c then return .anchor
  else if "dDsSwWafnrtv\\".toList.contains c then return .single
  else if c = 'x' then
    let _ ← readHex start c 2
    return .single
  else if c = 'u' then
    let _ ← readHex start c 4
    return .single
  else if c = '0' then
    let _ ← takeChars isOctalDigit 2
    return .single
  else if c.isDigit then readNumericEscape start c
  else if c.isAlpha then failAt (.badEscape ['\\', c]) start
  else return .single

/-- A member of a character class: one character, or a category of characters. -/
inductive ClassMember where
  | literal (code : Nat)
  | category
deriving DecidableEq, Repr

/-- The control characters that letters stand for in a character class. -/
def classControl? : Char → Option Nat
  | 'a' => some 0x07
  | 'b' => some 0x08
  | 't' => some 0x09
  | 'n' => some 0x0A
  | 'v' => some 0x0B
  | 'f' => some 0x0C
  | 'r' => some 0x0D
  | _ => none

/-- The meaning of a backslash and `c` inside a character class, once both are taken. -/
def readClassEscape (c : Char) : Reader ClassMember := do
  let start := (← position) - 2
  match classControl? c with
  | some code => return .literal code
  | none =>
    if "dDsSwW".toList.contains c then return .category
    else if c = 'x' then return .literal (← readHex start c 2)
    else if c = 'u' then return .literal (← readHex start c 4)
    else if isOctalDigit c then
      let digits := c :: (← takeChars isOctalDigit 2)
      if octalLimit < valueIn 8 digits then failAt (.largeOctal ('\\' :: digits)) start
      else return .literal (valueIn 8 digits)
    else if c.isDigit || c.isAlpha then failAt (.badEscape ['\\', c]) start
    else return .literal c.toNat

/-- The member of a class that a token begins. -/
def readMember : Token → Reader ClassMember
  | .escape c => readClassEscape c
  | .char c => return .literal c.toNat
  | .dangling => return .literal '\\'.toNat

/-- Whether two members are the ends of a range. -/
def isRange : ClassMember → ClassMember → Bool
  | .literal a, .literal b => a ≤ b
  | _, _ => false

/-- The members of a class up to its closing bracket. A closing bracket in front of all members is a member. -/
def readMembers (start : Nat) : Nat → Bool → Reader Unit
  | 0, _ => failAt .unclosedClass start
  | fuel + 1, isFirst => do
    match ← take with
    | none => failAt .unclosedClass start
    | some t =>
      if t = .char ']' && !isFirst then return
      let a ← readMember t
      if ← accept '-' then
        match ← take with
        | none => failAt .unclosedClass start
        | some u =>
          if u = .char ']' then return
          let b ← readMember u
          if isRange a b then readMembers start fuel false
          else
            failAt (.badRange t.written u.written)
              ((← position) - (t.written.length + 1 + u.written.length))
      else readMembers start fuel false

/-- A character class whose opening bracket, just taken, stands at `start`. -/
def readClass (start : Nat) : Reader Item := do
  let _ ← accept '^'
  readMembers start ((← get).rest.length + 1) true
  return .single

end SelectorCode.Pattern
