import SelectorCode.Pattern.Escape
import SelectorCode.Text.Blank
import SelectorCode.Text.Identifier
import SelectorCode.Text.Letter

/-!
# Groups

What stands between an opening parenthesis and the contents of a group: nothing, a name, a look-around, a
condition, flags, a comment, or a reference by name.

## Main Definitions

* `InlineFlag`: the letters of inline flags.
* `groupNumber?`: the number in a condition.
* `Opening`: the ways in which a group begins.
* `readExtension`: reads what follows an opening parenthesis and a question mark.
* `readOpening`: reads the opening of a group.
-/

namespace SelectorCode.Pattern

/-- A flag that may be set inside a pattern. -/
inductive InlineFlag where
  | ignoreCase
  | locale
  | multiline
  | dotAll
  | verbose
  | ascii
  | template
  | unicode
deriving DecidableEq, Repr

namespace InlineFlag

/-- The flag that a letter names. -/
def ofChar? : Char → Option InlineFlag
  | 'i' => some ignoreCase
  | 'L' => some locale
  | 'm' => some multiline
  | 's' => some dotAll
  | 'x' => some verbose
  | 'a' => some ascii
  | 't' => some template
  | 'u' => some unicode
  | _ => none

/-- The flags that choose a character set, of which at most one may be given. -/
def isType (f : InlineFlag) : Bool :=
  f = locale || f = ascii || f = unicode

end InlineFlag

/-- The flag that a token names. -/
def flagOf? : Token → Option InlineFlag
  | .char c => InlineFlag.ofChar? c
  | _ => none

/-- Whether a token is a letter, so that it is an unknown flag rather than a missing one. -/
def isLetterToken : Token → Bool
  | .char c => Text.isLetter c
  | _ => false

/-- Stops at a token, just taken, that is no flag. -/
def failAtFlag {α : Type} (t : Token) (gap : FlagGap) : Reader α := do
  failAt (if isLetterToken t then .unknownFlag else .missingFlagPart gap)
    ((← position) - t.written.length)

/-- The flags that are turned on, from the flag `f` on, and the character that ends them. -/
def readAdded : Nat → InlineFlag → List InlineFlag → Reader (List InlineFlag × Char)
  | 0, _, added => return (added, ')')
  | fuel + 1, f, added => do
    if f = .locale then failHere .localeFlag
    let added := f :: added
    if f.isType && added.any (fun g => g.isType && g ≠ f) then failHere .clashingFlags
    match ← take with
    | none => failHere (.missingFlagPart .afterFlags)
    | some t =>
      if t = .char ')' then return (added, ')')
      else if t = .char '-' then return (added, '-')
      else if t = .char ':' then return (added, ':')
      else match flagOf? t with
        | some g => readAdded fuel g added
        | none => failAtFlag t .afterFlags

/-- The flags that are turned off, from the flag `f` on, up to the colon. -/
def readRemoved : Nat → InlineFlag → List InlineFlag → Reader (List InlineFlag)
  | 0, _, removed => return removed
  | fuel + 1, f, removed => do
    if f.isType then failHere .removedTypeFlag
    let removed := f :: removed
    match ← take with
    | none => failHere (.missingFlagPart .afterRemoved)
    | some t =>
      if t = .char ':' then return removed
      else match flagOf? t with
        | some g => readRemoved fuel g removed
        | none => failAtFlag t .afterRemoved

/-- The first flag after the minus sign and all that follow it. -/
def readAllRemoved : Reader (List InlineFlag) := do
  match ← take with
  | none => failHere (.missingFlagPart .afterMinus)
  | some t =>
    match flagOf? t with
    | some g => readRemoved ((← get).rest.length + 1) g []
    | none => failAtFlag t .afterMinus

/-- The flags of a group: set for the whole pattern, or turned on and off for the contents of the group. -/
inductive FlagGroup where
  | global (flags : List InlineFlag)
  | scoped (added removed : List InlineFlag)

/-- Reads the flags that are turned off, if a minus sign ends those that are turned on. -/
def readScoped (added : List InlineFlag) (stop : Char) : Reader FlagGroup := do
  if added.contains .template then failAt .addedTemplateFlag ((← position) - 1)
  let removed ← if stop = '-' then readAllRemoved else pure []
  if removed.contains .template then failAt .removedTemplateFlag ((← position) - 1)
  if added.any removed.contains then failAt .addedAndRemovedFlag ((← position) - 1)
  return .scoped added removed

/-- Reads inline flags whose first token has been taken: a flag, or the minus sign. -/
def readFlags : Option InlineFlag → Reader FlagGroup
  | some f => do
    let (added, stop) ← readAdded ((← get).rest.length + 1) f []
    if stop = ')' then return .global added else readScoped added stop
  | none => readScoped [] '-'

/-- Sets flags for the whole pattern. -/
def GlobalFlags.add (g : GlobalFlags) (flags : List InlineFlag) : GlobalFlags where
  verbose := g.verbose || flags.contains .verbose
  ascii := g.ascii || flags.contains .ascii
  unicode := g.unicode || flags.contains .unicode
  template := g.template || flags.contains .template

/-! ### The number in a condition -/

/-- A character of a number as ASCII: digits of every script become digits, other blanks become spaces. -/
def plainDigit (c : Char) : Char :=
  if c.toNat < 0x80 then c
  else if Text.isBlank c then ' '
  else match Text.digitValue? c with
    | some d => Nat.digitChar d
    | none => '?'

/-- The white space around a number. -/
def isNumberSpace (c : Char) : Bool :=
  c = ' ' || ('\t' ≤ c && c ≤ '\r')

/-- Digits with single underscores between them. -/
def underscoredDigits? : Text → Option (List Nat)
  | [] => none
  | [c] => if c.isDigit then some [c.toNat - 0x30] else none
  | c :: '_' :: r => if c.isDigit then (underscoredDigits? r).map ((c.toNat - 0x30) :: ·) else none
  | c :: r => if c.isDigit then (underscoredDigits? r).map ((c.toNat - 0x30) :: ·) else none

/-- The number of a group, as a sign and a magnitude: digits of any script with single underscores between them,
after an optional sign and between blanks. -/
def groupNumber? (t : Text) : Option (Bool × Nat) := do
  let t := (t.map plainDigit).dropWhile isNumberSpace
  let t := (t.reverse.dropWhile isNumberSpace).reverse
  let (negative, t) := readSign t
  let digits ← underscoredDigits? t
  if Number.digitLimit < digits.length then none
  else return (negative, ofDigits 10 digits)

/-! ### Openings -/

/-- How a group begins. -/
inductive Opening where
  | capturing (name : Option (Text × Nat))
  /-- A group that does not capture, with the flags changed in it. -/
  | grouping (added removed : List InlineFlag)
  | atomic
  | ahead
  | behind
  | conditional (number : Nat)
  /-- A complete reference by name. -/
  | reference (item : Item)
  /-- A complete comment. -/
  | comment
  | globalFlags (flags : List InlineFlag)

/-- The greatest number of groups. -/
def groupLimit : Nat := 1073741823

/-- The name that `(?P<` begins, with its position. -/
def readGroupName : Reader (Text × Nat) := do
  let start ← position
  let name ← takeName '>'
  if Text.isIdentifier name then return (name, start)
  else failAt (.badName name) start

/-- The reference that `(?P=` begins. -/
def readNamedReference : Reader Item := do
  let start ← position
  let name ← takeName ')'
  if !Text.isIdentifier name then failAt (.badName name) start
  else
    let g := (← get).groups
    match g.names.lookup name with
    | none => failAt (.unknownName name) start
    | some number =>
      match g.closedWidth? number with
      | none => failAt .openGroup start
      | some width =>
        checkBehind number
        return ⟨.other, width, none⟩

/-- The group that a condition asks for, by name or by number. -/
def readCondition : Reader Nat := do
  let start ← position
  let name ← takeName ')'
  let number ←
    if Text.isIdentifier name then
      match (← get).groups.names.lookup name with
      | none => failAt (.unknownName name) start
      | some number => pure number
    else match groupNumber? name with
      | none => failAt (.badName name) start
      | some (negative, number) =>
        if number = 0 then failAt .groupZero start
        else if negative then failAt (.badName name) start
        else if groupLimit ≤ number then failAt (.unknownGroup number) start
        else
          modify fun p => { p with groups := p.groups.ask number start }
          pure number
  checkBehind number
  return number

/-- What follows `(?P`, where the question mark stands at `mark`. -/
def readNamedOpening (mark : Nat) : Reader Opening := do
  if ← accept '<' then return .capturing (some (← readGroupName))
  else if ← accept '=' then return .reference (← readNamedReference)
  else match ← take with
    | none => failHere .endInGroup
    | some t => failAt (.unknownExtension ("?P".toList ++ t.written)) mark

/-- What follows `(?<`, where the question mark stands at `mark`. -/
def readBehindOpening (mark : Nat) : Reader Opening := do
  match ← take with
  | none => failHere .endInGroup
  | some t =>
    if t = .char '=' || t = .char '!' then return .behind
    else failAt (.unknownExtension ("?<".toList ++ t.written)) mark

/-- A comment up to the parenthesis that closes it, in a group that opens at `start`. -/
def readComment (start : Nat) : Reader Opening := do
  let (_, found) ← takeUntil ')'
  if found then return .comment else failAt .unclosedComment start

/-- The group that flags begin, of which the first token has been taken. -/
def readFlagOpening (first : Option InlineFlag) : Reader Opening := do
  match ← readFlags first with
  | .global flags =>
    modify fun p => { p with flags := p.flags.add flags }
    return .globalFlags flags
  | .scoped added removed => return .grouping added removed

/-- What follows a question mark and a token, in a group that opens at `start`. -/
def readExtension (start : Nat) : Token → Reader Opening
  | .char 'P' => readNamedOpening (start + 1)
  | .char ':' => return .grouping [] []
  | .char '#' => readComment start
  | .char '=' => return .ahead
  | .char '!' => return .ahead
  | .char '<' => readBehindOpening (start + 1)
  | .char '(' => return .conditional (← readCondition)
  | .char '>' => return .atomic
  | t =>
    if t = .char '-' || (flagOf? t).isSome then readFlagOpening (flagOf? t)
    else failAt (.unknownExtension ('?' :: t.written)) (start + 1)

/-- What follows an opening parenthesis that stands at `start`. -/
def readOpening (start : Nat) : Reader Opening := do
  if !(← accept '?') then return .capturing none
  match ← take with
  | none => failHere .endInGroup
  | some t => readExtension start t

end SelectorCode.Pattern
