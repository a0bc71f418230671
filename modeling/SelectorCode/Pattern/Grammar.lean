import SelectorCode.Pattern.Group

/-!
# The grammar of patterns

Reads a whole pattern and reports the first thing wrong with it. A pattern is a list of alternatives, an alternative
is a sequence of items, and an item is a character, a class, an anchor, a group, or one of these repeated.

## Main Definitions

* `Part`: what remains of a part of a pattern once it has been read.
* `readRepetition`: a repetition operator and the item before it.
* `readToken`: an item, a repetition, or the opening of a group.
* `readSequence`, `readAlternatives`: the mutually recursive readers.
* `check`: the first fault of a pattern, if there is one.

## Design Notes

Reading only keeps what later reading depends on: the kind of the last item for the operators, widths for
look-behinds, and the first reason not to compile what was read. The recursion is bounded by a depth that grows
with the number of tokens and so is never reached.
-/

namespace SelectorCode.Pattern

/-- The width of a part of a pattern, and the first reason in it not to compile it. -/
structure Part where
  width : Width
  issue : Option Cause

namespace Part

/-- The part that a sequence of items makes up, given in reverse. -/
def ofItems (items : List Item) : Part where
  width := (items.foldr (fun i w => Width.append w i.width) Width.nothing).cut
  issue := items.reverse.findSome? (·.issue)

/-- One part or another. -/
def either (a b : Part) : Part where
  width := (a.width.either b.width).cut
  issue := a.issue <|> b.issue

/-- The item of a part that takes no characters. -/
def lookAhead (p : Part) : Item :=
  ⟨.other, .nothing, p.issue⟩

/-- The greatest length of a look-behind. -/
def behindLimit : Nat := Nat.pow 2 32 - 1

/-- The item of a part that is matched backwards, whose length has to be fixed. -/
def lookBehind (p : Part) : Item :=
  ⟨.other, .nothing,
    if behindLimit < p.width.least then some .endlessBehind
    else if p.width.least ≠ p.width.greatest then some .variableBehind
    else p.issue⟩

/-- The item of a group. -/
def group (p : Part) : Item :=
  ⟨.other, p.width, p.issue⟩

/-- The item of a condition with one or two branches. -/
def conditional (yes : Part) : Option Part → Item
  | none => ⟨.other, ⟨0, yes.width.greatest⟩, yes.issue⟩
  | some no => (yes.either no).group

end Part

/-! ### Repetitions -/

/-- The bound from which on repetitions are refused. -/
def boundLimit : Nat := 4294967295

/-- The bound that digits stand for; without digits there is none. -/
def readBound (digits : Text) : Reader (Option Nat) := do
  if digits.isEmpty then return none
  else if Number.digitLimit < digits.length then failWhole .longBound
  else
    let n := valueIn 10 digits
    if boundLimit ≤ n then failWhole .largeBound else return some n

/-- The second bound between braces: the digits behind a comma, or else the first bound again. -/
def readSecondBound (low : Text) : Reader Text := do
  if ← accept ',' then takeAllChars Char.isDigit else return low

/-- The bounds that digits stand for, between braces that open at `start`. -/
def readBoundPair (start : Nat) (low high : Text) : Reader (Nat × Option Nat) := do
  let least ← readBound low
  let greatest ← readBound high
  match greatest with
  | some n => if n < least.getD 0 then failAt .descendingBounds start
  | none => pure ()
  return (least.getD 0, greatest)

/-- The bounds after an opening brace; `none` when the brace stands for itself. -/
def readBraces : Reader (Option (Nat × Option Nat)) := do
  let start ← get
  if start.rest.head? = some (.char '\x7d') then return none
  let low ← takeAllChars Char.isDigit
  let high ← readSecondBound low
  if ← accept '\x7d' then return some (← readBoundPair start.position low high)
  else
    set start
    return none

/-- The bounds of the operator `c`, just taken; `none` when it is a brace that stands for itself. -/
def readBounds (c : Char) : Reader (Option (Nat × Option Nat)) :=
  if c = '?' then return some (0, some 1)
  else if c = '*' then return some (0, none)
  else if c = '+' then return some (1, none)
  else readBraces

/-- The suffix of a repetition. -/
def readGreed : Reader Greed := do
  if ← accept '?' then return .lazy
  else if ← accept '+' then return .possessive
  else return .greedy

/-- The repetition of an item, with its suffix. -/
def repeatItem (last : Item) (least : Nat) (greatest : Option Nat) : Reader Item := do
  let greed ← readGreed
  let issue := if (← get).flags.template then some (.templateRepeat greed) else last.issue
  return ⟨.repetition, last.width.repeated least greatest, issue⟩

/-- Repeats the last of the items, given in reverse, by the operator `c` that stands at `start`. -/
def readRepetition (start : Nat) (c : Char) (items : List Item) : Reader (List Item) := do
  match ← readBounds c with
  | none => return .single :: items
  | some (least, greatest) =>
    match items with
    | [] => failAt .nothingToRepeat start
    | last :: before =>
      if last.kind = .anchor then failAt .nothingToRepeat start
      else if last.kind = .repetition then failAt .repeatedRepeat start
      else return (← repeatItem last least greatest) :: before

/-! ### Groups that have been opened -/

/-- Opens a capturing group and answers its number. -/
def openGroup (name : Option (Text × Nat)) : Reader Nat := do
  let g := (← get).groups
  let number := g.count
  match name with
  | none => modify fun p => { p with groups := { g with widths := g.widths ++ [none] } }
  | some (n, start) =>
    match g.names.lookup n with
    | some earlier => failAt (.repeatedName n number earlier) start
    | none =>
      modify fun p =>
        { p with groups := { g with widths := g.widths ++ [none], names := g.names ++ [(n, number)] } }
  return number

/-- Closes a capturing group. -/
def closeGroup (number : Nat) (width : Width) : Reader Unit :=
  modify fun p =>
    { p with groups := { p.groups with widths := p.groups.widths.set (number - 1) (some width) } }

/-- Takes the parenthesis that closes the group opened at `start`. -/
def closeParenthesis (start : Nat) : Reader Unit := do
  if !(← accept ')') then failAt .unclosedGroup start

/-- White space that a verbose pattern may hold. -/
def isVerboseSpace (c : Char) : Bool :=
  c = ' ' || ('\t' ≤ c && c ≤ '\r')

/-- Passes over a comment of a verbose pattern up to the end of its line. -/
def skipLine : Reader Unit := do
  let _ ← takeUntil '\n'

/-! ### Sequences and alternatives -/

/-- What a token leads to: items to go on with, or a group that has been opened. -/
inductive Lead where
  | items (items : List Item)
  | group (opening : Opening)

/-- Reads what a token, just taken at `start`, begins. The items so far are given in reverse. -/
def readToken (start : Nat) (verbose : Bool) (items : List Item) : Token → Reader Lead
  | .dangling => return .items items
  | .escape c => return .items ((← readEscape c) :: items)
  | .char c => do
    if verbose && isVerboseSpace c then return .items items
    else if verbose && c = '#' then
      skipLine
      return .items items
    else if c = '[' then return .items ((← readClass start) :: items)
    else if c = '*' || c = '+' || c = '?' || c = '\x7b' then
      return .items (← readRepetition start c items)
    else if c = '(' then return .group (← readOpening start)
    else if c = '^' || c = '$' then return .items (.anchor :: items)
    else return .items (.single :: items)

mutual

/-- Reads items up to the end, a bar or a closing parenthesis. The items so far are given in reverse; `isStart`
says whether global flags may still be set. -/
def readSequence : Nat → Bool → Bool → List Item → Reader Part
  | 0, _, _, items => return .ofItems items
  | depth + 1, verbose, isStart, items => do
    match ← next? with
    | none => return .ofItems items
    | some (.char '|') => return .ofItems items
    | some (.char ')') => return .ofItems items
    | some t =>
      let start ← position
      let _ ← take
      match ← readToken start verbose items t with
      | .items items => readSequence depth verbose isStart items
      | .group .comment => readSequence depth verbose isStart items
      | .group (.globalFlags _) =>
        if !isStart || !items.isEmpty then failAt .lateFlags start
        else readSequence depth (← get).flags.verbose isStart items
      | .group opening =>
        let item ← readGroup depth verbose start opening
        readSequence depth verbose isStart (item :: items)

/-- Reads the contents and the end of a group whose opening has been read. -/
def readGroup : Nat → Bool → Nat → Opening → Reader Item
  | 0, _, _, _ => return .single
  | depth + 1, verbose, start, opening => do
    match opening with
    | .reference item => return item
    | .comment => return .anchor
    | .globalFlags _ => return .anchor
    | .ahead =>
      let part ← readAlternatives depth verbose false
      closeParenthesis start
      return part.lookAhead
    | .behind =>
      let outer := (← get).groups.behind
      modify fun p =>
        { p with groups := { p.groups with behind := some (outer.getD p.groups.count) } }
      let part ← readAlternatives depth verbose false
      modify fun p => { p with groups := { p.groups with behind := outer } }
      closeParenthesis start
      return part.lookBehind
    | .conditional _ =>
      let yes ← readSequence depth verbose false []
      if ← accept '|' then
        let no ← readSequence depth verbose false []
        if (← next?) = some (.char '|') then failHere .thirdBranch
        closeParenthesis start
        return Part.conditional yes (some no)
      else
        closeParenthesis start
        return Part.conditional yes none
    | .atomic =>
      let part ← readAlternatives depth verbose false
      closeParenthesis start
      return part.group
    | .grouping added removed =>
      let inside := (verbose || added.contains .verbose) && !removed.contains .verbose
      let part ← readAlternatives depth inside false
      closeParenthesis start
      return part.group
    | .capturing name =>
      let number ← openGroup name
      let part ← readAlternatives depth verbose false
      closeParenthesis start
      closeGroup number part.width
      return part.group

/-- Reads alternatives up to the end or a closing parenthesis; `isWhole` says whether they are the whole
pattern. -/
def readAlternatives : Nat → Bool → Bool → Reader Part
  | 0, _, _ => return .ofItems []
  | depth + 1, verbose, isWhole => do
    let first ← readSequence depth verbose isWhole []
    readMore depth verbose isWhole first

/-- Reads the alternatives after the first. -/
def readMore : Nat → Bool → Bool → Part → Reader Part
  | 0, _, _, part => return part
  | depth + 1, verbose, isWhole, part => do
    if ← accept '|' then
      let global := (← get).flags.verbose
      let inside := if isWhole then global else verbose
      let other ← readSequence depth inside false []
      readMore depth inside isWhole (part.either other)
    else return part

end

/-! ### Whole patterns -/

/-- Reads a whole pattern. -/
def readPattern : Reader Unit := do
  moveTo 0 (← get).rest
  let part ← readAlternatives (4 * (← get).rest.length + 4) false true
  let p ← get
  if p.flags.ascii && p.flags.unicode then failWhole .clashingGlobalFlags
  if !p.rest.isEmpty then failHere .unopenedGroup
  match p.groups.unanswered? with
  | some (number, position) => failAt (.unknownGroup number) position
  | none => pure ()
  match part.issue with
  | some cause => failWhole cause
  | none => pure ()

/-- The first fault of a pattern, if there is one. -/
def check (pattern : Text) : Except Fault Unit :=
  (readPattern.run ⟨tokens pattern, 0, .empty, ⟨false, false, false, false⟩⟩).map fun _ => ()

/-- The message of the first fault of a pattern. -/
def faultMessage? (pattern : Text) : Option Text :=
  match check pattern with
  | .ok _ => none
  | .error fault => some (fault.message pattern)

example : faultMessage? "a(?:b|c)*[^]x]".toList = none := by decide +kernel
example : faultMessage? "a(b".toList =
    some "missing ), unterminated subpattern at position 1".toList := by decide +kernel
example : faultMessage? "a**".toList = some "multiple repeat at position 2".toList := by decide +kernel

end SelectorCode.Pattern
