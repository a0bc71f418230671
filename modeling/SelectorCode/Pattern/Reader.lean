import SelectorCode.Pattern.Fault

/-!
# Reading a pattern

A pattern is read in tokens: a backslash together with the character after it, or a single character. This module defines
the state in which the tokens are read from left to right, and the steps that take tokens from it.

## Main Definitions

* `Token`: a unit of a pattern.
* `tokens`: the division of a pattern.
* `Width`: the least and the greatest number of characters that an item matches.
* `Groups`: what has been learned about capturing groups.
* `Progress`: the rest of the tokens, the position reached, the groups and the global flags.
* `Reader`: a step that may fail with a fault.
* `take`, `accept`, `takeChars`, `takeUntil`: the steps on tokens.

## Design Notes

Which characters pair does not depend on where in the pattern they stand, so the division into tokens precedes all
reading.

A dangling backslash is a fault as soon as it is the next token, before whatever was just taken is interpreted. So
every step that moves forward goes through `moveTo`.
-/

namespace SelectorCode.Pattern

/-! ### Tokens -/

/-- A unit of a pattern. -/
inductive Token where
  | char (c : Char)
  /-- A backslash and the character after it. -/
  | escape (c : Char)
  /-- A backslash at the end of the pattern. -/
  | dangling
deriving DecidableEq, Repr

/-- The characters of a token. -/
def Token.written : Token → Text
  | char c => [c]
  | escape c => ['\\', c]
  | dangling => ['\\']

/-- The tokens of a pattern. -/
def tokens : Text → List Token
  | [] => []
  | ['\\'] => [.dangling]
  | '\\' :: c :: r => .escape c :: tokens r
  | c :: r => .char c :: tokens r

/-- The tokens of a pattern make up the pattern. -/
theorem flatMap_written_tokens (t : Text) : (tokens t).flatMap Token.written = t := by
  fun_induction tokens t <;> simp_all [Token.written]

/-! ### The state of reading -/

/-- The least and the greatest number of characters that a part of a pattern matches. -/
structure Width where
  least : Nat
  greatest : Nat
deriving DecidableEq, Repr

namespace Width

/-- The bound at which widths are cut off. -/
def limit : Nat := Nat.pow 2 64

/-- A part that matches without taking characters. -/
def nothing : Width := ⟨0, 0⟩

/-- A part that matches one character. -/
def one : Width := ⟨1, 1⟩

/-- One part after another. -/
def append (a b : Width) : Width :=
  ⟨a.least + b.least, a.greatest + b.greatest⟩

/-- One part or another. -/
def either (a b : Width) : Width :=
  ⟨min a.least b.least, max a.greatest b.greatest⟩

/-- A part repeated; without an upper bound the greatest width is cut off. -/
def repeated (w : Width) (least : Nat) (greatest : Option Nat) : Width :=
  ⟨w.least * least,
    match greatest with
    | some n => w.greatest * n
    | none => if w.greatest = 0 then 0 else limit⟩

/-- The width cut off at the bound. -/
def cut (w : Width) : Width :=
  ⟨min w.least limit, min w.greatest limit⟩

end Width

/-- The capturing groups met so far. -/
structure Groups where
  /-- The width of each group from the first on; an open group has none yet. -/
  widths : List (Option Width)
  /-- The number of each named group. -/
  names : List (Text × Nat)
  /-- Inside a look-behind, the number of groups (and the whole) before the outermost one. -/
  behind : Option Nat
  /-- The groups that conditions ask for, with the position of the first condition, in order. -/
  asked : List (Nat × Nat)

namespace Groups

/-- No groups. -/
def empty : Groups := ⟨[], [], none, []⟩

/-- The number of groups, the whole pattern included as group zero. -/
def count (g : Groups) : Nat :=
  g.widths.length + 1

/-- The width of a group that has been closed. -/
def closedWidth? (g : Groups) (number : Nat) : Option Width :=
  if number = 0 then none else (g.widths[number - 1]?).join

/-- Records that a condition asks for a group. -/
def ask (g : Groups) (number position : Nat) : Groups :=
  if g.asked.any (·.1 == number) then g else { g with asked := g.asked ++ [(number, position)] }

/-- The first condition that asks for a group that does not exist. -/
def unanswered? (g : Groups) : Option (Nat × Nat) :=
  g.asked.find? fun a => g.count ≤ a.1

end Groups

/-- The flags that hold for a whole pattern. -/
structure GlobalFlags where
  verbose : Bool
  ascii : Bool
  unicode : Bool
  template : Bool

/-- How far a pattern has been read. -/
structure Progress where
  rest : List Token
  position : Nat
  groups : Groups
  flags : GlobalFlags

/-- A step of reading. -/
abbrev Reader := StateT Progress (Except Fault)

/-! ### Steps -/

/-- Stops with a fault at a position. -/
def failAt {α : Type} (cause : Cause) (position : Nat) : Reader α :=
  fun _ => .error ⟨cause, some position⟩

/-- Stops with a fault at the position reached. -/
def failHere {α : Type} (cause : Cause) : Reader α :=
  fun p => .error ⟨cause, some p.position⟩

/-- Stops with a fault that concerns the pattern as a whole. -/
def failWhole {α : Type} (cause : Cause) : Reader α :=
  fun _ => .error ⟨cause, none⟩

/-- The position reached. -/
def position : Reader Nat :=
  return (← get).position

/-- The next token, if there is one. -/
def next? : Reader (Option Token) :=
  return (← get).rest.head?

/-- Goes on with `rest` after `taken` characters. -/
def moveTo (taken : Nat) (rest : List Token) : Reader Unit := do
  modify fun p => { p with rest := rest, position := p.position + taken }
  if rest.head? = some .dangling then failHere .danglingBackslash

/-- Takes the next token, if there is one. -/
def take : Reader (Option Token) := do
  match (← get).rest with
  | [] => return none
  | t :: r =>
    moveTo t.written.length r
    return some t

/-- Takes the next token if it is the given character. -/
def accept (c : Char) : Reader Bool := do
  if (← next?) = some (.char c) then
    let _ ← take
    return true
  else
    return false

/-- The leading characters that satisfy a test, at most `limit`, and the tokens after them. -/
def spanChars (test : Char → Bool) : Nat → List Token → Text × List Token
  | limit + 1, .char c :: r =>
    if test c then
      let (t, rest) := spanChars test limit r
      (c :: t, rest)
    else ([], .char c :: r)
  | _, ts => ([], ts)

/-- Takes at most `limit` characters that satisfy a test. -/
def takeChars (test : Char → Bool) (limit : Nat) : Reader Text := do
  let (t, rest) := spanChars test limit (← get).rest
  if t.isEmpty then return [] else
    moveTo t.length rest
    return t

/-- Takes all leading characters that satisfy a test. -/
def takeAllChars (test : Char → Bool) : Reader Text := do
  takeChars test (← get).rest.length

/-- The characters before the first token that is `stop`, the tokens after it, and whether it was there. -/
def splitAt (stop : Char) : List Token → Text × List Token × Bool
  | [] => ([], [], false)
  | .dangling :: r => ([], .dangling :: r, false)
  | t :: r =>
    if t = .char stop then ([], r, true)
    else
      let (before, rest, found) := splitAt stop r
      (t.written ++ before, rest, found)

/-- Takes everything up to and including a character; answers what stood before it, or nothing when it does not
come. -/
def takeUntil (stop : Char) : Reader (Text × Bool) := do
  let (before, rest, found) := splitAt stop (← get).rest
  moveTo (before.length + if found then 1 else 0) rest
  return (before, found)

/-- Takes a name up to the character that closes it. -/
def takeName (close : Char) : Reader Text := do
  let start ← position
  let (name, found) ← takeUntil close
  if name.isEmpty then failAt .missingName start
  else if found then return name
  else failAt (.unclosedName close) start

end SelectorCode.Pattern
