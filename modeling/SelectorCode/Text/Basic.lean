/-!
# Text

Text is a list of characters, so that lengths, positions and slices count code points and every reader is a
recursion on a list.

## Main Definitions

* `Text`: the type.
* `Text.ofNat`, `Text.ofInt`: decimal numerals.
* `Text.stripPrefix?`: the rest of a text after a fixed beginning.
* `Text.splitLast?`: the two sides of the last occurrence of a character.
* `Text.includes`: whether one text occurs inside another.
* `Text.inRanges`: membership of a character in a table of ranges.
* `Text.CaseRun`, `Text.shiftCase`: a mapping of characters given by a table of runs.

## Design Notes

Character classes beyond ASCII are tables of closed ranges of code points. A case mapping of single characters is a table
of runs: characters at a fixed step from one another that all move by the same distance.
-/

namespace SelectorCode

/-- A sequence of code points. -/
abbrev Text := List Char

namespace Text

/-- The decimal numeral of a natural number. -/
def ofNat (n : Nat) : Text :=
  Nat.toDigits 10 n

/-- The decimal numeral of an integer, with a minus sign when negative. -/
def ofInt : Int → Text
  | .ofNat n => ofNat n
  | .negSucc n => '-' :: ofNat (n + 1)

/-- What follows `start` in a text that begins with it. -/
def stripPrefix? : (start text : Text) → Option Text
  | [], t => some t
  | _ :: _, [] => none
  | p :: ps, c :: cs => if p = c then stripPrefix? ps cs else none

/-- A beginning and what follows it make up the text. -/
theorem stripPrefix?_eq_some_iff {start text rest : Text} :
    stripPrefix? start text = some rest ↔ text = start ++ rest := by
  induction start generalizing text with
  | nil => simp [stripPrefix?]
  | cons p ps ih =>
    cases text with
    | nil => simp [stripPrefix?]
    | cons c cs => by_cases h : p = c <;> simp [stripPrefix?, h, ih, eq_comm]

/-- Whether a text begins with `start`. -/
def startsWith (start text : Text) : Bool :=
  (stripPrefix? start text).isSome

/-- Whether `part` occurs in a text. -/
def includes (part : Text) : Text → Bool
  | [] => part.isEmpty
  | c :: cs => startsWith part (c :: cs) || includes part cs

/-- The text before and the text after the last occurrence of a character. -/
def splitLast? (sep : Char) : Text → Option (Text × Text)
  | [] => none
  | c :: cs =>
    match splitLast? sep cs with
    | some (before, after) => some (c :: before, after)
    | none => if c = sep then some ([], cs) else none

/-- There is no last occurrence exactly when there is none. -/
theorem splitLast?_eq_none_iff {sep : Char} {t : Text} :
    splitLast? sep t = none ↔ sep ∉ t := by
  induction t with
  | nil => simp [splitLast?]
  | cons c cs ih =>
    rw [splitLast?]
    cases h : splitLast? sep cs with
    | some p => simp_all
    | none =>
      have hn := ih.1 h
      by_cases hc : c = sep
      · simp [hc]
      · simp [hc, hn, Ne.symm hc]

/-- The two sides and the character between them make up the text, and the character does not come again. -/
theorem eq_append_of_splitLast? {sep : Char} {t before after : Text}
    (h : splitLast? sep t = some (before, after)) :
    t = before ++ sep :: after ∧ sep ∉ after := by
  induction t generalizing before with
  | nil => simp [splitLast?] at h
  | cons c cs ih =>
    cases hs : splitLast? sep cs with
    | some p =>
      obtain ⟨b, a⟩ := p
      simp only [splitLast?, hs, Option.some.injEq, Prod.mk.injEq] at h
      obtain ⟨rfl, rfl⟩ := h
      obtain ⟨rfl, ha⟩ := ih hs
      exact ⟨rfl, ha⟩
    | none =>
      have hn := splitLast?_eq_none_iff.1 hs
      simp only [splitLast?, hs] at h
      split at h <;> simp_all

/-! ### Tables of characters -/

/-- Whether a character lies in one of the closed ranges. -/
def inRanges (ranges : List (Nat × Nat)) (c : Char) : Bool :=
  ranges.any fun r => r.1 ≤ c.toNat && c.toNat ≤ r.2

/-- The characters from `first` to `last` at distance `step`, each mapped `shift` code points away. -/
structure CaseRun where
  first : Nat
  last : Nat
  step : Nat
  shift : Int

namespace CaseRun

/-- Whether a code point belongs to the run. -/
def covers (run : CaseRun) (n : Nat) : Bool :=
  run.first ≤ n && n ≤ run.last && (n - run.first) % run.step == 0

end CaseRun

/-- Moves a character by the shift of its run; a character outside every run stays. -/
def shiftCase (runs : List CaseRun) (c : Char) : Char :=
  match runs.find? (·.covers c.toNat) with
  | some run => Char.ofNat (c.toNat + run.shift).toNat
  | none => c

end Text

end SelectorCode
