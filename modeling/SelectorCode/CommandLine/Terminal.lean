import SelectorCode.Text.Basic

/-!
# Plain output

Plain text is written as it is, wherever it goes. Of other text some places leave things out: control sequences for
colours and the like, and the carriage return in front of a line feed.

## Main Definitions

* `IsPlain`: text that is written as it is.
* `isParameter`, `isIntermediate`, `isFinal`: the three classes of characters in a control sequence.
* `afterSequence?`: what follows a control sequence.
* `withoutSequences`: a text without control sequences.
* `withPlainLines`: a text with line feeds only.
* `stripped`: both.

## Design Notes

A control sequence is an escape and an opening bracket, then parameters, then intermediate characters, then one final
character. The three classes divide the printable ASCII characters, so where a sequence ends is decided by
its characters one after the other. What does not end in this way is no sequence and stays; removing a sequence may
leave what looks like another one, and that stays as well.
-/

namespace SelectorCode.CommandLine

/-- Text that is written as it is, where every character can be written. Control sequences begin with an escape, and U+FFFD
may stand for something that is no character: it is what an escape of half a pair is read as. -/
structure IsPlain (t : Text) : Prop where
  escape_not_mem : '\x1b' ∉ t
  return_not_mem : '\r' ∉ t
  replacement_not_mem : '\ufffd' ∉ t

/-! ### Control sequences -/

/-- The parameters of a control sequence: digits, separators, and the marks of private sequences. -/
def isParameter (c : Char) : Bool :=
  '0' ≤ c && c ≤ '?'

/-- The characters that may stand between the parameters of a control sequence and its end. -/
def isIntermediate (c : Char) : Bool :=
  ' ' ≤ c && c ≤ '/'

/-- The characters that end a control sequence. -/
def isFinal (c : Char) : Bool :=
  '@' ≤ c && c ≤ '~'

/-- What follows a control sequence whose two first characters have been read. -/
def afterSequence? (t : Text) : Option Text :=
  match (t.dropWhile isParameter).dropWhile isIntermediate with
  | [] => none
  | c :: r => if isFinal c then some r else none

theorem afterSequence?_length {t rest : Text} (h : afterSequence? t = some rest) :
    rest.length < t.length := by
  unfold afterSequence? at h
  have hs := ((List.dropWhile_suffix isIntermediate).trans
    (List.dropWhile_suffix isParameter (l := t))).length_le
  split at h
  · cases h
  next c r hr =>
    split at h
    · cases h
      rw [hr, List.length_cons] at hs
      omega
    · cases h

/-- A text without control sequences. -/
def withoutSequences (t : Text) : Text :=
  match t with
  | '\x1b' :: '[' :: r =>
    match _h : afterSequence? r with
    | some rest => withoutSequences rest
    | none => '\x1b' :: withoutSequences ('[' :: r)
  | c :: r => c :: withoutSequences r
  | [] => []
termination_by t.length
decreasing_by
  · have := afterSequence?_length _h
    simp only [List.length_cons]
    omega
  · simp
  · simp

example : withoutSequences "a\x1b[38:5;1 qb\x1b[1!2mc".toList = "ab\x1b[1!2mc".toList := by
  decide +kernel
example : withoutSequences "\x1b\x1b[~[0m\x1b[[A".toList = "\x1b[0mA".toList := by decide +kernel

theorem withoutSequences_eq_self {t : Text} (h : '\x1b' ∉ t) : withoutSequences t = t := by
  induction t with
  | nil => rw [withoutSequences]
  | cons c r ih =>
    rw [List.mem_cons, not_or] at h
    have hbegins : ∀ r', c = '\x1b' → r = '[' :: r' → False := fun r' hc => absurd hc.symm h.1
    rw [withoutSequences.eq_2 _ _ hbegins, ih h.2]

/-! ### Ends of lines -/

/-- A text whose lines end in a line feed alone. -/
def withPlainLines : Text → Text
  | '\r' :: '\n' :: r => '\n' :: withPlainLines r
  | c :: r => c :: withPlainLines r
  | [] => []

theorem withPlainLines_eq_self {t : Text} (h : '\r' ∉ t) : withPlainLines t = t := by
  induction t with
  | nil => rfl
  | cons c r ih =>
    rw [List.mem_cons, not_or] at h
    have hbegins : ∀ r', c = '\r' → r = '\n' :: r' → False := fun r' hc => absurd hc.symm h.1
    rw [withPlainLines.eq_2 _ _ hbegins, ih h.2]

/-- A text without control sequences, whose lines end in a line feed alone. -/
def stripped (t : Text) : Text :=
  withPlainLines (withoutSequences t)

/-- Nothing is left out of plain text. -/
theorem stripped_eq_self {t : Text} (h : IsPlain t) : stripped t = t := by
  rw [stripped, withoutSequences_eq_self h.escape_not_mem, withPlainLines_eq_self h.return_not_mem]

end SelectorCode.CommandLine
