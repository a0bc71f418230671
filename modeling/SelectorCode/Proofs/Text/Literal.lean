import Mathlib.Algebra.Ring.Parity
import Mathlib.Data.List.DropRight
import SelectorCode.Proofs.Json.Literal

/-!
# Literals and the texts they stand for

A literal ends at the first delimiter that nothing escapes, and a delimiter is escaped by an odd number of backslashes
before it. Every written character leaves an even number of them at its end, so written characters can be put one after
the other without a backslash of the one escaping anything of the next. This is why a literal may also be written in
three passes over the whole text, which look at neighbouring characters and do not know where a written character ends:
first as a JSON string, then without the backslashes before double quotation marks, then with a backslash before every
delimiter.

## Main Definitions

* `literalInPasses`: the literal of a text, written in three passes.
* `backslashesAtEnd`: the number of backslashes at the end of a text.
* `IsSealed`: the texts in which every delimiter is escaped, and which escape nothing behind them.

## Main Statements

* `literalInPasses_eq`: a literal written in passes is the literal.
* `IsSealed.append`: sealed texts may be put together.
* `unescape_flatMap_escapeChar`: written characters are read back.
* `literal_decodes`: a literal ends where its delimiter comes unescaped, and its body stands for the text.
-/

namespace SelectorCode.Text

variable {d : Delimiter} {mark : Char} {t u : Text}

/-! ### Three passes -/

/-- A text without the backslashes before double quotation marks, read from left to right. -/
def withoutMarkEscapes : Text → Text
  | '\\' :: '"' :: r => '"' :: withoutMarkEscapes r
  | c :: r => c :: withoutMarkEscapes r
  | [] => []

/-- A text with a backslash before every `mark`. -/
def withMarkEscapes (mark : Char) (t : Text) : Text :=
  t.flatMap fun c => if c = mark then ['\\', c] else [c]

/-- The literal of a text, written in three passes: as a JSON string, without its escaped quotation marks, and with the
delimiter escaped. -/
def literalInPasses (d : Delimiter) (t : Text) : Text :=
  d.char :: withMarkEscapes d.char (withoutMarkEscapes (t.flatMap (escapeChar .double))) ++ [d.char]

/-- What the second pass leaves of a written character. -/
def escapeCharUnmarked (c : Char) : Text :=
  if c = '"' then ['"'] else escapeChar .double c

/-- A double quotation mark behind a backslash is the only thing that the second pass changes. -/
theorem withoutMarkEscapes_cons {c : Char} {r : Text} (h : c = '\\' → ∀ s, r ≠ '"' :: s) :
    withoutMarkEscapes (c :: r) = c :: withoutMarkEscapes r := by
  rw [withoutMarkEscapes]
  intro s hc hr
  exact h hc s hr

/-- Texts without double quotation marks are left alone by the second pass. -/
theorem withoutMarkEscapes_append {x r : Text} (hx : '"' ∉ x) (hr : ∀ s, r ≠ '"' :: s) :
    withoutMarkEscapes (x ++ r) = x ++ withoutMarkEscapes r := by
  induction x with
  | nil => rfl
  | cons c x ih =>
    rw [List.mem_cons, not_or] at hx
    rw [List.cons_append, withoutMarkEscapes_cons, ih hx.2, List.cons_append]
    intro _ s hs
    cases x with
    | nil => exact hr s hs
    | cons e x => exact hx.2 ((List.cons.inj hs).1 ▸ List.mem_cons_self)

/-- A JSON string does not begin with a bare quotation mark, so what a backslash escapes is never the neighbour's. -/
theorem flatMap_escapeChar_ne (t s : Text) : t.flatMap (escapeChar .double) ≠ '"' :: s := by
  cases t with
  | nil => exact (List.cons_ne_nil _ _).symm
  | cons c t =>
    rw [List.flatMap_cons]
    rcases escapeChar_cases .double c with ⟨e, -, he, -⟩ | ⟨-, he⟩ | ⟨he, hquote, -, -⟩
    · rw [he]
      intro h
      exact absurd (List.cons.inj h).1 (by decide)
    · rw [he]
      intro h
      exact absurd (List.cons.inj h).1 (by decide)
    · rw [he]
      intro h
      exact hquote (List.cons.inj h).1

/-- A character other than the delimiter is written without the delimiter. -/
theorem not_mem_escapeChar {c : Char} (hc : c ≠ d.char) : d.char ∉ escapeChar d c := by
  have hself : d.char ≠ '\\' ∧ unescapeChar d.char = d.char := by cases d <;> decide
  have hcode : ∀ n < 0x20, d.char ∉ escapeCode n := by cases d <;> decide
  rcases escapeChar_cases d c with ⟨e, -, he, hread⟩ | ⟨hcontrol, he⟩ | ⟨he, -, -, -⟩
  · rw [he, List.mem_cons, List.mem_singleton, not_or]
    refine ⟨hself.1, ?_⟩
    rintro rfl
    exact hc (hread.symm.trans hself.2)
  · rw [he]
    exact hcode c.toNat hcontrol
  · rw [he, List.mem_singleton]
    exact hc.symm

/-- The second pass works on one written character after the other. -/
theorem withoutMarkEscapes_flatMap (t : Text) :
    withoutMarkEscapes (t.flatMap (escapeChar .double)) = t.flatMap escapeCharUnmarked := by
  induction t with
  | nil => rfl
  | cons c t ih =>
    rw [List.flatMap_cons, List.flatMap_cons, ← ih, escapeCharUnmarked]
    split
    next hc =>
      rw [hc]
      rfl
    next hc =>
      have hmark : '"' ∉ escapeChar .double c := not_mem_escapeChar (d := .double) hc
      exact withoutMarkEscapes_append hmark (flatMap_escapeChar_ne t)

/-- Without the mark there is nothing to escape. -/
theorem withMarkEscapes_of_not_mem (h : mark ∉ t) : withMarkEscapes mark t = t := by
  induction t with
  | nil => rfl
  | cons c t ih =>
    rw [List.mem_cons, not_or] at h
    rw [withMarkEscapes, List.flatMap_cons, if_neg (Ne.symm h.1)]
    exact congrArg (c :: ·) (ih h.2)

/-- The third pass makes of what is left of a written character the character as the literal has it. -/
theorem withMarkEscapes_escapeCharUnmarked (d : Delimiter) (c : Char) :
    withMarkEscapes d.char (escapeCharUnmarked c) = escapeChar d c := by
  by_cases hc : c = d.char
  · rw [hc]
    cases d <;> rfl
  · -- any other character is already written as the literal has it
    have hsame : escapeCharUnmarked c = escapeChar d c := by
      by_cases hquote : c = '"'
      · subst hquote
        cases d with
        | double => exact absurd rfl hc
        | single => rfl
        | backtick => rfl
      · have hdouble : c ≠ Delimiter.double.char := hquote
        rw [escapeCharUnmarked, if_neg hquote]
        unfold escapeChar
        rw [if_neg hc, if_neg hdouble]
    rw [hsame, withMarkEscapes_of_not_mem (not_mem_escapeChar hc)]

/-- **A literal written in passes is the literal.** -/
theorem literalInPasses_eq (d : Delimiter) (t : Text) : literalInPasses d t = literal d t := by
  have hbody : withMarkEscapes d.char (t.flatMap escapeCharUnmarked) = t.flatMap (escapeChar d) := by
    rw [withMarkEscapes, List.flatMap_assoc]
    exact List.flatMap_congr fun c _ => withMarkEscapes_escapeCharUnmarked d c
  rw [literalInPasses, withoutMarkEscapes_flatMap, hbody, literal]

/-! ### Backslashes before a mark -/

/-- The number of backslashes at the end of a text. -/
def backslashesAtEnd (t : Text) : Nat :=
  (t.rtakeWhile (· == '\\')).length

/-- The backslashes at the end of a text are those behind it, and those of the text if only these stand behind it. -/
theorem backslashesAtEnd_append (t u : Text) :
    backslashesAtEnd (t ++ u) =
      if backslashesAtEnd u = u.length then backslashesAtEnd t + backslashesAtEnd u
      else backslashesAtEnd u := by
  simp only [backslashesAtEnd, List.rtakeWhile, List.reverse_append, List.length_reverse,
    List.takeWhile_append]
  split <;> simp_all [Nat.add_comm]

/-- Behind an even number of backslashes, the number at the end is odd or even as it would be without them. -/
theorem even_backslashesAtEnd_append (ht : Even (backslashesAtEnd t)) :
    Even (backslashesAtEnd (t ++ u)) ↔ Even (backslashesAtEnd u) := by
  rw [backslashesAtEnd_append]
  split
  · rw [Nat.even_add, iff_true_left ht]
  · exact Iff.rfl

/-- The texts in which every `mark` is escaped, and which escape nothing behind them. -/
structure IsSealed (mark : Char) (t : Text) : Prop where
  odd_of_mark : ∀ pre post, t = pre ++ mark :: post → Odd (backslashesAtEnd pre)
  even_at_end : Even (backslashesAtEnd t)

theorem IsSealed.nil : IsSealed mark [] := by
  refine ⟨fun pre _ h => ?_, Even.zero⟩
  exact absurd h.symm (List.append_ne_nil_of_right_ne_nil pre (List.cons_ne_nil _ _))

/-- Sealed texts may be put together. -/
theorem IsSealed.append (ht : IsSealed mark t) (hu : IsSealed mark u) : IsSealed mark (t ++ u) := by
  refine ⟨fun pre post h => ?_, (even_backslashesAtEnd_append ht.even_at_end).2 hu.even_at_end⟩
  rcases List.append_eq_append_iff.1 h with ⟨x, rfl, hx⟩ | ⟨x, rfl, hx⟩
  · -- the mark is one of the second text
    rw [← Nat.not_even_iff_odd, even_backslashesAtEnd_append ht.even_at_end, Nat.not_even_iff_odd]
    exact hu.odd_of_mark x post hx
  · cases x with
    | nil => exact absurd (hu.odd_of_mark [] post hx.symm) (by decide)
    | cons c x =>
      obtain ⟨rfl, rfl⟩ := List.cons.inj hx
      exact ht.odd_of_mark pre x rfl

/-- A pair of a backslash and what it escapes is sealed. -/
theorem isSealed_pair (hmark : mark ≠ '\\') (e : Char) : IsSealed mark ['\\', e] := by
  refine ⟨fun pre post h => ?_, ?_⟩
  · match pre, h with
    | [], h => exact absurd (List.cons.inj h).1.symm hmark
    | [_], h =>
      obtain ⟨rfl, -⟩ := List.cons.inj h
      decide
    | _ :: _ :: pre, h => cases pre <;> cases h
  · by_cases he : e = '\\'
    · rw [he]
      decide
    · simp [backslashesAtEnd, List.rtakeWhile, he]

/-- Texts without the mark that do not end with a backslash are sealed. -/
theorem isSealed_of_not_mem (hmark : mark ∉ t) (hend : t.getLast? ≠ some '\\') :
    IsSealed mark t := by
  refine ⟨fun pre post h => absurd (h ▸ by simp) hmark, ?_⟩
  have hnone : t.rtakeWhile (· == '\\') = [] := by
    rw [List.rtakeWhile_eq_nil_iff]
    intro hne hlast
    rw [List.getLast?_eq_some_getLast hne] at hend
    exact hend (congrArg some (beq_iff_eq.1 hlast))
  rw [backslashesAtEnd, hnone]
  exact Even.zero

/-- Every written character is sealed. -/
theorem isSealed_escapeChar (d : Delimiter) (c : Char) : IsSealed d.char (escapeChar d c) := by
  have hmark : d.char ≠ '\\' := by cases d <;> decide
  have hcode : ∀ n < 0x20, (escapeCode n).getLast? ≠ some '\\' := by decide
  rcases escapeChar_cases d c with ⟨e, -, he, -⟩ | ⟨hcontrol, he⟩ | ⟨he, hquote, hback, -⟩
  · rw [he]
    exact isSealed_pair hmark e
  · have hne : c ≠ d.char := by
      rintro rfl
      exact absurd hcontrol (by cases d <;> decide)
    exact isSealed_of_not_mem (not_mem_escapeChar hne) (he ▸ hcode c.toNat hcontrol)
  · refine isSealed_of_not_mem (not_mem_escapeChar hquote) ?_
    rw [he]
    simpa using hback

theorem isSealed_flatMap_escapeChar (d : Delimiter) (t : Text) :
    IsSealed d.char (t.flatMap (escapeChar d)) := by
  induction t with
  | nil => exact .nil
  | cons c t ih =>
    rw [List.flatMap_cons]
    exact (isSealed_escapeChar d c).append ih

/-! ### Reading back -/

/-- A written character is read back, whatever follows it. -/
theorem unescape_escapeChar_append (d : Delimiter) (c : Char) (r : Text) :
    unescape (escapeChar d c ++ r) = c :: unescape r := by
  rcases escapeChar_cases d c with ⟨e, hmem, he, hread⟩ | ⟨hcontrol, he⟩ | ⟨he, -, hback, -⟩
  · -- no letter behind a backslash is that of a code
    have hcode : e ≠ 'u' := by
      have hletters : (d.char :: ['\\', 'n', 'r', 't', 'b', 'f']).all (· != 'u') = true := by
        cases d <;> decide
      exact bne_iff_ne.1 (List.all_eq_true.1 hletters e hmem)
    rw [he, List.cons_append, List.singleton_append, unescape, hread]
    rintro _ _ _ _ _ rfl
    exact absurd rfl hcode
  · rw [he, escapeCode]
    simp only [List.cons_append, List.nil_append]
    rw [unescape, Json.hexQuad?_escapeCode hcontrol]
    exact congrArg (· :: unescape r) (Char.ofNat_toNat c)
  · rw [he, List.singleton_append, unescape]
    · intro _ _ _ _ _ hc
      exact absurd hc hback
    · intro _ _ hc
      exact absurd hc hback

/-- Written characters are read back. -/
theorem unescape_flatMap_escapeChar (d : Delimiter) (t : Text) :
    unescape (t.flatMap (escapeChar d)) = t := by
  induction t with
  | nil => rfl
  | cons c t ih => rw [List.flatMap_cons, unescape_escapeChar_append, ih]

/-! ### Literals -/

/-- The body of a literal holds no control character. -/
theorem le_toNat_of_mem_escapeChar {c e : Char} (h : e ∈ escapeChar d c) : 0x20 ≤ e.toNat := by
  rcases escapeChar_cases d c with ⟨l, hmem, he, -⟩ | ⟨hcontrol, he⟩ | ⟨he, -, -, hprint⟩
  · have hletters : (d.char :: ['\\', 'n', 'r', 't', 'b', 'f']).all
        (fun l => 0x20 ≤ l.toNat) = true := by
      cases d <;> decide
    rw [he, List.mem_cons, List.mem_singleton] at h
    rcases h with rfl | rfl
    · decide
    · exact of_decide_eq_true (List.all_eq_true.1 hletters e hmem)
  · have hcode : ∀ n < 0x20, (escapeCode n).all (fun e => 0x20 ≤ e.toNat) = true := by decide
    exact of_decide_eq_true (List.all_eq_true.1 (hcode c.toNat hcontrol) e (he ▸ h))
  · rw [he, List.mem_singleton] at h
    rw [h]
    exact hprint

/-- **A literal stands for its text.** Whether it is written in one pass or in three, it is a body between two delimiters.
The body holds no control character, every delimiter in it is escaped by an odd number of backslashes, and the number of
them at its end is even, so the literal ends with its last character. Undoing the escapes of the body from left to right
gives back the text. -/
theorem literal_decodes (d : Delimiter) (t : Text) :
    ∃ body, literal d t = d.char :: body ++ [d.char] ∧ literalInPasses d t = literal d t ∧
      (∀ c ∈ body, 0x20 ≤ c.toNat) ∧
      (∀ pre post, body = pre ++ d.char :: post → Odd (backslashesAtEnd pre)) ∧
      ¬ Odd (backslashesAtEnd body) ∧ unescape body = t := by
  have hsealed := isSealed_flatMap_escapeChar d t
  refine ⟨t.flatMap (escapeChar d), rfl, literalInPasses_eq d t, fun c hc => ?_, hsealed.odd_of_mark,
    Nat.not_odd_iff_even.2 hsealed.even_at_end, unescape_flatMap_escapeChar d t⟩
  obtain ⟨e, -, he⟩ := List.mem_flatMap.1 hc
  exact le_toNat_of_mem_escapeChar he

end SelectorCode.Text
