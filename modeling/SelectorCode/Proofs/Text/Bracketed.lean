import SelectorCode.Proofs.Json.Literal
import SelectorCode.Number.Basic
import SelectorCode.Proofs.Text.Naming

/-!
# Brackets and literals

Source code is scanned from left to right. A double quotation mark opens a literal, which goes on to the next mark that
is not escaped by a backslash; outside literals, every parenthesis and every brace that closes has to close the one
that has been opened last. Code is balanced if the scan passes over it and leaves everything as it was, whatever is
open around it. Balanced code can be put together and put into brackets, and every literal is balanced, whatever its
text.

## Main Definitions

* `Lexer`: where a scan stands, and the brackets that are open.
* `Lexer.step`, `Lexer.scan`: the scan over a character and over a text.
* `Text.IsWellBracketed`: the texts that are scanned from outside to outside.
* `Text.IsBalanced`, `Text.Opens`, `Text.Closes`: the texts that a scan passes over, and those behind which one bracket
  more or one less is open.
* `Text.IsPlain`, `Text.IsPlainName`: texts without marks and brackets, and names of ASCII characters.

## Main Statements

* `Text.IsBalanced.append`, `Text.IsBalanced.intercalate`, `Text.Opens.close`: how balanced code is put together.
* `Text.isBalanced_literal`: literals are balanced.
* `Text.IsPlainName.titleCase`, `Text.IsPlainName.snakeCase`, `Text.IsPlainName.upper`: respelling keeps names plain.
* `Number.isPlain_text`: numbers are plain.
-/

namespace SelectorCode

/-! ### The scan -/

/-- A pair of brackets. -/
inductive Bracket where
  | round
  | curly
deriving DecidableEq, Repr

/-- Where a scan stands: in code, in a literal, or in a literal behind a backslash. -/
inductive Lexer.Mode where
  | code
  | literal
  | escape
deriving DecidableEq, Repr

/-- The state of a scan: where it stands, and the brackets that are open, the last one first. -/
structure Lexer where
  mode : Lexer.Mode
  pending : List Bracket
deriving DecidableEq, Repr

namespace Lexer

/-- Outside literals and brackets. -/
def outside : Lexer := ⟨.code, []⟩

/-- The state behind a bracket that closes; there is none if another bracket has been opened last. -/
def close (bracket : Bracket) : List Bracket → Option Lexer
  | [] => none
  | b :: bs => if b = bracket then some ⟨.code, bs⟩ else none

/-- The state behind one character. -/
def step (s : Lexer) (c : Char) : Option Lexer :=
  match s.mode with
  | .escape => some ⟨.literal, s.pending⟩
  | .literal =>
    if c = '"' then some ⟨.code, s.pending⟩
    else if c = '\\' then some ⟨.escape, s.pending⟩
    else some s
  | .code =>
    if c = '"' then some ⟨.literal, s.pending⟩
    else if c = '(' then some ⟨.code, .round :: s.pending⟩
    else if c = '\x7b' then some ⟨.code, .curly :: s.pending⟩
    else if c = ')' then close .round s.pending
    else if c = '\x7d' then close .curly s.pending
    else some s

/-- The state behind a text, unless some bracket closes nothing or closes another bracket. -/
def scan (s : Lexer) : Text → Option Lexer
  | [] => some s
  | c :: r => (s.step c).bind fun s => scan s r

variable {s : Lexer} {pending : List Bracket}

/-- Two texts are scanned one after the other. -/
theorem scan_append (s : Lexer) (t u : Text) : s.scan (t ++ u) = (s.scan t).bind (scan · u) := by
  induction t generalizing s with
  | nil => rfl
  | cons c t ih =>
    rw [List.cons_append, scan, scan]
    cases s.step c with
    | none => rfl
    | some s' => exact ih s'

/-- In a literal, characters that are neither quotation marks nor backslashes change nothing. -/
theorem scan_literal {t : Text} (h : ∀ c ∈ t, c ≠ '"' ∧ c ≠ '\\') :
    scan ⟨.literal, pending⟩ t = some ⟨.literal, pending⟩ := by
  induction t with
  | nil => rfl
  | cons c t ih =>
    obtain ⟨hquote, hback⟩ := h c List.mem_cons_self
    rw [scan, step]
    simp only [hquote, hback, if_false, Option.bind_some]
    exact ih fun d hd => h d (List.mem_cons_of_mem c hd)

/-- The written form of a character neither leaves a literal nor stops in the middle of an escape. -/
theorem scan_escapeChar (c : Char) :
    scan ⟨.literal, pending⟩ (Text.escapeChar .double c) = some ⟨.literal, pending⟩ := by
  rcases escapeChar_double_cases c with ⟨e, he, -, -⟩ | ⟨hcontrol, he⟩ | ⟨he, hquote, hback, -⟩
  · rw [he]
    rfl
  · have hall : ∀ n < 0x20, (Text.escapeCode n).tail.tail.all
        (fun d => d ≠ '"' && d ≠ '\\') = true := by decide
    -- the backslash takes the letter behind it along, and then there are only digits
    rw [he]
    show scan ⟨.literal, pending⟩ (Text.escapeCode c.toNat).tail.tail = _
    exact scan_literal (by simpa using hall c.toNat hcontrol)
  · rw [he]
    exact scan_literal (by simpa using ⟨hquote, hback⟩)

end Lexer

namespace Text

/-- The texts whose literals end and whose brackets match: they are scanned from outside to outside. -/
def IsWellBracketed (t : Text) : Prop :=
  Lexer.scan .outside t = some .outside

instance (t : Text) : Decidable t.IsWellBracketed :=
  inferInstanceAs (Decidable (Lexer.scan .outside t = some .outside))

/-- The texts that a scan of code passes over, whatever is open around them. -/
def IsBalanced (t : Text) : Prop :=
  ∀ pending, Lexer.scan ⟨.code, pending⟩ t = some ⟨.code, pending⟩

/-- The texts behind which one more bracket is open. -/
def Opens (bracket : Bracket) (t : Text) : Prop :=
  ∀ pending, Lexer.scan ⟨.code, pending⟩ t = some ⟨.code, bracket :: pending⟩

/-- The texts behind which the last bracket is no longer open. -/
def Closes (bracket : Bracket) (t : Text) : Prop :=
  ∀ pending, Lexer.scan ⟨.code, bracket :: pending⟩ t = some ⟨.code, pending⟩

variable {t u : Text} {bracket : Bracket}

theorem IsBalanced.isWellBracketed (h : t.IsBalanced) : t.IsWellBracketed :=
  h []

example : IsWellBracketed "f(\"(\\\"\")".toList := by decide
example : ¬ IsWellBracketed "f(\"a\"\")".toList := by decide

theorem Opens.append (ht : Opens bracket t) (hu : u.IsBalanced) : Opens bracket (t ++ u) := by
  intro pending
  rw [Lexer.scan_append, ht, Option.bind_some, hu]

/-- A bracket that is opened and closed is balanced. -/
theorem Opens.close (ht : Opens bracket t) (hu : Closes bracket u) : IsBalanced (t ++ u) := by
  intro pending
  rw [Lexer.scan_append, ht, Option.bind_some, hu]

namespace IsBalanced

theorem nil : IsBalanced [] := by
  intro pending
  rfl

theorem append (ht : t.IsBalanced) (hu : u.IsBalanced) : (t ++ u).IsBalanced := by
  intro pending
  rw [Lexer.scan_append, ht, Option.bind_some, hu]

theorem opens (ht : t.IsBalanced) (hu : Opens bracket u) : Opens bracket (t ++ u) := by
  intro pending
  rw [Lexer.scan_append, ht, Option.bind_some, hu]

theorem flatten {ts : List Text} (h : ∀ t ∈ ts, t.IsBalanced) : IsBalanced ts.flatten := by
  induction ts with
  | nil => exact nil
  | cons t ts ih =>
    rw [List.flatten_cons]
    exact (h t List.mem_cons_self).append (ih fun u hu => h u (List.mem_cons_of_mem t hu))

/-- Balanced code is joined by balanced code. -/
theorem intercalate {ts : List Text} (hu : u.IsBalanced) (h : ∀ t ∈ ts, t.IsBalanced) :
    IsBalanced (List.intercalate u ts) := by
  induction ts with
  | nil => exact nil
  | cons t ts ih =>
    have hrest := ih fun v hv => h v (List.mem_cons_of_mem t hv)
    by_cases hts : ts = []
    · rw [hts, List.intercalate_singleton]
      exact h t List.mem_cons_self
    · rw [List.intercalate_cons_of_ne_nil hts]
      exact ((h t List.mem_cons_self).append hu).append hrest

end IsBalanced

/-- **Every literal is balanced**, whatever its text. -/
theorem isBalanced_literal (t : Text) : (literal .double t).IsBalanced := by
  intro pending
  have hbody : Lexer.scan ⟨.literal, pending⟩ (t.flatMap (escapeChar .double)) =
      some ⟨.literal, pending⟩ := by
    induction t with
    | nil => rfl
    | cons c t ih =>
      rw [List.flatMap_cons, Lexer.scan_append, Lexer.scan_escapeChar, Option.bind_some, ih]
  rw [literal, Lexer.scan_append]
  show (Lexer.scan ⟨.literal, pending⟩ _).bind _ = _
  rw [hbody]
  rfl

/-! ### Plain texts -/

/-- Quotation marks and brackets, which a scan reacts to. -/
def marks : List Char := ['"', '(', ')', '\x7b', '\x7d']

/-- The texts without quotation marks and brackets. -/
def IsPlain (t : Text) : Prop :=
  ∀ c ∈ t, c ∉ marks

instance (t : Text) : Decidable t.IsPlain :=
  List.decidableBAll (fun c => c ∉ marks) t

theorem IsPlain.isBalanced (h : t.IsPlain) : t.IsBalanced := by
  intro pending
  induction t with
  | nil => rfl
  | cons c t ih =>
    have hc := h c List.mem_cons_self
    simp only [marks, List.mem_cons, List.not_mem_nil, or_false, not_or] at hc
    obtain ⟨hquote, hopen, hclose, hopen', hclose'⟩ := hc
    rw [Lexer.scan, Lexer.step]
    simp only [hquote, hopen, hclose, hopen', hclose', if_false, Option.bind_some]
    exact ih fun d hd => h d (List.mem_cons_of_mem c hd)

theorem isPlain_append : (t ++ u).IsPlain ↔ t.IsPlain ∧ u.IsPlain :=
  List.forall_mem_append

theorem isPlain_cons {c : Char} : IsPlain (c :: t) ↔ c ∉ marks ∧ t.IsPlain :=
  List.forall_mem_cons

/-! ### Names -/

/-- The characters of plain names: ASCII letters and digits, underscores, hyphens and points. -/
def isNameChar (c : Char) : Bool :=
  c.isAlphanum || c = '_' || c = '-' || c = '.'

/-- The names of ASCII letters and digits, underscores, hyphens and points. -/
def IsPlainName (t : Text) : Prop :=
  ∀ c ∈ t, isNameChar c = true

instance (t : Text) : Decidable t.IsPlainName :=
  List.decidableBAll (fun c => isNameChar c = true) t

theorem isPlainName_cons {c : Char} :
    IsPlainName (c :: t) ↔ isNameChar c = true ∧ t.IsPlainName :=
  List.forall_mem_cons

theorem toNat_lt_of_isAlphanum {c : Char} (h : c.isAlphanum = true) : c.toNat < 128 := by
  have hbound : ∀ d : Char, c.val ≤ d.val → d.toNat < 128 → c.toNat < 128 := by
    intro d hle hd
    exact Nat.lt_of_le_of_lt (UInt32.le_iff_toNat_le.1 hle) hd
  have hcases : (c.isUpper || c.isLower || c.isDigit) = true := h
  simp only [Bool.or_eq_true] at hcases
  rcases hcases with (hupper | hlower) | hdigit
  · exact hbound 'Z' (of_decide_eq_true hupper).2 (by decide)
  · exact hbound 'z' (of_decide_eq_true (Bool.and_eq_true_iff.1 hlower).2) (by decide)
  · exact hbound '9' (of_decide_eq_true (Bool.and_eq_true_iff.1 hdigit).2) (by decide)

theorem toNat_lt_of_isNameChar {c : Char} (h : isNameChar c = true) : c.toNat < 128 := by
  simp only [isNameChar, Bool.or_eq_true, decide_eq_true_eq] at h
  rcases h with ((halphanum | rfl) | rfl) | rfl
  · exact toNat_lt_of_isAlphanum halphanum
  · decide
  · decide
  · decide

/-- Name characters are no marks, and stay name characters in upper and in lower case. -/
theorem isNameChar_cases {c : Char} (h : isNameChar c = true) :
    c ∉ marks ∧ IsPlainName (upperChar c) ∧ IsPlainName (lowerChar c) := by
  have hall : ∀ n < 128, isNameChar (Char.ofNat n) = true → Char.ofNat n ∉ marks ∧
      IsPlainName (upperChar (Char.ofNat n)) ∧ IsPlainName (lowerChar (Char.ofNat n)) := by
    decide +kernel
  have hc := hall c.toNat (toNat_lt_of_isNameChar h)
  rw [Char.ofNat_toNat] at hc
  exact hc h

namespace IsPlainName

theorem isPlain (h : t.IsPlainName) : t.IsPlain := by
  intro c hc
  exact (isNameChar_cases (h c hc)).1

theorem upper (h : t.IsPlainName) : IsPlainName (upper t) := by
  intro d hd
  obtain ⟨c, hc, hdc⟩ := List.mem_flatMap.1 hd
  exact (isNameChar_cases (h c hc)).2.1 d hdc

theorem titleCase (h : t.IsPlainName) : IsPlainName (titleCase t) := by
  cases t with
  | nil => exact h
  | cons c r =>
    obtain ⟨hc, hr⟩ := isPlainName_cons.1 h
    exact List.forall_mem_append.2 ⟨(isNameChar_cases hc).2.1, hr⟩

/-- There is no capital sigma, so the lower case does not depend on neighbours. -/
theorem lowerFrom (h : t.IsPlainName) (before : Text) : IsPlainName (lowerFrom before t) := by
  induction t generalizing before with
  | nil => exact h
  | cons c r ih =>
    obtain ⟨hc, hr⟩ := isPlainName_cons.1 h
    rw [Text.lowerFrom, if_neg (ne_sigma (toNat_lt_of_isNameChar hc))]
    exact List.forall_mem_append.2 ⟨(isNameChar_cases hc).2.2, ih hr (c :: before)⟩

theorem breakAfterLower (h : t.IsPlainName) : IsPlainName (breakAfterLower t) := by
  fun_induction Text.breakAfterLower t with
  | case1 c d r hbreak ih =>
    simp only [isPlainName_cons] at h ⊢
    obtain ⟨hc, hd, hr⟩ := h
    exact ⟨hc, by decide, hd, ih hr⟩
  | case2 c d r hbreak ih =>
    obtain ⟨hc, hr⟩ := isPlainName_cons.1 h
    exact isPlainName_cons.2 ⟨hc, ih hr⟩
  | case3 t hshort => exact h

theorem breakBeforeWord (h : t.IsPlainName) : IsPlainName (breakBeforeWord t) := by
  fun_induction Text.breakBeforeWord t with
  | case1 c d e r hbreak ih =>
    simp only [isPlainName_cons] at h ⊢
    obtain ⟨hc, hd, he, hr⟩ := h
    exact ⟨hc, by decide, hd, he, ih hr⟩
  | case2 c d e r hbreak ih =>
    obtain ⟨hc, hr⟩ := isPlainName_cons.1 h
    exact isPlainName_cons.2 ⟨hc, ih hr⟩
  | case3 t hshort => exact h

theorem snakeCase (h : t.IsPlainName) : IsPlainName (snakeCase t) :=
  h.breakAfterLower.breakBeforeWord.lowerFrom []

end IsPlainName

/-! ### Numbers -/

theorem isPlain_of_isDigit (h : ∀ c ∈ t, c.isDigit = true) : t.IsPlain := by
  intro c hc hmark
  have hall : marks.all (fun m => !m.isDigit) = true := by decide
  have hdigit := List.all_eq_true.1 hall c hmark
  rw [h c hc] at hdigit
  exact Bool.noConfusion hdigit

theorem isPlain_ofNat (n : Nat) : (ofNat n).IsPlain :=
  isPlain_of_isDigit fun c hc => Nat.isDigit_of_mem_toDigits (by decide) (by decide) hc

theorem isPlain_ofInt (n : Int) : (ofInt n).IsPlain := by
  cases n with
  | ofNat n => exact isPlain_ofNat n
  | negSucc n => exact isPlain_cons.2 ⟨by decide, isPlain_ofNat (n + 1)⟩

theorem IsPlain.of_subset (h : t.IsPlain) (hu : u ⊆ t) : u.IsPlain := by
  intro c hc
  exact h c (hu hc)

theorem isPlain_zeros (n : Nat) : IsPlain (List.replicate n '0') := by
  intro c hc
  rw [List.eq_of_mem_replicate hc]
  decide

end Text

open Text (IsPlain isPlain_append isPlain_cons isPlain_zeros)

variable {digits : Text} {k : Int}

theorem isPlain_positional (h : digits.IsPlain) : (positional digits k).IsPlain := by
  have htake := h.of_subset (List.take_subset (k.toNat + 1) digits)
  have hdrop := h.of_subset (List.drop_subset (k.toNat + 1) digits)
  unfold positional
  split
  · simp only [List.cons_append, isPlain_cons, isPlain_append]
    exact ⟨by decide, by decide, isPlain_zeros _, h⟩
  · simp only [isPlain_cons, isPlain_append]
    refine ⟨⟨htake, isPlain_zeros _⟩, by decide, ?_⟩
    split
    · decide
    · exact hdrop

theorem isPlain_scientific (h : digits.IsPlain) : (scientific digits k).IsPlain := by
  have htake := h.of_subset (List.take_subset 1 digits)
  have hdrop := h.of_subset (List.drop_subset 1 digits)
  unfold scientific
  simp only [isPlain_cons, isPlain_append]
  refine ⟨⟨⟨htake, ?_⟩, by decide, ?_, isPlain_zeros _⟩, Text.isPlain_ofNat _⟩
  · split
    · decide
    · exact isPlain_cons.2 ⟨by decide, hdrop⟩
  · split <;> decide

/-- The digits of the shortest decimal are plain. -/
theorem isPlain_shortest (significand : Nat) (exponent : Int) :
    IsPlain (shortest significand exponent).1 := by
  simp only [shortest]
  split
  next n grid _ => exact (Text.isPlain_ofNat n).of_subset (List.take_subset _ _)
  · show IsPlain []
    decide

/-- **Numbers are plain.** -/
theorem Number.isPlain_text (n : Number) : n.text.IsPlain := by
  cases n with
  | int n => exact Text.isPlain_ofInt n
  | float x =>
    cases x with
    | nan => decide
    | infinite negative => cases negative <;> decide
    | finite negative m e =>
      have hsign : IsPlain (if negative then ['-'] else []) := by
        cases negative <;> decide
      refine isPlain_append.2 ⟨hsign, ?_⟩
      split
      · decide
      have hdigits := isPlain_shortest m e
      show IsPlain (if -4 ≤ (shortest m e).2 ∧ (shortest m e).2 < 16 then _ else _)
      split
      · exact isPlain_positional hdigits
      · exact isPlain_scientific hdigits

end SelectorCode
