import SelectorCode.Pattern.Reader
import SelectorCode.Proofs.Pattern.Normal
import SelectorCode.Proofs.Text.Literal

/-!
# The tokens of a source

A source is cut into pairs of a backslash with what it escapes, and single characters. What a scan of a literal sees can
be told from the tokens: a mark ends a literal if it is a token of its own, and a backslash at the end takes the closing
mark along. Classes are told from the tokens as well, since escaped brackets belong to a pair.

## Main Definitions

* `isOpenAfter`: whether a character class is open behind tokens.

## Main Statements

* `pairs_rec`: induction along the tokens of a text.
* `isSealed_iff`: a text is sealed when no mark is a token of its own and no backslash is left at the end.
* `isOpenAfter_of_slash`: in a normal source, slashes outside classes are escaped.
* `not_mem_tokens_of_isLineBreak`: a normal source has no line breaks but escaped ones.
-/

namespace SelectorCode.Pattern

open Text (IsSealed backslashesAtEnd)

variable {t r : Text} {c mark : Char} {b : Bool} {ts before after : List Token}

/-! ### Induction along tokens -/

theorem tokens_pair (c : Char) (r : Text) : tokens ('\\' :: c :: r) = .escape c :: tokens r := by
  rw [tokens]

theorem tokens_cons (hc : c ≠ '\\') (r : Text) : tokens (c :: r) = .char c :: tokens r := by
  rw [tokens]
  · intro h _
    exact hc h
  · intro _ _ h _
    exact hc h

/-- Induction along the tokens of a text. -/
@[elab_as_elim]
theorem pairs_rec {motive : Text → Prop} (nil : motive []) (dangling : motive ['\\'])
    (pair : ∀ c r, motive r → motive ('\\' :: c :: r))
    (char : ∀ c r, c ≠ '\\' → motive r → motive (c :: r)) (t : Text) : motive t := by
  fun_induction tokens t with
  | case1 => exact nil
  | case2 => exact dangling
  | case3 c r ih => exact pair c r ih
  | case4 c r hlast hpair ih =>
    refine char c r (fun hc => ?_) ih
    cases r with
    | nil => exact hlast hc rfl
    | cons d s => exact hpair d s hc rfl

/-- Behind a text that leaves no backslash, tokens begin anew. -/
theorem tokens_append (h : .dangling ∉ tokens t) (r : Text) :
    tokens (t ++ r) = tokens t ++ tokens r := by
  induction t using pairs_rec with
  | nil => rfl
  | dangling => exact absurd List.mem_cons_self h
  | pair c s ih =>
    rw [tokens_pair] at h
    rw [List.cons_append, List.cons_append, tokens_pair, tokens_pair,
      ih fun hmem => h (List.mem_cons_of_mem _ hmem), List.cons_append]
  | char c s hc ih =>
    rw [tokens_cons hc] at h
    rw [List.cons_append, tokens_cons hc, tokens_cons hc,
      ih fun hmem => h (List.mem_cons_of_mem _ hmem), List.cons_append]

/-! ### Sealed texts -/

/-- Behind a sealed text, only the rest decides. -/
theorem isSealed_append_iff {u : Text} (ht : IsSealed mark t) :
    IsSealed mark (t ++ u) ↔ IsSealed mark u := by
  refine ⟨fun h => ⟨fun pre post hu => ?_, ?_⟩, ht.append⟩
  · have hodd := h.odd_of_mark (t ++ pre) post (by rw [hu, List.append_assoc])
    rw [← Nat.not_even_iff_odd] at hodd ⊢
    rwa [Text.even_backslashesAtEnd_append ht.even_at_end] at hodd
  · exact (Text.even_backslashesAtEnd_append ht.even_at_end).1 h.even_at_end

/-- **A text is sealed** when no mark in it is a token of its own and no backslash is left at its end. -/
theorem isSealed_iff (hmark : mark ≠ '\\') :
    IsSealed mark t ↔ .char mark ∉ tokens t ∧ .dangling ∉ tokens t := by
  induction t using pairs_rec with
  | nil => simp [tokens, IsSealed.nil]
  | dangling =>
    refine iff_of_false (fun h => ?_) (by simp [tokens])
    exact absurd h.even_at_end (by decide)
  | pair c r ih =>
    have hpair : IsSealed mark ['\\', c] := Text.isSealed_pair hmark c
    rw [tokens_pair]
    simpa using (isSealed_append_iff hpair).trans ih
  | char c r hc ih =>
    rw [tokens_cons hc]
    by_cases hself : c = mark
    · refine iff_of_false (fun h => ?_) (by simp [hself])
      exact absurd (h.odd_of_mark [] r (by rw [hself]; rfl)) (by decide)
    · have hsealed : IsSealed mark [c] :=
        Text.isSealed_of_not_mem (by simpa using Ne.symm hself) (by simpa using hc)
      simpa [Ne.symm hself] using (isSealed_append_iff hsealed).trans ih

/-! ### Character classes -/

/-- Whether a class is open behind a token; escapes neither open nor close one. -/
def Token.classAfter (inClass : Bool) : Token → Bool
  | .char c => Pattern.classAfter inClass c
  | .escape _ => inClass
  | .dangling => inClass

/-- Whether a class is open behind tokens, from inside a class or from outside. -/
def isOpenAfter (inClass : Bool) (ts : List Token) : Bool :=
  ts.foldl Token.classAfter inClass

@[simp]
theorem isOpenAfter_nil (b : Bool) : isOpenAfter b [] = b :=
  rfl

@[simp]
theorem isOpenAfter_cons (b : Bool) (x : Token) (ts : List Token) :
    isOpenAfter b (x :: ts) = isOpenAfter (x.classAfter b) ts :=
  rfl

theorem isOpenAfter_append (b : Bool) (ts us : List Token) :
    isOpenAfter b (ts ++ us) = isOpenAfter (isOpenAfter b ts) us :=
  List.foldl_append

/-- Outside a class only an opening bracket leads into one. -/
theorem classAfter_false {x : Token} (h : x ≠ .char '[') : x.classAfter false = false := by
  cases x with
  | char c =>
    have hc : c ≠ '[' := fun hc => h (congrArg Token.char hc)
    simp [Token.classAfter, Pattern.classAfter, hc]
  | escape c => rfl
  | dangling => rfl

/-! ### Normal sources -/

/-- A slash that is a token of its own stands inside a class. -/
theorem isOpenAfter_of_writeSource (h : tokens (writeSource b t) = before ++ .char '/' :: after) :
    isOpenAfter b before = true := by
  induction t using pairs_rec generalizing b before with
  | nil => cases before <;> cases h
  | dangling =>
    rcases List.cons_eq_append_iff.1 h with ⟨-, heq⟩ | ⟨front, -, hrest⟩
    · cases heq
    · cases front <;> cases hrest
  | pair c r ih =>
    rw [writeSource_escape, tokens_pair] at h
    rcases List.cons_eq_append_iff.1 h with ⟨-, heq⟩ | ⟨front, rfl, hrest⟩
    · cases heq
    · have hopen := ih hrest
      exact hopen
  | char c r hc ih =>
    rw [writeSource_cons hc] at h
    rcases writtenChar_cases (classAfter b c) c with ⟨e, he, hclass⟩ | ⟨hself, hslash⟩
    · rw [he, hclass, List.cons_append, List.singleton_append, tokens_pair] at h
      rcases List.cons_eq_append_iff.1 h with ⟨-, heq⟩ | ⟨front, rfl, hrest⟩
      · cases heq
      · have hopen := ih hrest
        exact hopen
    · rw [hself, List.singleton_append, tokens_cons hc] at h
      rcases List.cons_eq_append_iff.1 h with ⟨rfl, heq⟩ | ⟨front, rfl, hrest⟩
      · -- a slash neither opens nor closes a class
        cases heq
        exact hslash rfl
      · have hopen := ih hrest
        exact hopen

/-- **Slashes outside classes** are escaped in a normal source. -/
theorem isOpenAfter_of_slash (h : tokens (normalizeSource t) = before ++ .char '/' :: after) :
    isOpenAfter false before = true := by
  unfold normalizeSource at h
  split at h
  · have hmem : Token.char '/' ∈ tokens "(?:)".toList := by
      rw [h]
      simp
    exact absurd hmem (by decide)
  · exact isOpenAfter_of_writeSource h

/-- The line breaks that a pattern may not hold. -/
def isLineBreak (c : Char) : Bool :=
  c = '\n' || c = '\r'

theorem not_mem_tokens_writeSource (hc : isLineBreak c = true) :
    .char c ∉ tokens (writeSource b t) := by
  have hwritten : ∀ b, writtenChar b c ≠ [c] := by
    simp only [isLineBreak, Bool.or_eq_true, decide_eq_true_eq] at hc
    rcases hc with rfl | rfl <;> decide
  induction t using pairs_rec generalizing b with
  | nil => exact List.not_mem_nil
  | dangling =>
    have hself : writeSource b ['\\'] = ['\\'] := by cases b <;> decide
    rw [hself]
    simp [tokens]
  | pair d r ih =>
    rw [writeSource_escape, tokens_pair]
    simpa using ih
  | char d r hd ih =>
    rw [writeSource_cons hd]
    rcases writtenChar_cases (classAfter b d) d with ⟨e, he, -⟩ | ⟨hself, -⟩
    · rw [he, List.cons_append, List.singleton_append, tokens_pair]
      simpa using ih
    · have hne : c ≠ d := by
        rintro rfl
        exact hwritten _ hself
      rw [hself, List.singleton_append, tokens_cons hd]
      simpa [hne] using ih

/-- **A normal source has no line breaks** but escaped ones. -/
theorem not_mem_tokens_of_isLineBreak (hc : isLineBreak c = true) :
    .char c ∉ tokens (normalizeSource t) := by
  unfold normalizeSource
  split
  · have hnone : ∀ d, isLineBreak d = true → .char d ∉ tokens "(?:)".toList := by
      intro d hd
      simp only [isLineBreak, Bool.or_eq_true, decide_eq_true_eq] at hd
      rcases hd with rfl | rfl <;> decide
    exact hnone c hc
  · exact not_mem_tokens_writeSource hc

end SelectorCode.Pattern
