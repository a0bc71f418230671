import SelectorCode.Locator.Language
import SelectorCode.Proofs.Pattern.Entire

/-!
# Sources in raw strings

Python code holds the source of a pattern in a raw string, where a backslash keeps the mark behind it from closing the
string and stays itself. Slashes are freed of their escapes before, and marks are escaped after. Both are done character
by character, while a source is made of tokens. So an escaped backslash lends its second half to a slash behind it, and
an escaped mark gets a second backslash that frees the mark again.

In both cases the tokens of the source say exactly when it goes wrong. A slash behind an escaped backslash can only
stand in a class, since normalizing escapes it elsewhere. An escaped mark can stand anywhere.

## Main Definitions

* `Token.unescapeSlash`: a token of which an escaped slash is freed.
* `afterRaw`: what stands behind a raw string.

## Main Statements

* `tokens_unescapeSlashes_iff`: slashes are freed token by token unless one stands behind an escaped backslash.
* `isSealed_rawSource_iff`: a raw string ends where it is closed unless a mark in the source is escaped.
* `afterRaw_eq_iff`, `tokens_rawSource_iff`: the same of accepted patterns.
-/

namespace SelectorCode

open Pattern (Token tokens tokens_pair tokens_cons pairs_rec isSealed_iff isOpenAfter
  isOpenAfter_append isOpenAfter_of_slash classAfter ofSource eq_of_ofSource IsMisjudged
  dangling_not_mem_of_ofSource)
open Text (IsSealed)

/-- The token that is left of a token when slashes are freed. -/
def Pattern.Token.unescapeSlash : Token → Token
  | .escape '/' => .char '/'
  | x => x

namespace Language

variable {t r source flags : Text} {c : Char} {p : Pattern}

/-! ### Slashes -/

theorem unescapeSlashes_slash (r : Text) :
    unescapeSlashes ('\\' :: '/' :: r) = '/' :: unescapeSlashes r := by
  rw [unescapeSlashes]

theorem unescapeSlashes_cons (h : c = '\\' → ∀ s, r ≠ '/' :: s) :
    unescapeSlashes (c :: r) = c :: unescapeSlashes r := by
  rw [unescapeSlashes]
  intro s hc hr
  exact h hc s hr

/-- A pair that escapes neither a slash nor a backslash before a slash is kept. -/
theorem unescapeSlashes_pair (hc : c ≠ '/') (h : c = '\\' → ∀ s, r ≠ '/' :: s) :
    unescapeSlashes ('\\' :: c :: r) = '\\' :: c :: unescapeSlashes r := by
  rw [unescapeSlashes_cons, unescapeSlashes_cons h]
  intro _ s hs
  exact hc (List.cons.inj hs).1

/-- The second backslash of a pair is taken for the escape of the slash behind the pair. -/
theorem unescapeSlashes_backslash (r : Text) :
    unescapeSlashes ('\\' :: '\\' :: '/' :: r) = '\\' :: '/' :: unescapeSlashes r := by
  rw [unescapeSlashes_cons, unescapeSlashes_slash]
  intro _ s hs
  exact absurd (List.cons.inj hs).1 (by decide)

/-- The ways in which a pair is treated. -/
theorem pair_cases (c : Char) (r : Text) :
    c = '/' ∨ (c = '\\' ∧ ∃ s, r = '/' :: s) ∨ (c ≠ '/' ∧ (c = '\\' → ∀ s, r ≠ '/' :: s)) := by
  by_cases hslash : c = '/'
  · exact Or.inl hslash
  by_cases hback : c = '\\' ∧ ∃ s, r = '/' :: s
  · exact Or.inr (Or.inl hback)
  · exact Or.inr (Or.inr ⟨hslash, fun hc s hr => hback ⟨hc, s, hr⟩⟩)

/-- Freeing slashes leaves everything that ends or does not end a raw string where it is. -/
theorem mem_tokens_unescapeSlashes {x : Token} (hx : x = .escape '"' ∨ x = .dangling) :
    x ∈ tokens (unescapeSlashes t) ↔ x ∈ tokens t := by
  have hchar : ∀ c, x ≠ .char c := by rcases hx with rfl | rfl <;> simp
  have hslash : x ≠ .escape '/' := by rcases hx with rfl | rfl <;> simp
  have hback : x ≠ .escape '\\' := by rcases hx with rfl | rfl <;> simp
  induction t using pairs_rec with
  | nil => exact Iff.rfl
  | dangling => exact Iff.rfl
  | pair c r ih =>
    rcases pair_cases c r with rfl | ⟨rfl, s, rfl⟩ | ⟨hc, h⟩
    · rw [unescapeSlashes_slash, tokens_pair, tokens_cons (by decide)]
      simpa [hchar, hslash] using ih
    · have hcons : ('/' : Char) ≠ '\\' := by decide
      rw [unescapeSlashes_cons fun h => absurd h hcons, tokens_cons hcons, tokens_cons hcons] at ih
      rw [unescapeSlashes_backslash, tokens_pair, tokens_pair, tokens_cons hcons]
      simpa [hchar, hslash, hback] using ih
    · rw [unescapeSlashes_pair hc h, tokens_pair, tokens_pair, List.mem_cons, List.mem_cons]
      exact or_congr_right ih
  | char c r hc ih =>
    rw [unescapeSlashes_cons fun h => absurd h hc, tokens_cons hc, tokens_cons hc, List.mem_cons,
      List.mem_cons]
    exact or_congr_right ih

/-- A first token that is a single character is the first character. -/
theorem exists_of_prefix_tokens (h : [.char c] <+: tokens t) : ∃ s, t = c :: s := by
  obtain ⟨ts, hts⟩ := h
  induction t using pairs_rec with
  | nil => cases hts
  | dangling => cases hts
  | pair d r _ =>
    rw [tokens_pair] at hts
    cases hts
  | char d r hd _ =>
    rw [tokens_cons hd] at hts
    cases hts
    exact ⟨r, rfl⟩

theorem unescapeSlash_escape (hc : c ≠ '/') : Token.unescapeSlash (.escape c) = .escape c := by
  rw [Token.unescapeSlash]
  intro h
  exact hc (Token.escape.inj h)

/-- Freeing slashes token by token, unless a slash stands behind an escaped backslash. -/
theorem tokens_unescapeSlashes_iff :
    tokens (unescapeSlashes t) = (tokens t).map Token.unescapeSlash ↔
      ¬ [.escape '\\', .char '/'] <:+: tokens t := by
  induction t using pairs_rec with
  | nil => simp [unescapeSlashes, tokens]
  | dangling => simp [unescapeSlashes, tokens, Token.unescapeSlash, List.infix_cons_iff]
  | pair c r ih =>
    rcases pair_cases c r with rfl | ⟨rfl, s, rfl⟩ | ⟨hc, h⟩
    · rw [unescapeSlashes_slash, tokens_pair, tokens_cons (by decide)]
      simpa [Token.unescapeSlash, List.infix_cons_iff] using ih
    · have hcons : ('/' : Char) ≠ '\\' := by decide
      rw [unescapeSlashes_backslash, tokens_pair, tokens_pair, tokens_cons hcons]
      simp [Token.unescapeSlash, List.infix_cons_iff]
    · have hhead : ¬ [Token.escape '\\', .char '/'] <+: .escape c :: tokens r := by
        rw [List.cons_prefix_cons]
        rintro ⟨hback, hslash⟩
        obtain ⟨s, hs⟩ := exists_of_prefix_tokens hslash
        exact h (Token.escape.inj hback).symm s hs
      rw [unescapeSlashes_pair hc h, tokens_pair, tokens_pair, List.map_cons,
        unescapeSlash_escape hc, List.cons_inj_right, List.infix_cons_iff, or_iff_right hhead]
      exact ih
  | char c r hc ih =>
    rw [unescapeSlashes_cons fun h => absurd h hc, tokens_cons hc, tokens_cons hc]
    simpa [Token.unescapeSlash, List.infix_cons_iff] using ih

/-! ### Marks -/

theorem escapeMarks_cons (c : Char) (r : Text) :
    escapeMarks (c :: r) = (if c = '"' then ['\\', c] else [c]) ++ escapeMarks r :=
  List.flatMap_cons

/-- Escaping marks ends the string at those that are escaped already. -/
theorem mem_tokens_escapeMarks :
    (.char '"' ∈ tokens (escapeMarks t) ↔ .escape '"' ∈ tokens t) ∧
      (.dangling ∈ tokens (escapeMarks t) ↔ .dangling ∈ tokens t) := by
  induction t using pairs_rec with
  | nil => simp [escapeMarks, tokens]
  | dangling => simp [escapeMarks, tokens]
  | pair c r ih =>
    by_cases hc : c = '"'
    · subst hc
      have hwritten : escapeMarks ('\\' :: '"' :: r) = '\\' :: '\\' :: '"' :: escapeMarks r := rfl
      rw [hwritten, tokens_pair, tokens_pair, tokens_cons (by decide)]
      simpa using ih.2
    · have hwritten : escapeMarks ('\\' :: c :: r) = '\\' :: c :: escapeMarks r := by
        rw [escapeMarks_cons, escapeMarks_cons, if_neg hc]
        rfl
      rw [hwritten, tokens_pair, tokens_pair]
      simpa [Ne.symm hc] using ih
  | char c r hc ih =>
    rw [escapeMarks_cons, tokens_cons hc]
    by_cases hmark : c = '"'
    · rw [if_pos hmark, List.cons_append, List.singleton_append, tokens_pair]
      simpa using ih
    · rw [if_neg hmark, List.singleton_append, tokens_cons hc]
      simpa [Ne.symm hmark] using ih

/-- **A raw string is sealed** unless its source holds an escaped mark or ends with a backslash. -/
theorem isSealed_rawSource_iff :
    IsSealed '"' (rawSource t) ↔ .escape '"' ∉ tokens t ∧ .dangling ∉ tokens t := by
  rw [isSealed_iff (by decide), rawSource, mem_tokens_escapeMarks.1, mem_tokens_escapeMarks.2,
    mem_tokens_unescapeSlashes (Or.inl rfl), mem_tokens_unescapeSlashes (Or.inr rfl)]

/-! ### Raw strings -/

/-- The text behind the mark that closes a raw string; a backslash keeps the character behind it from closing it. -/
def afterRaw : Text → Option Text
  | '\\' :: _ :: r => afterRaw r
  | c :: r => if c = '"' then some r else afterRaw r
  | [] => none

theorem afterRaw_pair (c : Char) (r : Text) : afterRaw ('\\' :: c :: r) = afterRaw r := by
  rw [afterRaw]

theorem afterRaw_cons (hc : c ≠ '\\') (r : Text) :
    afterRaw (c :: r) = if c = '"' then some r else afterRaw r := by
  rw [afterRaw]
  intro _ _ h
  exact absurd h hc

theorem length_lt_of_afterRaw (h : afterRaw t = some r) : r.length < t.length := by
  induction t using pairs_rec with
  | nil => cases h
  | dangling => cases h
  | pair c s ih =>
    rw [afterRaw_pair] at h
    have hlt := ih h
    simp only [List.length_cons]
    omega
  | char c s hc ih =>
    rw [afterRaw_cons hc] at h
    split at h
    · cases h
      simp
    · have hlt := ih h
      simp only [List.length_cons]
      omega

/-- The mark behind a text closes a raw string exactly if the text is sealed. -/
theorem afterRaw_append_iff : afterRaw (t ++ '"' :: r) = some r ↔ IsSealed '"' t := by
  rw [isSealed_iff (by decide)]
  induction t using pairs_rec with
  | nil => simp [afterRaw_cons, tokens]
  | dangling =>
    refine iff_of_false (fun h => ?_) (by simp [tokens])
    rw [List.singleton_append, afterRaw_pair] at h
    exact absurd (length_lt_of_afterRaw h) (Nat.lt_irrefl _)
  | pair c s ih =>
    rw [List.cons_append, List.cons_append, afterRaw_pair, tokens_pair]
    simpa using ih
  | char c s hc ih =>
    rw [List.cons_append, afterRaw_cons hc, tokens_cons hc]
    by_cases hmark : c = '"'
    · refine iff_of_false (fun h => ?_) (by simp [hmark])
      rw [if_pos hmark] at h
      have hlength := congrArg List.length (Option.some.inj h)
      rw [List.length_append, List.length_cons] at hlength
      omega
    · rw [if_neg hmark]
      simpa [Ne.symm hmark] using ih

/-- **The raw string of an accepted pattern** is closed where the code closes it exactly if no mark in the source is
escaped and no backslash is left at its end, which the check rules out unless the source is misjudged. -/
theorem afterRaw_eq_iff (h : ofSource source flags = .ok p) :
    ∃ closing, python.pattern p = "re.compile(r\"".toList ++
        (rawSource p.source ++ '"' :: closing) ∧
      (afterRaw (rawSource p.source ++ '"' :: closing) = some closing ↔
        IsSealed '"' (rawSource p.source)) ∧
      (IsSealed '"' (rawSource p.source) ↔
        .escape '"' ∉ tokens p.source ∧ .dangling ∉ tokens p.source) ∧
      (.dangling ∈ tokens p.source → IsMisjudged p.source) := by
  have hwritten : python.pattern p = "re.compile(r\"".toList ++
      (rawSource p.source ++ '"' :: (caseFlag p "re.IGNORECASE".toList ++ [')'])) := by
    unfold pattern
    rw [List.append_assoc, List.append_assoc, List.append_assoc, List.singleton_append]
  refine ⟨_, hwritten, afterRaw_append_iff, isSealed_rawSource_iff, fun hmem => ?_⟩
  by_contra hjudged
  exact dangling_not_mem_of_ofSource h hjudged hmem

/-- Marks are escaped, and those behind an escaped backslash as well. -/
theorem afterRaw_eq_marks :
    ofSource "a\"b\\\\\"c".toList [] = .ok ⟨"a\"b\\\\\"c".toList, []⟩ ∧
      IsSealed '"' (rawSource "a\"b\\\\\"c".toList) ∧
      ∃ closing, python.pattern ⟨"a\"b\\\\\"c".toList, []⟩ = "re.compile(r\"".toList ++
          (rawSource "a\"b\\\\\"c".toList ++ '"' :: closing) ∧
        afterRaw (rawSource "a\"b\\\\\"c".toList ++ '"' :: closing) = some closing := by
  have hread : ofSource "a\"b\\\\\"c".toList [] = .ok ⟨"a\"b\\\\\"c".toList, []⟩ := by
    decide +kernel
  obtain ⟨closing, hwritten, hclosed, hsealed, -⟩ := afterRaw_eq_iff hread
  have hseal := hsealed.2 (by decide +kernel)
  exact ⟨hread, hseal, closing, hwritten, hclosed.2 hseal⟩

/-- Not every raw string is sealed: a mark that is escaped in the source is freed by the backslash it gets. -/
theorem not_isSealed_rawSource :
    ¬ ∀ (source flags : Text) (p : Pattern), ofSource source flags = .ok p →
      IsSealed '"' (rawSource p.source) := by
  intro h
  have hsealed := h "a\\\"b".toList [] ⟨"a\\\"b".toList, []⟩ (by decide +kernel)
  exact absurd (isSealed_rawSource_iff.1 hsealed).1 (by decide +kernel)

/-! ### Slashes in accepted patterns -/

theorem escapeMarks_of_not_mem (h : '"' ∉ t) : escapeMarks t = t := by
  induction t with
  | nil => rfl
  | cons c r ih =>
    obtain ⟨hc, hr⟩ := not_or.1 (mt List.mem_cons.2 h)
    rw [escapeMarks_cons, if_neg (Ne.symm hc), ih hr, List.singleton_append]

theorem mem_of_mem_unescapeSlashes (h : c ∈ unescapeSlashes t) : c ∈ t := by
  fun_induction unescapeSlashes t with
  | case1 r ih =>
    rcases List.mem_cons.1 h with rfl | h
    · exact List.mem_cons_of_mem _ List.mem_cons_self
    · exact List.mem_cons_of_mem _ (List.mem_cons_of_mem _ (ih h))
  | case2 d r _ ih =>
    rcases List.mem_cons.1 h with rfl | h
    · exact List.mem_cons_self
    · exact List.mem_cons_of_mem d (ih h)
  | case3 => exact h

/-- **Freeing the slashes of an accepted pattern** keeps all other tokens unless a slash stands behind an escaped
backslash, as it can only do in a class. -/
theorem tokens_rawSource_iff (h : ofSource source flags = .ok p) (hmark : '"' ∉ p.source) :
    (tokens (rawSource p.source) = (tokens p.source).map Token.unescapeSlash ↔
      ¬ [.escape '\\', .char '/'] <:+: tokens p.source) ∧
    ∀ before after, tokens p.source = before ++ .escape '\\' :: .char '/' :: after →
      isOpenAfter false before = true := by
  have hraw : rawSource p.source = unescapeSlashes p.source :=
    escapeMarks_of_not_mem (mt mem_of_mem_unescapeSlashes hmark)
  refine ⟨?_, fun before after heq => ?_⟩
  · rw [hraw]
    exact tokens_unescapeSlashes_iff
  · rw [eq_of_ofSource h, List.append_cons] at heq
    have hopen := isOpenAfter_of_slash heq
    rwa [isOpenAfter_append] at hopen

/-- A slash is freed in front of an escaped backslash. -/
theorem tokens_rawSource_backslash :
    ofSource "a\\/\\\\[/]".toList [] = .ok ⟨"a\\/\\\\[/]".toList, []⟩ ∧
      tokens (rawSource "a\\/\\\\[/]".toList) =
        (tokens "a\\/\\\\[/]".toList).map Token.unescapeSlash := by
  have hread : ofSource "a\\/\\\\[/]".toList [] = .ok ⟨"a\\/\\\\[/]".toList, []⟩ := by
    decide +kernel
  refine ⟨hread, (tokens_rawSource_iff hread (by decide)).1.2 ?_⟩
  decide +kernel

/-- Not all other tokens are kept: in a class, an escaped backslash in front of a slash loses its second half. -/
theorem not_tokens_rawSource :
    ¬ ∀ (source flags : Text) (p : Pattern), ofSource source flags = .ok p → '"' ∉ p.source →
      tokens (rawSource p.source) = (tokens p.source).map Token.unescapeSlash := by
  intro h
  have htokens := h "[\\\\/]".toList [] ⟨"[\\\\/]".toList, []⟩ (by decide +kernel) (by decide)
  exact absurd htokens (by decide +kernel)

end Language

end SelectorCode
