import SelectorCode.Proofs.Pattern.Entire

/-!
# A pattern as a literal

The written form of a pattern is meant to be one literal of the dialect that selectors are written in. It stands on one
line, and the slash that closes it is the first one that is neither escaped nor inside a class. Normalizing takes care
of slashes and of line breaks that are tokens of their own, but it leaves escapes alone, so an escaped line break stays.
That no backslash is left in front of the closing slash, and that no class is open there, is for the check to find out.

## Main Definitions

* `IsLiteral`: the written form of a pattern is one literal.

## Main Statements

* `readPatternSource_slash_iff`: the slash behind a source closes the literal exactly if the source ends outside
  classes.
* `isLiteral_iff`: what makes an accepted pattern a literal, and how the check can fail to find out that it is none.
-/

namespace SelectorCode.Pattern

open Attribute (isPatternFlag readPatternSource readPatternSource_escape readPatternSource_cons)

variable {source flags s r t : Text} {p : Pattern} {b : Bool} {c : Char}

/-! ### The closing slash -/

/-- What stands in front of a source that has been read is told apart from it. -/
theorem map_append_eq_some_iff (u : Text) {x : Option (Text × Text)} :
    (x.map fun p => (u ++ p.1, p.2)) = some (u ++ s, r) ↔ x = some (s, r) := by
  cases x with
  | none => simp
  | some p => simp [Prod.ext_iff]

/-- **The slash behind a source** closes the literal exactly if the source ends outside classes, where slashes outside
classes are escaped in the source. -/
theorem readPatternSource_slash_iff
    (hslash : ∀ before after, tokens s = before ++ .char '/' :: after →
      isOpenAfter b before = true) :
    readPatternSource b (s ++ '/' :: r) = some (s, r) ↔ ending b s = some false := by
  induction s using pairs_rec generalizing b with
  | nil =>
    cases b with
    | false => exact iff_of_true rfl rfl
    | true => simp [readPatternSource, Prod.ext_iff]
  | dangling =>
    -- the backslash takes the slash along
    refine iff_of_false (fun h => ?_) (by simp [ending, tokens])
    rw [List.singleton_append, readPatternSource_escape] at h
    obtain ⟨q, -, heq⟩ := Option.map_eq_some_iff.1 h
    cases heq
  | pair c s ih =>
    rw [List.cons_append, List.cons_append, readPatternSource_escape, ending_pair]
    refine (map_append_eq_some_iff ['\\', c]).trans (ih fun before after heq => ?_)
    exact hslash (.escape c :: before) after (by rw [tokens_pair, heq, List.cons_append])
  | char c s hc ih =>
    have hself : c = '/' → b = true := by
      rintro rfl
      exact hslash [] (tokens s) (tokens_cons hc s)
    rw [List.cons_append, readPatternSource_cons hc hself, ending_cons hc]
    refine (map_append_eq_some_iff [c]).trans (ih fun before after heq => ?_)
    exact hslash (.char c :: before) after (by rw [tokens_cons hc, heq, List.cons_append])

/-! ### Line breaks -/

/-- The characters of a text are those of its tokens. -/
theorem mem_iff_of_tokens (hc : c ≠ '\\') : c ∈ t ↔ .char c ∈ tokens t ∨ .escape c ∈ tokens t := by
  induction t using pairs_rec with
  | nil => simp [tokens]
  | dangling => simp [tokens, hc]
  | pair d r ih => simp [tokens_pair, ih, hc, or_left_comm]
  | char d r hd ih => simp [tokens_cons hd, ih, or_assoc]

/-! ### Literals -/

/-- The written form of a pattern is one literal: it has no line breaks, and the first slash outside classes is the one
in front of the flags. -/
structure IsLiteral (p : Pattern) : Prop where
  no_line_feed : '\n' ∉ p.text
  no_carriage_return : '\r' ∉ p.text
  closed : readPatternSource false (p.text.drop 1) = some (p.source, p.flags)

/-- In an accepted pattern only escapes can be line breaks, if none of the flags is one. -/
theorem lineBreak_mem_text_iff (h : ofSource source flags = .ok p)
    (hflags : ∀ d ∈ flags, isPatternFlag d = true) (hc : isLineBreak c = true)
    (hplain : c ≠ '\\' ∧ c ≠ '/' ∧ isPatternFlag c = false) :
    c ∈ p.text ↔ .escape c ∈ tokens p.source := by
  have hp := eq_of_ofSource h
  have hflag : c ∉ p.flags := fun hmem => by
    rw [hp] at hmem
    exact absurd (hflags c hmem) (by simp [hplain.2.2])
  have hchar : .char c ∉ tokens p.source := by
    rw [hp]
    exact not_mem_tokens_of_isLineBreak hc
  have hsource : c ∈ p.text ↔ c ∈ p.source := by simp [text, hflag, hplain.2.1]
  rw [hsource, mem_iff_of_tokens hplain.1, or_iff_right hchar]

/-- **When a pattern is one literal.** The written form of an accepted pattern is a literal exactly if no line break in
its source is escaped and the source ends outside classes, without a backslash. The check has seen to the end of the
source unless the source was misjudged or may hold comments. -/
theorem isLiteral_iff (h : ofSource source flags = .ok p)
    (hflags : ∀ c ∈ flags, isPatternFlag c = true) :
    (IsLiteral p ↔ (.escape '\n' ∉ tokens p.source ∧ .escape '\r' ∉ tokens p.source) ∧
      ending false p.source = some false) ∧
    (ending false p.source = none → IsMisjudged p.source) ∧
    (ending false p.source = some true →
      IsMisjudged p.source ∨ MayComment (tokens (portable p.source))) := by
  have hfeed := lineBreak_mem_text_iff (c := '\n') h hflags (by decide) (by decide)
  have hreturn := lineBreak_mem_text_iff (c := '\r') h hflags (by decide) (by decide)
  have hclosed : readPatternSource false (p.text.drop 1) = some (p.source, p.flags) ↔
      ending false p.source = some false := by
    refine readPatternSource_slash_iff fun before after heq => ?_
    rw [eq_of_ofSource h] at heq
    exact isOpenAfter_of_slash heq
  refine ⟨⟨fun hp => ?_, fun hp => ?_⟩, fun hend => ?_, fun hend => ?_⟩
  · exact ⟨⟨mt hfeed.2 hp.no_line_feed, mt hreturn.2 hp.no_carriage_return⟩, hclosed.1 hp.closed⟩
  · exact ⟨mt hfeed.1 hp.1.1, mt hreturn.1 hp.1.2, hclosed.2 hp.2⟩
  · by_contra hjudged
    exact dangling_not_mem_of_ofSource h hjudged (ending_eq_none_iff.1 hend)
  · by_contra hnone
    obtain ⟨hjudged, hcomment⟩ := not_or.1 hnone
    refine hcomment (mayComment_of_ofSource h hjudged ?_)
    rw [ending_of_not_mem (dangling_not_mem_of_ofSource h hjudged)] at hend
    exact Option.some.inj hend

/-- A slash stays as it is in a class, and an escaped bracket opens none. -/
theorem isLiteral_class :
    ofSource "a/[/]\\[".toList "i".toList = .ok ⟨"a\\/[/]\\[".toList, "i".toList⟩ ∧
      IsLiteral ⟨"a\\/[/]\\[".toList, "i".toList⟩ := by
  have hread : ofSource "a/[/]\\[".toList "i".toList = .ok ⟨"a\\/[/]\\[".toList, "i".toList⟩ := by
    decide +kernel
  exact ⟨hread, (isLiteral_iff hread (List.all_eq_true.1 (by decide))).1.2 (by decide +kernel)⟩

/-- Not every accepted pattern is a literal: a line break that is escaped stays, and a bracket in a comment opens a
class that nothing closes. -/
theorem not_isLiteral :
    (¬ ∀ (source flags : Text) (p : Pattern), ofSource source flags = .ok p →
      (∀ c ∈ flags, isPatternFlag c = true) → '\n' ∉ p.text) ∧
    ¬ ∀ (source flags : Text) (p : Pattern), ofSource source flags = .ok p →
      (∀ c ∈ flags, isPatternFlag c = true) →
      readPatternSource false (p.text.drop 1) = some (p.source, p.flags) := by
  constructor
  · intro h
    exact h "a\\\nb".toList [] ⟨"a\\\nb".toList, []⟩ (by decide +kernel)
      (List.forall_mem_nil _) (by decide)
  · intro h
    have hclosed := h "(?#[)".toList [] ⟨"(?#[)".toList, []⟩ (by decide +kernel)
      (List.forall_mem_nil _)
    exact absurd hclosed (by decide)

end SelectorCode.Pattern
