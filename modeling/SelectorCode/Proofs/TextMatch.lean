import SelectorCode.Proofs.Outcome
import SelectorCode.Proofs.Pattern.Normal
import SelectorCode.Proofs.Selector.Quoted
import SelectorCode.Proofs.Text.Literal
import SelectorCode.TextMatch

/-!
# Reading the bodies of text engines

A body is a slashed pattern, a quoted text or a text as it stands, and its form is told from its ends. A slashed pattern
is cut at its last slash. Normalizing a source changes only what stands in front of that slash, and puts no line break
there, so the written form of a pattern is cut at the same slash again. A quoted text is told from the mark at its end; the
mark in front of it may be left out, as long as what is left does not begin with a mark itself. A literal without its
first mark never does, since the marks in its text are escaped.

## Main Statements

* `slashed?_eq_some_iff`: the slashed patterns.
* `ofBody_eq_pattern_iff`: a body asks for a pattern if it is slashed and the pattern is accepted.
* `ofBody_pattern_text`: the written form of a pattern that has been read is read as the pattern.
* `ofBody_quoted`: a body with a mark at its end is a quoted text, whatever stands in front of the mark.
* `ofBody_cons_quote`: the opening mark may be left out.
* `ofBody_literal`: the body of a text engine is read as the text that it quotes.
* `ofBody_halfQuoted`: so it is if the body is a literal without its opening mark.
-/

namespace SelectorCode

/-! ### Splitting -/

/-- A text is split at the character behind which the character does not come again. -/
theorem Text.splitLast?_eq_some_iff {sep : Char} {t before after : Text} :
    splitLast? sep t = some (before, after) ↔ t = before ++ sep :: after ∧ sep ∉ after := by
  refine ⟨eq_append_of_splitLast?, ?_⟩
  rintro ⟨rfl, hafter⟩
  induction before with
  | nil => simp [splitLast?, splitLast?_eq_none_iff.2 hafter]
  | cons c before ih => rw [List.cons_append, splitLast?, ih]

/-- Of two different characters at which a text is cut, one stands behind the other. -/
theorem Text.mem_or_mem_of_append_cons_eq {c d : Char} {t u v w : Text} (hne : c ≠ d)
    (h : t ++ c :: u = v ++ d :: w) : c ∈ w ∨ d ∈ u := by
  rcases List.append_eq_append_iff.1 h with ⟨s, -, hs⟩ | ⟨s, -, hs⟩
  · cases s with
    | nil => exact absurd (List.cons.inj hs).1 hne
    | cons e s => exact Or.inr (by simp [(List.cons.inj hs).2])
  · cases s with
    | nil => exact absurd (List.cons.inj hs).1.symm hne
    | cons e s => exact Or.inl (by simp [(List.cons.inj hs).2])

namespace TextMatch

variable {body source flags t : Text} {p : Pattern} {exact : Option Bool}

/-! ### Slashed patterns -/

/-- **A slashed pattern** has only flags behind its last slash, and no line break in front of it. -/
theorem slashed?_eq_some_iff :
    slashed? body = some (source, flags) ↔
      body = '/' :: (source ++ '/' :: flags) ∧ (∀ c ∈ flags, isBodyFlag c = true) ∧ '\n' ∉ source := by
  constructor
  · intro h
    unfold slashed? at h
    split at h
    next r =>
      split at h
      next s f hsplit =>
        split at h
        next hvalid =>
          cases h
          simp only [Bool.and_eq_true, List.all_eq_true, Bool.not_eq_true', List.contains_eq_mem,
            decide_eq_false_iff_not] at hvalid
          exact ⟨by rw [(Text.eq_append_of_splitLast? hsplit).1], hvalid⟩
        next => cases h
      next => cases h
    next => cases h
  · rintro ⟨rfl, hflags, hline⟩
    have hslash : '/' ∉ flags := fun hmem => absurd (hflags '/' hmem) (by decide)
    have hsplit : Text.splitLast? '/' (source ++ '/' :: flags) = some (source, flags) :=
      Text.splitLast?_eq_some_iff.2 ⟨rfl, hslash⟩
    have hvalid : (flags.all isBodyFlag && !source.contains '\n') = true := by
      simpa using ⟨hflags, hline⟩
    simp only [slashed?, hsplit, hvalid, if_true]

/-- **A body asks for a pattern** if it is slashed and the pattern is accepted. -/
theorem ofBody_eq_pattern_iff :
    ofBody body = .ok ⟨exact, .pattern p⟩ ↔
      exact = none ∧ ∃ source flags, slashed? body = some (source, flags) ∧
        Pattern.ofSource source flags = .ok p := by
  constructor
  · intro h
    unfold ofBody at h
    split at h
    next source flags hslashed =>
      split at h
      next q hq =>
        cases h
        exact ⟨rfl, source, flags, hslashed, hq⟩
      next => cases h
    next =>
      split at h
      next =>
        obtain ⟨t, -, heq⟩ := exists_of_map_eq_ok h
        cases heq
      next => cases h
  · rintro ⟨rfl, source, flags, hslashed, hp⟩
    simp only [ofBody, hslashed, hp]

/-- The written form of a normal source on one line is cut at the same slash again. -/
theorem slashed?_text_of_slashed? (hslashed : slashed? body = some (source, flags))
    (hp : Pattern.ofSource source flags = .ok p) : slashed? p.text = some (p.source, p.flags) := by
  obtain ⟨-, hflags, hline⟩ := slashed?_eq_some_iff.1 hslashed
  rw [Pattern.eq_of_ofSource hp]
  exact slashed?_eq_some_iff.2 ⟨rfl, hflags, mt Pattern.newline_mem_of_normalizeSource hline⟩

/-- **Patterns are stable under printing.** The written form of a pattern that a body asks for is cut into the source and
the flags of the pattern, and asks for the same pattern. Every source is as it was when it is normalized once more, and is
accepted, or refused with the same error, as it was before. -/
theorem ofBody_pattern_text :
    (∀ body exact p, ofBody body = .ok ⟨exact, .pattern p⟩ →
      exact = none ∧ slashed? p.text = some (p.source, p.flags) ∧
        ofBody p.text = .ok ⟨none, .pattern p⟩) ∧
    (∀ source, Pattern.normalizeSource (Pattern.normalizeSource source) =
      Pattern.normalizeSource source) ∧
    ∀ source flags, Pattern.ofSource (Pattern.normalizeSource source) flags =
      Pattern.ofSource source flags := by
  refine ⟨fun body exact p h => ?_, Pattern.normalizeSource_normalizeSource, fun source flags => ?_⟩
  · obtain ⟨rfl, source, flags, hslashed, hp⟩ := ofBody_eq_pattern_iff.1 h
    have hcut := slashed?_text_of_slashed? hslashed hp
    have haccepted := Pattern.ofSource_of_ofSource hp
    exact ⟨rfl, hcut, ofBody_eq_pattern_iff.2 ⟨rfl, p.source, p.flags, hcut, haccepted⟩⟩
  · rw [Pattern.ofSource, Pattern.normalizeSource_normalizeSource, Pattern.ofSource]

/-- A slash outside classes and a carriage return are escaped; a slash in a class and an escaped one stay. -/
theorem ofBody_pattern_text_slashes :
    ofBody "/a/b[/]\r\\//gi".toList =
        .ok ⟨none, .pattern ⟨"a\\/b[/]\\r\\/".toList, "gi".toList⟩⟩ ∧
      ofBody "/a\\/b[/]\\r\\//gi".toList =
        .ok ⟨none, .pattern ⟨"a\\/b[/]\\r\\/".toList, "gi".toList⟩⟩ := by
  refine (fun hread => ⟨hread, (ofBody_pattern_text.1 _ _ _ hread).2.2⟩) ?_
  exact eq_ok_of_toOption_eq_some (by decide +kernel)

/-! ### Quoted texts -/

/-- A text with a mark at its end is no slashed pattern. -/
theorem slashed?_quoted (q : Text) (m : CaseMark) : slashed? (q ++ '"' :: m.text) = none := by
  rw [Option.eq_none_iff_forall_ne_some]
  rintro ⟨source, flags⟩ h
  obtain ⟨hbody, hflags, -⟩ := slashed?_eq_some_iff.1 h
  rw [← List.cons_append] at hbody
  rcases Text.mem_or_mem_of_append_cons_eq (by decide) hbody with hquote | hslash
  · exact absurd (hflags '"' hquote) (by decide)
  · cases m <;> simp [CaseMark.text] at hslash

/-- The quoted part of a body ends before the mark of case. -/
theorem quotedPart?_text (q : Text) (m : CaseMark) :
    quotedPart? (q ++ '"' :: m.text) = some (m.isExact, q ++ ['"']) := by
  cases m <;> simp [quotedPart?, CaseMark.text, CaseMark.isExact]

/-- **A body with a mark at its end** is a quoted text, whatever stands in front of the mark. -/
theorem ofBody_quoted (q : Text) (m : CaseMark) :
    ofBody (q ++ '"' :: m.text) = ofQuoted m.isExact (q ++ ['"']) := by
  simp only [ofBody, slashed?_quoted, quotedPart?_text]

/-- A text between marks is complete. -/
theorem withOpeningQuote_quoted (q : Text) :
    withOpeningQuote ('"' :: (q ++ ['"'])) = '"' :: (q ++ ['"']) := by
  rw [withOpeningQuote, if_neg (by simp)]

/-- A text that does not begin with a mark is given one; where there is no text, the mark at the end is left. -/
theorem withOpeningQuote_halfQuoted {q : Text} (h : q.head? ≠ some '"') :
    withOpeningQuote (q ++ ['"']) = '"' :: (q ++ ['"']) := by
  have hmissing : (q ++ ['"']).length < 2 ∨ (q ++ ['"']).head? ≠ some '"' := by
    cases q with
    | nil => exact Or.inl (by decide)
    | cons c q => exact Or.inr h
  rw [withOpeningQuote, if_pos hmissing]

/-- **The opening mark may be left out** in front of a text that does not begin with a mark, also where the text is
malformed. -/
theorem ofBody_cons_quote {q : Text} (h : q.head? ≠ some '"') (m : CaseMark) :
    ofBody ('"' :: (q ++ '"' :: m.text)) = ofBody (q ++ '"' :: m.text) := by
  have hquoted := ofBody_quoted ('"' :: q) m
  rw [List.cons_append, List.cons_append] at hquoted
  rw [hquoted, ofBody_quoted]
  simp only [ofQuoted, unquote, withOpeningQuote_quoted, withOpeningQuote_halfQuoted h]

/-! ### Literals -/

/-- A literal is a document with its text. -/
theorem document?_literal (t : Text) : Json.document? (Text.literal .double t) = some t := by
  have hspaces : Json.skipSpaces (Text.literal .double t) =
      '"' :: (t.flatMap (Text.escapeChar .double) ++ ['"']) :=
    List.dropWhile_cons_of_neg (by decide)
  rw [Json.document?, hspaces]
  simp only [Json.quoted?_literal]
  rfl

/-- A literal with a mark of case behind it, character by character. -/
theorem literal_append (t : Text) (m : CaseMark) :
    Text.literal .double t ++ m.text =
      '"' :: (t.flatMap (Text.escapeChar .double) ++ '"' :: m.text) := by
  simp [Text.literal, Text.Delimiter.char]

/-- A body that is a literal and a mark of case asks for the text of the literal. -/
theorem ofBody_literal (t : Text) (m : CaseMark) :
    ofBody (Text.literal .double t ++ m.text) = .ok ⟨some m.isExact, .text t⟩ := by
  have hcomplete : withOpeningQuote (Text.literal .double t) = Text.literal .double t :=
    withOpeningQuote_quoted (t.flatMap (Text.escapeChar .double))
  rw [literal_append, ← List.cons_append, ofBody_quoted]
  show ofQuoted m.isExact (Text.literal .double t) = _
  simp only [ofQuoted, unquote, hcomplete, document?_literal]
  rfl

/-- **A literal without its opening mark** asks for the same match as the literal, whatever its text is and with every
mark of case. -/
theorem ofBody_halfQuoted (t : Text) (m : CaseMark) :
    ofBody (Text.literal .double t ++ m.text) = .ok ⟨some m.isExact, .text t⟩ ∧
      ofBody ((Text.literal .double t).tail ++ m.text) = .ok ⟨some m.isExact, .text t⟩ := by
  have hread := ofBody_literal t m
  refine ⟨hread, ?_⟩
  -- a mark in the text is escaped, so what is left begins with none
  have hhead : (t.flatMap (Text.escapeChar .double)).head? ≠ some '"' := by
    rw [Ne, List.head?_eq_some_iff]
    rintro ⟨s, hs⟩
    exact Text.flatMap_escapeChar_ne t s hs
  rw [literal_append, ofBody_cons_quote hhead] at hread
  rw [Text.literal, List.cons_append, List.tail_cons, List.append_assoc]
  exact hread

end TextMatch

end SelectorCode
