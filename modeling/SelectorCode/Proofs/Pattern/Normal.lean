import SelectorCode.Attribute.Reader

/-!
# Normal sources

A source is normalized before it is checked and kept. Normalizing a normal source changes nothing, since what it
inserts are escapes and escapes are left alone. For the same reason the slash that closes a pattern is found again behind
the normal source: normalizing leaves no slash that could close it before.

## Main Definitions

* `Pattern.IsLegible`: what is known of a pattern that has been read.

## Main Statements

* `normalizeSource_normalizeSource`: normalizing twice is normalizing once.
* `readPatternSource_normalizeSource`: a normal source is read up to the slash that closes it.
* `readPattern_append`: a pattern that has been read is read again from its written form.
-/

namespace SelectorCode

namespace Pattern

/-! ### Characters -/

/-- A character becomes an escape, which neither opens nor closes a class, or it stays as it is. -/
theorem writtenChar_cases (inClass : Bool) (c : Char) :
    (∃ e, writtenChar inClass c = ['\\', e] ∧ ∀ b, classAfter b c = b) ∨
      (writtenChar inClass c = [c] ∧ (c = '/' → inClass = true)) := by
  unfold writtenChar
  by_cases hslash : c = '/' ∧ (!inClass) = true
  · rw [if_pos hslash, hslash.1]
    exact Or.inl ⟨'/', rfl, fun _ => rfl⟩
  rw [if_neg hslash]
  by_cases hfeed : c = '\n'
  · rw [if_pos hfeed, hfeed]
    exact Or.inl ⟨'n', rfl, fun _ => rfl⟩
  rw [if_neg hfeed]
  by_cases hreturn : c = '\r'
  · rw [if_pos hreturn, hreturn]
    exact Or.inl ⟨'r', rfl, fun _ => rfl⟩
  rw [if_neg hreturn]
  refine Or.inr ⟨rfl, fun h => ?_⟩
  simpa [h] using hslash

theorem writeSource_escape (inClass : Bool) (c : Char) (r : Text) :
    writeSource inClass ('\\' :: c :: r) = '\\' :: c :: writeSource inClass r := by
  rw [writeSource]

theorem writeSource_cons {c : Char} (hc : c ≠ '\\') (inClass : Bool) (r : Text) :
    writeSource inClass (c :: r) =
      writtenChar (classAfter inClass c) c ++ writeSource (classAfter inClass c) r := by
  rw [writeSource]
  intro d s hd
  exact absurd hd hc

/-! ### Sources -/

/-- What has been written is written again as it is. -/
theorem writeSource_writeSource (inClass : Bool) (t : Text) :
    writeSource inClass (writeSource inClass t) = writeSource inClass t := by
  fun_induction writeSource inClass t with
  | case1 inClass c r ih => rw [writeSource_escape, ih]
  | case2 inClass c r hpair ih =>
    rcases writtenChar_cases (classAfter inClass c) c with ⟨e, he, hclass⟩ | ⟨hself, -⟩
    · rw [hclass] at he ih ⊢
      rw [he]
      show writeSource inClass ('\\' :: e :: writeSource inClass r) = _
      rw [writeSource_escape, ih]
      rfl
    · rw [hself, List.singleton_append]
      by_cases hc : c = '\\'
      · -- a backslash without a partner is the last character
        cases r with
        | nil => rw [hc]; rfl
        | cons d s => exact absurd rfl (hpair d s hc)
      · rw [writeSource_cons hc, hself, ih, List.singleton_append]
  | case3 => rfl

/-- No character is written as a line break. -/
theorem newline_not_mem_writtenChar (inClass : Bool) (c : Char) : '\n' ∉ writtenChar inClass c := by
  unfold writtenChar
  split
  · decide
  split
  · decide
  next hfeed =>
    split
    · decide
    · simpa using Ne.symm hfeed

/-- A line break in a written source has been there before, behind a backslash. -/
theorem newline_mem_of_writeSource {inClass : Bool} {t : Text} (h : '\n' ∈ writeSource inClass t) :
    '\n' ∈ t := by
  fun_induction writeSource inClass t with
  | case1 inClass c r ih =>
    simp only [List.mem_cons] at h ⊢
    exact h.imp_right (Or.imp_right ih)
  | case2 inClass c r hpair ih =>
    rcases List.mem_append.1 h with hc | hr
    · exact absurd hc (newline_not_mem_writtenChar _ c)
    · exact List.mem_cons_of_mem c (ih hr)
  | case3 => exact h

theorem newline_mem_of_normalizeSource {source : Text} (h : '\n' ∈ normalizeSource source) :
    '\n' ∈ source := by
  cases source with
  | nil => exact absurd h (by decide)
  | cons c r => exact newline_mem_of_writeSource h

theorem writeSource_ne_nil {t : Text} (ht : t ≠ []) (inClass : Bool) :
    writeSource inClass t ≠ [] := by
  intro h
  fun_cases writeSource inClass t with
  | case1 c r => rw [writeSource_escape] at h; cases h
  | case2 c r hpair =>
    rw [writeSource.eq_2 _ _ _ hpair] at h
    rcases writtenChar_cases (classAfter inClass c) c with ⟨e, he, -⟩ | ⟨hself, -⟩
    · rw [he] at h; cases h
    · rw [hself] at h; cases h
  | case3 => exact ht rfl

/-- No normal source is empty. -/
theorem normalizeSource_ne_nil (source : Text) : normalizeSource source ≠ [] := by
  cases source with
  | nil => decide
  | cons c r => exact writeSource_ne_nil (List.cons_ne_nil c r) false

/-- **Normalizing twice is normalizing once.** -/
@[simp]
theorem normalizeSource_normalizeSource (source : Text) :
    normalizeSource (normalizeSource source) = normalizeSource source := by
  cases source with
  | nil => decide
  | cons c r =>
    have hwritten : normalizeSource (c :: r) = writeSource false (c :: r) := rfl
    have hne : (writeSource false (c :: r)).isEmpty = false :=
      List.isEmpty_eq_false_iff.2 (normalizeSource_ne_nil (c :: r))
    rw [hwritten, normalizeSource, hne]
    exact writeSource_writeSource false (c :: r)

/-- An accepted pattern is accepted again, unchanged. -/
theorem ofSource_of_ofSource {source flags : Text} {p : Pattern} (h : ofSource source flags = .ok p) :
    ofSource p.source p.flags = .ok p := by
  have hp := eq_of_ofSource h
  rw [ofSource] at h
  rw [ofSource, hp, normalizeSource_normalizeSource, h, hp]

end Pattern

namespace Attribute

open Pattern (classAfter writtenChar writtenChar_cases writeSource writeSource_escape writeSource_cons
  normalizeSource)

/-! ### Reading a normal source -/

/-- The reader and the writer of sources agree on when a class is open. -/
theorem classAfter_eq (inClass : Bool) (c : Char) :
    (if inClass = true then decide (c ≠ ']') else decide (c = '[')) = classAfter inClass c := by
  unfold classAfter
  by_cases hopen : c = '['
  · cases inClass <;> simp [hopen]
  · by_cases hclose : c = ']'
    · cases inClass <;> simp [hclose]
    · cases inClass <;> simp [hopen, hclose]

theorem readPatternSource_escape (inClass : Bool) (c : Char) (r : Text) :
    readPatternSource inClass ('\\' :: c :: r) =
      (readPatternSource inClass r).map fun p => ('\\' :: c :: p.1, p.2) := by
  rw [readPatternSource]

/-- A character that is neither a backslash nor the closing slash belongs to the source. -/
theorem readPatternSource_cons {inClass : Bool} {c : Char} (hc : c ≠ '\\')
    (hslash : c = '/' → inClass = true) (r : Text) :
    readPatternSource inClass (c :: r) =
      (readPatternSource (classAfter inClass c) r).map fun p => (c :: p.1, p.2) := by
  have hopen : ¬ (c = '/' ∧ (!inClass) = true) := by
    rintro ⟨h, hclass⟩
    rw [hslash h] at hclass
    exact Bool.noConfusion hclass
  rw [readPatternSource, if_neg hopen, classAfter_eq]
  intro d s hd
  exact absurd hd hc

/-- The written form of a source that has been read is read up to the slash that closes it. -/
theorem readPatternSource_writeSource {inClass : Bool} {t source rest : Text}
    (h : readPatternSource inClass t = some (source, rest)) (r : Text) :
    readPatternSource inClass (writeSource inClass source ++ '/' :: r) =
      some (writeSource inClass source, r) := by
  fun_induction readPatternSource inClass t generalizing source rest with
  | case1 => cases h
  | case2 inClass c t ih =>
    obtain ⟨⟨u, v⟩, hu, heq⟩ := Option.map_eq_some_iff.1 h
    cases heq
    rw [writeSource_escape, List.cons_append, List.cons_append, readPatternSource_escape, ih hu]
    rfl
  | case3 inClass c t hpair hclose =>
    cases h
    have hclass : inClass = false := by simpa using hclose.2
    rw [hclass]
    rfl
  | case4 inClass c t hpair hclose ih =>
    obtain ⟨⟨u, v⟩, hu, heq⟩ := Option.map_eq_some_iff.1 h
    cases heq
    -- a backslash here would be the last character of the text, with no slash behind it
    have hc : c ≠ '\\' := by
      intro hc
      cases t with
      | nil => cases hu
      | cons d s => exact hpair d s hc rfl
    have hslash : c = '/' → inClass = true := by
      intro hc
      simpa [hc] using hclose
    have hread := ih hu
    rw [classAfter_eq] at hread
    rw [writeSource_cons hc, List.append_assoc]
    rcases writtenChar_cases (classAfter inClass c) c with ⟨e, he, hclass⟩ | ⟨hself, -⟩
    · rw [hclass] at he hread ⊢
      rw [he, List.cons_append, List.singleton_append, readPatternSource_escape, hread]
      rfl
    · rw [hself, List.singleton_append, readPatternSource_cons hc hslash, hread]
      rfl

/-- **A normal source is read as it is**, up to the slash that closes the pattern. -/
theorem readPatternSource_normalizeSource {t source rest : Text}
    (h : readPatternSource false t = some (source, rest)) (r : Text) :
    readPatternSource false (normalizeSource source ++ '/' :: r) =
      some (normalizeSource source, r) := by
  cases source with
  | nil => rfl
  | cons c s => exact readPatternSource_writeSource h r

end Attribute

/-! ### Reading a pattern again -/

/-- What is known of a pattern that has been read: it is accepted as it is, the next slash closes its source, and its
flags are flags to the reader. -/
structure Pattern.IsLegible (p : Pattern) : Prop where
  accepted : Pattern.ofSource p.source p.flags = .ok p
  closed : ∀ r, Attribute.readPatternSource false (p.source ++ '/' :: r) = some (p.source, r)
  flagged : ∀ c ∈ p.flags, Attribute.isPatternFlag c = true

namespace Attribute

theorem isLegible_of_readPattern {t rest : Text} {p : Pattern} (h : readPattern t = .ok (p, rest)) :
    p.IsLegible := by
  unfold readPattern at h
  split at h
  · cases h
  next source left hsource =>
    split at h
    · cases h
    next q hq =>
      cases h
      have hp := Pattern.eq_of_ofSource hq
      refine ⟨Pattern.ofSource_of_ofSource hq, fun r => ?_, fun c hc => ?_⟩
      · rw [hp]
        exact readPatternSource_normalizeSource hsource r
      · rw [hp] at hc
        exact List.all_eq_true.1 List.all_takeWhile c hc

/-- A pattern is read again from its written form, up to a character that is no flag. -/
theorem readPattern_append {p : Pattern} (hp : p.IsLegible) {c : Char}
    (hc : isPatternFlag c = false) (r : Text) :
    readPattern (p.source ++ '/' :: (p.flags ++ c :: r)) = .ok (p, c :: r) := by
  have hflags : (p.flags ++ c :: r).takeWhile isPatternFlag = p.flags := by
    rw [List.takeWhile_append_of_pos hp.flagged, List.takeWhile_cons_of_neg (by simp [hc]),
      List.append_nil]
  have hrest : (p.flags ++ c :: r).dropWhile isPatternFlag = c :: r := by
    rw [List.dropWhile_append_of_pos hp.flagged, List.dropWhile_cons_of_neg (by simp [hc])]
  simp only [readPattern, hp.closed, hflags, hp.accepted, hrest]

end Attribute

end SelectorCode
