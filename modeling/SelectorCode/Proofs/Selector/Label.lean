import SelectorCode.Proofs.Selector.Scan
import SelectorCode.Selector.Reading

/-!
# Labels of chunks

A chunk is labelled by what stands before its first equals sign, or else by its look. This module opens the two
readers of that rule, `Label.named?` and `isTextBody`, once: both are statements about the first equals sign of a
chunk, so later proofs speak of that and not of the readers.

## Main Statements

* `isTextBody_iff`: the chunks in which quotation marks are ordinary text.
* `isTextBody_of_prefix`: they are marks throughout a chunk that names no engine.
* `ofChunk_cases`: a chunk names its engine or shows it.
* `ofChunk_named`: the label of a name, an equals sign and a body.
-/

namespace SelectorCode

namespace Label

/-! ### Names -/

/-- No character of a name is blank: names are ASCII, and above the blanks of ASCII. -/
theorem isBlank_of_isNameChar {c : Char} (hc : isNameChar c = true) : Text.isBlank c = false := by
  rw [Bool.eq_false_iff]
  intro hb
  simp only [Text.isBlank, Text.inRanges, Text.blankRanges, List.any_cons, List.any_nil,
    Bool.or_eq_true, Bool.and_eq_true, decide_eq_true_eq, Bool.or_false] at hb
  have halnum : c.isAlphanum =
      ((decide (65 ≤ c.val ∧ c.val ≤ 90) || decide (97 ≤ c.val) && decide (c.val ≤ 122)) ||
        decide (48 ≤ c.val) && decide (c.val ≤ 57)) := rfl
  simp only [isNameChar, halnum, Bool.or_eq_true, Bool.and_eq_true, decide_eq_true_eq,
    UInt32.le_iff_toNat_le] at hc
  have hval : c.toNat = c.val.toNat := rfl
  have hcode : ∀ d : Char, c = d → c.val.toNat = d.toNat := by
    rintro d rfl
    rfl
  -- no range of the class meets a range of the blanks
  rcases hc with ((((hc | hc) | hc) | hc) | hc) | hc
  · rcases hc with (⟨h1, h2⟩ | ⟨h1, h2⟩) | ⟨h1, h2⟩ <;> simp at h1 h2 <;> omega
  all_goals
    have := hcode _ hc
    simp at this
    omega

theorem isPlain_of_isNameChar {c : Char} (hc : isNameChar c = true) : isPlain c = true :=
  isPlain_of_class (by decide) hc

theorem isNameChar_of_mem {name : Text} (h : isName name = true) {c : Char} (hc : c ∈ name) :
    isNameChar c = true := by
  simp only [isName, Bool.and_eq_true] at h
  exact List.all_eq_true.1 h.2 c hc

theorem ne_nil_of_isName {name : Text} (h : isName name = true) : name ≠ [] := by
  rintro rfl
  cases h

/-- A name ends before the equals sign. -/
theorem not_mem_of_isName {name : Text} (h : isName name = true) : '=' ∉ name := fun hmem =>
  absurd (isNameChar_of_mem h hmem) (by decide)

theorem trim_of_isName {name : Text} (h : isName name = true) : Text.trim name = name :=
  Text.trim_of_forall fun _ hc => isBlank_of_isNameChar (isNameChar_of_mem h hc)

/-- Characters that no name holds do not occur in a text that is a name between blanks. -/
theorem not_mem_of_isName_trim {n : Text} (h : isName (Text.trim n) = true) {c : Char}
    (hname : isNameChar c = false) (hblank : Text.isBlank c = false) : c ∉ n := by
  intro hc
  have hcount := Text.count_trim hblank n
  have hmem : c ∈ Text.trim n := by
    rw [← List.count_pos_iff, hcount]
    exact List.count_pos_iff.2 hc
  rw [isNameChar_of_mem h hmem] at hname
  exact Bool.noConfusion hname

/-! ### The first equals sign -/

/-- A text has a first equals sign or none. -/
theorem exists_first_equals (t : Text) :
    '=' ∉ t ∨ ∃ n body, t = n ++ '=' :: body ∧ '=' ∉ n := by
  by_cases h : '=' ∈ t
  · obtain ⟨n, body, ht, hn⟩ := List.eq_append_cons_of_mem h
    exact Or.inr ⟨n, body, ht, hn⟩
  · exact Or.inl h

/-- There is only one first equals sign. -/
theorem first_equals_inj {m n x y : Text} (hm : '=' ∉ m) (hn : '=' ∉ n)
    (h : m ++ '=' :: x = n ++ '=' :: y) : m = n ∧ x = y := by
  induction m generalizing n with
  | nil =>
    cases n with
    | nil => exact ⟨rfl, (List.cons.inj h).2⟩
    | cons c n => exact absurd (List.cons.inj h).1 fun hc => hn (hc ▸ List.mem_cons_self)
  | cons c m ih =>
    cases n with
    | nil => exact absurd (List.cons.inj h).1 fun hc => hm (hc ▸ List.mem_cons_self)
    | cons d n =>
      obtain ⟨hcd, htail⟩ := List.cons.inj h
      obtain ⟨hmn, hxy⟩ := ih (fun hc => hm (List.mem_cons_of_mem c hc))
        (fun hc => hn (List.mem_cons_of_mem d hc)) htail
      exact ⟨by rw [hcd, hmn], hxy⟩

theorem named?_append {n : Text} (hn : '=' ∉ n) (body : Text) :
    named? (n ++ '=' :: body) =
      if isName (Text.trim n) then some (Text.trim n, body) else none := by
  have hpos : ∀ c ∈ n, (c != '=') = true := by
    intro c hc
    rw [bne_iff_ne]
    rintro rfl
    exact hn hc
  simp [named?, List.dropWhile_append_of_pos hpos, List.takeWhile_append_of_pos hpos]

theorem named?_of_not_mem {t : Text} (h : '=' ∉ t) : named? t = none := by
  have hpos : ∀ c ∈ t, (c != '=') = true := by
    intro c hc
    rw [bne_iff_ne]
    rintro rfl
    exact h hc
  have hdrop : t.dropWhile (· != '=') = [] := by
    have happend : (t ++ []).dropWhile (· != '=') = List.dropWhile (· != '=') [] :=
      List.dropWhile_append_of_pos hpos
    rwa [List.append_nil] at happend
  rw [named?, hdrop]

theorem exists_of_named? {t name body : Text} (h : named? t = some (name, body)) :
    ∃ n, t = n ++ '=' :: body ∧ '=' ∉ n ∧ Text.trim n = name ∧ isName name = true := by
  rcases exists_first_equals t with hnone | ⟨n, x, rfl, hn⟩
  · rw [named?_of_not_mem hnone] at h
    cases h
  · rw [named?_append hn] at h
    split at h
    next hname =>
      cases h
      exact ⟨n, rfl, hn, rfl, hname⟩
    next => cases h

/-! ### Where quotation marks are ordinary text -/

theorem stripPrefix?_text_isSome_iff {t r : Text} :
    Text.stripPrefix? "text".toList t = some r ↔ t = Engine.text ++ r :=
  Text.stripPrefix?_eq_some_iff

/-- Quotation marks are ordinary text behind the engine `text` and the beginning of a body on one line. -/
theorem isTextBody_iff {t : Text} :
    isTextBody t = true ↔ ∃ n body, t = n ++ '=' :: body ∧ '=' ∉ n ∧
      Text.trim n = Engine.text ∧ body ≠ [] ∧ '\n' ∉ body := by
  constructor
  · intro h
    unfold isTextBody at h
    split at h
    · cases h
    next r hr =>
      split at h
      next body hbody =>
        obtain ⟨b, hb, ht⟩ := Text.exists_eq_append_trimStart t
        obtain ⟨e, he, hs⟩ := Text.exists_eq_append_trimStart r
        rw [stripPrefix?_text_isSome_iff.1 hr, hs, hbody] at ht
        simp only [Bool.and_eq_true, Bool.not_eq_true', List.isEmpty_eq_false_iff,
          List.contains_eq_mem, decide_eq_false_iff_not] at h
        -- before the equals sign stand the engine and blanks
        have hmem : '=' ∉ b ++ (Engine.text ++ e) := by
          rw [List.mem_append, List.mem_append]
          rintro (h | h | h)
          · exact Text.not_mem_of_isAllBlank hb (by decide) h
          · exact absurd h (by decide)
          · exact Text.not_mem_of_isAllBlank he (by decide) h
        refine ⟨b ++ (Engine.text ++ e), body, ?_, hmem, ?_, h.1, h.2⟩
        · rw [ht, List.append_assoc, List.append_assoc]
        · rw [Text.trim_append hb he]
          decide
      next => cases h
  · rintro ⟨n, body, rfl, -, hn, hne, hline⟩
    obtain ⟨b, e, hb, he, hs⟩ := Text.exists_eq_append_trim n
    have hstart : Text.trimStart (n ++ '=' :: body) = Engine.text ++ (e ++ '=' :: body) := by
      rw [hs, hn, List.append_assoc, List.append_assoc, Text.trimStart_append hb]
      exact Text.trimStart_cons (by decide) _
    have hequals : Text.trimStart (e ++ '=' :: body) = '=' :: body := by
      rw [Text.trimStart_append he]
      exact Text.trimStart_cons (by decide) _
    simp only [isTextBody, hstart, stripPrefix?_text_isSome_iff.2 rfl, hequals]
    simp [hne, hline]

/-- The look back at a chunk that has come to its first equals sign. -/
theorem isTextBody_append {n : Text} (hn : '=' ∉ n) (body : Text) :
    isTextBody (n ++ '=' :: body) =
      decide (Text.trim n = Engine.text ∧ body ≠ [] ∧ '\n' ∉ body) := by
  rw [Bool.eq_iff_iff, isTextBody_iff, decide_eq_true_iff]
  constructor
  · rintro ⟨m, x, h, hm, hrest⟩
    obtain ⟨rfl, rfl⟩ := first_equals_inj hn hm h
    exact hrest
  · rintro ⟨hname, hrest⟩
    exact ⟨n, body, rfl, hn, hname, hrest⟩

/-- Behind any other engine than `text`, quotation marks are marks. -/
theorem isTextBody_of_ne {n : Text} (hn : '=' ∉ n) (hne : Text.trim n ≠ Engine.text)
    (body : Text) : isTextBody (n ++ '=' :: body) = false := by
  rw [isTextBody_append hn, decide_eq_false_iff_not]
  exact fun h => hne h.1

/-- Leading blanks do not matter to the look back. -/
theorem isTextBody_blank_append {b : Text} (hb : Text.isAllBlank b = true) (t : Text) :
    isTextBody (b ++ t) = isTextBody t := by
  simp only [isTextBody, Text.trimStart_append hb]

/-- Without an engine name before the first equals sign, quotation marks are marks all along. -/
theorem isTextBody_of_prefix {t x : Text} (ht : named? (Text.trim t) = none) (hx : x <+: t) :
    isTextBody x = false := by
  rw [Bool.eq_false_iff]
  intro h
  obtain ⟨n, body, rfl, hn, hname, -, -⟩ := isTextBody_iff.1 h
  obtain ⟨r, hr⟩ := hx
  obtain ⟨b, e, hb, he, hs⟩ := Text.exists_eq_append_trim t
  rcases exists_first_equals (Text.trim t) with hnone | ⟨m, y, hy, hm⟩
  · -- the equals sign of the beginning is one of the trimmed text
    have hcount := Text.count_trim (c := '=') (by decide) t
    rw [List.count_eq_zero.2 hnone, ← hr] at hcount
    simp at hcount
  · -- the first equals sign of the beginning is that of the trimmed text, which names no engine
    rw [hy, named?_append hm] at ht
    have hfirst : n ++ '=' :: (body ++ r) = (b ++ m) ++ '=' :: (y ++ e) := by
      rw [← List.cons_append, ← List.append_assoc, hr, hs, hy]
      simp
    have hbm : '=' ∉ b ++ m := by
      rw [List.mem_append]
      rintro (h | h)
      · exact Text.not_mem_of_isAllBlank hb (by decide) h
      · exact hm h
    have htrim : Text.trim m = Engine.text := by
      rw [← hname, (first_equals_inj hn hbm hfirst).1, Text.trim_append_left hb]
    rw [htrim, if_pos (by decide)] at ht
    cases ht

/-! ### Labels -/

theorem ofChunk_append_left {b : Text} (hb : Text.isAllBlank b = true) (t : Text) :
    ofChunk (b ++ t) = ofChunk t := by
  simp only [ofChunk, Text.trim_append_left hb]

theorem ofChunk_append_right {e : Text} (he : Text.isAllBlank e = true) (t : Text) :
    ofChunk (t ++ e) = ofChunk t := by
  simp only [ofChunk, Text.trim_append_right he]

/-- A chunk names its engine, or its look shows it. -/
theorem ofChunk_cases (t : Text) :
    (∃ n name body, Text.trim t = n ++ '=' :: body ∧ '=' ∉ n ∧ Text.trim n = name ∧
      isName name = true ∧ ofChunk t = ofName name body) ∨
    (named? (Text.trim t) = none ∧
      ofChunk t = ⟨impliedEngine (Text.trim t), Text.trim t, false⟩) := by
  cases h : named? (Text.trim t) with
  | none =>
    refine Or.inr ⟨rfl, ?_⟩
    simp only [ofChunk, h]
    unfold impliedEngine
    split
    · rfl
    · split <;> rfl
  | some p =>
    obtain ⟨name, body⟩ := p
    obtain ⟨n, ht, hn, hname, hisName⟩ := exists_of_named? h
    refine Or.inl ⟨n, name, body, ht, hn, hname, hisName, ?_⟩
    simp only [ofChunk, h]

/-- A name either carries the star or does not. -/
theorem ofName_cases (name body : Text) :
    (∃ rest, name = '*' :: rest ∧ ofName name body = ⟨rest, body, true⟩) ∨
    ((∀ rest, name ≠ '*' :: rest) ∧ ofName name body = ⟨name, body, false⟩) := by
  unfold ofName
  split
  next rest => exact Or.inl ⟨rest, rfl, rfl⟩
  next h => exact Or.inr ⟨fun rest hname => h rest hname, rfl⟩

/-- The chunk that consists of a name, an equals sign and a body. -/
theorem ofChunk_named {name body : Text} (hname : isName name = true)
    (hbody : ∀ r c, body = r ++ [c] → Text.isBlank c = false) :
    ofChunk (name ++ '=' :: body) = ofName name body := by
  have hblank : ∀ c ∈ name, Text.isBlank c = false := fun c hc =>
    isBlank_of_isNameChar (isNameChar_of_mem hname hc)
  have htrim : Text.trim (name ++ '=' :: body) = name ++ '=' :: body := by
    refine Text.trim_eq_self (fun c r h => ?_) (fun r c h => ?_)
    · cases name with
      | nil => exact absurd rfl (ne_nil_of_isName hname)
      | cons d name =>
        rw [← (List.cons.inj h).1]
        exact hblank d List.mem_cons_self
    · rcases List.eq_nil_or_concat body with rfl | ⟨s, d, rfl⟩
      · rw [← (List.cons.inj (List.append_inj' h rfl).2).1]
        decide
      · rw [List.concat_eq_append] at h hbody
        rw [← List.cons_append, ← List.append_assoc] at h
        rw [← (List.cons.inj (List.append_inj' h rfl).2).1]
        exact hbody s d rfl
  simp only [ofChunk, htrim, named?_append (not_mem_of_isName hname), trim_of_isName hname,
    if_pos hname]

end Label

end SelectorCode
