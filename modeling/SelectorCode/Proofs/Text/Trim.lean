import SelectorCode.Text.Blank

/-!
# Trimming

What trimming removes and what it leaves: a text is its trimmed form between two runs of blanks, blanks put around a
text do not change its trimmed form, and a text whose ends are no blanks is its own trimmed form.

## Main Statements

* `exists_eq_append_trim`: a text as blanks, its trimmed form, and blanks.
* `trim_append`: blanks around a text are invisible to trimming.
* `trim_eq_self`: the texts that trimming leaves alone.
-/

namespace SelectorCode.Text

/-! ### Runs of blanks -/

theorem isBlank_of_mem {b : Text} (hb : isAllBlank b = true) {c : Char} (hc : c ∈ b) :
    isBlank c = true :=
  List.all_eq_true.1 hb c hc

/-- A character that is no blank does not occur in a run of blanks. -/
theorem not_mem_of_isAllBlank {b : Text} (hb : isAllBlank b = true) {c : Char}
    (hc : isBlank c = false) : c ∉ b := by
  intro hmem
  rw [isBlank_of_mem hb hmem] at hc
  exact Bool.noConfusion hc

/-- A run of blanks counts no character that is no blank. -/
theorem count_of_isAllBlank {b : Text} (hb : isAllBlank b = true) {c : Char}
    (hc : isBlank c = false) : b.count c = 0 :=
  List.count_eq_zero.2 (not_mem_of_isAllBlank hb hc)

/-! ### Leading blanks -/

/-- The leading blanks of a text are what trimming at the start removes. -/
theorem exists_eq_append_trimStart (t : Text) :
    ∃ b, isAllBlank b = true ∧ t = b ++ trimStart t := by
  refine ⟨t.takeWhile isBlank, ?_, List.takeWhile_append_dropWhile.symm⟩
  exact List.all_eq_true.2 fun c hc => List.all_eq_true.1 List.all_takeWhile c hc

@[simp]
theorem trimStart_append {b : Text} (hb : isAllBlank b = true) (t : Text) :
    trimStart (b ++ t) = trimStart t :=
  List.dropWhile_append_of_pos fun _ hc => isBlank_of_mem hb hc

/-- A text that does not begin with a blank is left alone at the start. -/
theorem trimStart_cons {c : Char} (hc : isBlank c = false) (t : Text) :
    trimStart (c :: t) = c :: t := by
  simp [trimStart, hc]

theorem trimStart_of_isAllBlank {b : Text} (hb : isAllBlank b = true) : trimStart b = [] := by
  have h := trimStart_append hb []
  rwa [List.append_nil] at h

/-- The first character that trimming leaves is no blank. -/
theorem isBlank_of_trimStart_cons {t r : Text} {c : Char} (h : trimStart t = c :: r) :
    isBlank c = false := by
  induction t with
  | nil => cases h
  | cons d t ih =>
    rw [trimStart, List.dropWhile_cons] at h
    split at h
    · exact ih h
    next hd =>
      cases h
      simpa using hd

/-! ### Both ends -/

theorem trimEnd_append {b : Text} (hb : isAllBlank b = true) (t : Text) :
    trimEnd (t ++ b) = trimEnd t := by
  rw [trimEnd, trimEnd, List.reverse_append]
  congr 1
  refine trimStart_append (b := b.reverse) ?_ t.reverse
  rw [isAllBlank, List.all_reverse]
  exact hb

/-- A text that does not end with a blank is left alone at the end. -/
theorem trimEnd_concat {c : Char} (hc : isBlank c = false) (t : Text) :
    trimEnd (t ++ [c]) = t ++ [c] := by
  simp [trimEnd, hc]

/-- The trailing blanks of a text are what trimming at the end removes. -/
theorem exists_eq_trimEnd_append (t : Text) :
    ∃ b, isAllBlank b = true ∧ t = trimEnd t ++ b := by
  obtain ⟨b, hb, hr⟩ := exists_eq_append_trimStart t.reverse
  refine ⟨b.reverse, ?_, ?_⟩
  · rw [isAllBlank, List.all_reverse]
    exact hb
  · have h := congrArg List.reverse hr
    rwa [List.reverse_reverse, List.reverse_append] at h

/-- A text is its trimmed form between two runs of blanks. -/
theorem exists_eq_append_trim (t : Text) :
    ∃ b e, isAllBlank b = true ∧ isAllBlank e = true ∧ t = b ++ (trim t ++ e) := by
  obtain ⟨b, hb, ht⟩ := exists_eq_append_trimStart t
  obtain ⟨e, he, hs⟩ := exists_eq_trimEnd_append (trimStart t)
  refine ⟨b, e, hb, he, ?_⟩
  rw [trim, ← hs]
  exact ht

/-- Blanks after a text are invisible to trimming. -/
theorem trim_append_right {e : Text} (he : isAllBlank e = true) (t : Text) :
    trim (t ++ e) = trim t := by
  have happend : trimStart (t ++ e) =
      if (trimStart t).isEmpty then trimStart e else trimStart t ++ e :=
    List.dropWhile_append
  rw [trim, trim, happend]
  split
  next hempty =>
    rw [List.isEmpty_iff.1 hempty, trimStart_of_isAllBlank he]
  next => exact trimEnd_append he _

theorem trim_append_left {b : Text} (hb : isAllBlank b = true) (t : Text) :
    trim (b ++ t) = trim t := by
  rw [trim, trimStart_append hb]
  rfl

/-- Blanks around a text are invisible to trimming. -/
theorem trim_append {b e : Text} (hb : isAllBlank b = true) (he : isAllBlank e = true) (t : Text) :
    trim (b ++ (t ++ e)) = trim t := by
  rw [trim_append_left hb, trim_append_right he]

/-- A text that neither begins nor ends with a blank is left alone. -/
theorem trim_eq_self {t : Text} (hhead : ∀ c r, t = c :: r → isBlank c = false)
    (hlast : ∀ r c, t = r ++ [c] → isBlank c = false) : trim t = t := by
  have hstart : trimStart t = t := by
    cases t with
    | nil => rfl
    | cons c r => exact trimStart_cons (hhead c r rfl) r
  rw [trim, hstart]
  rcases List.eq_nil_or_concat t with rfl | ⟨r, c, rfl⟩
  · rfl
  · rw [List.concat_eq_append] at hlast ⊢
    exact trimEnd_concat (hlast r c rfl) r

/-- A text without blanks is left alone at the end. -/
theorem trimEnd_of_forall {t : Text} (h : ∀ c ∈ t, isBlank c = false) : trimEnd t = t := by
  rcases List.eq_nil_or_concat t with rfl | ⟨r, c, rfl⟩
  · rfl
  · rw [List.concat_eq_append] at h ⊢
    exact trimEnd_concat (h c (List.mem_append_right r List.mem_cons_self)) r

/-- A text without blanks is left alone. -/
theorem trim_of_forall {t : Text} (h : ∀ c ∈ t, isBlank c = false) : trim t = t :=
  trim_eq_self (fun c _ ht => h c (ht ▸ List.mem_cons_self))
    (fun r _ ht => h _ (ht ▸ List.mem_append_right r List.mem_cons_self))

/-- A trimmed text does not begin with a blank. -/
theorem isBlank_head_trim {t r : Text} {c : Char} (h : trim t = c :: r) : isBlank c = false := by
  obtain ⟨e, -, hs⟩ := exists_eq_trimEnd_append (trimStart t)
  rw [trim] at h
  rw [h] at hs
  exact isBlank_of_trimStart_cons hs

/-- A trimmed text does not end with a blank. -/
theorem isBlank_last_trim {t r : Text} {c : Char} (h : trim t = r ++ [c]) : isBlank c = false := by
  have hr := congrArg List.reverse h
  rw [trim, trimEnd, List.reverse_reverse, List.reverse_append] at hr
  exact isBlank_of_trimStart_cons hr

/-- Trimming twice is trimming once. -/
@[simp]
theorem trim_trim (t : Text) : trim (trim t) = trim t :=
  trim_eq_self (fun _ _ h => isBlank_head_trim h) (fun _ _ h => isBlank_last_trim h)

/-- Trimming removes only blanks. -/
theorem count_trim {c : Char} (hc : isBlank c = false) (t : Text) :
    (trim t).count c = t.count c := by
  obtain ⟨b, e, hb, he, ht⟩ := exists_eq_append_trim t
  have h := congrArg (List.count c) ht
  rw [List.count_append, List.count_append, count_of_isAllBlank hb hc,
    count_of_isAllBlank he hc] at h
  omega

end SelectorCode.Text
