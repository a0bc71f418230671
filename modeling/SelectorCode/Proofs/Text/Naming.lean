import SelectorCode.Text.Naming

/-!
# Where words start

Words are separated in two passes, and each pass goes on behind what it has found, so that it looks at no character twice.
Still it misses no word. What the first pass finds begins with no capital and ends with one; what the second finds begins
with two capitals, and none comes after them. Neither does the second pass find anything new, since the underscores of the
first stand behind characters that are no capitals. So whether a word starts at a character can be told from the character
and its neighbours in the text as it was given.

## Main Definitions

* `isWordStart`: the places at which words start.
* `separated`: a text with an underscore before each of these places.
* `separatedAfter`: the same, from left to right behind a character.
* `IsAscii`: texts of ASCII characters.

## Main Statements

* `breakBeforeWord_breakAfterLower`: the two passes put underscores where words start.
* `lower_eq_map`: in ASCII, lower case does not depend on neighbours.
* `snakeCase_eq_lower_separated`: snake case, and what it comes to in ASCII.
-/

namespace SelectorCode.Text

variable {c d : Char} {r t : Text}

/-! ### Capitals -/

theorem isUpper_iff : c.isUpper = true ↔ 65 ≤ c.toNat ∧ c.toNat ≤ 90 := by
  have hrange : c.isUpper = decide ('A'.val ≤ c.val ∧ c.val ≤ 'Z'.val) := rfl
  rw [hrange, decide_eq_true_iff, UInt32.le_iff_toNat_le, UInt32.le_iff_toNat_le]
  rfl

theorem isLower_iff : c.isLower = true ↔ 97 ≤ c.toNat ∧ c.toNat ≤ 122 := by
  have hrange : c.isLower = (decide ('a'.val ≤ c.val) && decide (c.val ≤ 'z'.val)) := rfl
  rw [hrange, Bool.and_eq_true, decide_eq_true_iff, decide_eq_true_iff, UInt32.le_iff_toNat_le,
    UInt32.le_iff_toNat_le]
  rfl

theorem isUpper_of_isLower (h : c.isLower = true) : c.isUpper = false := by
  have hlower := isLower_iff.1 h
  rw [← Bool.not_eq_true, isUpper_iff]
  omega

theorem endsWord_of_isUpper (h : c.isUpper = true) : endsWord c = false := by
  have hupper := isUpper_iff.1 h
  have hdigit : '9'.toNat = 57 := rfl
  rw [endsWord, Bool.or_eq_false_iff, ← Bool.not_eq_true, ← Bool.not_eq_true, isLower_iff,
    Char.isDigit_iff_toNat]
  omega

/-! ### Places -/

/-- Whether a word starts at a place behind the first: a capital stands there, and before it a lower-case letter, a digit,
or a capital if a lower-case letter comes next. -/
def isWordStart (t : Text) (i : Nat) : Bool :=
  0 < i && t[i]?.any Char.isUpper &&
    (t[i - 1]?.any endsWord || t[i - 1]?.any Char.isUpper && t[i + 1]?.any Char.isLower)

/-- A text with an underscore before each character at which a word starts. -/
def separated (t : Text) : Text :=
  t.zipIdx.flatMap fun p => if isWordStart t p.2 then ['_', p.1] else [p.1]

/-- Whether a word starts at the first character of a text that stands behind a character. -/
def opensWord (before : Char) : Text → Bool
  | [] => false
  | c :: r => c.isUpper && (endsWord before || before.isUpper && r.head?.any Char.isLower)

/-- A text behind a character, with an underscore before each character at which a word starts. -/
def separatedAfter (before : Char) : Text → Text
  | [] => []
  | c :: r => (if opensWord before (c :: r) then ['_', c] else [c]) ++ separatedAfter c r

theorem isWordStart_append (u : Text) (c d : Char) (r : Text) :
    isWordStart (u ++ c :: d :: r) (u.length + 1) = opensWord c (d :: r) := by
  have hnext : (u ++ c :: d :: r)[u.length + 1 + 1]? = r.head? := by
    rw [List.getElem?_append_right (by omega), List.head?_eq_getElem?, Nat.add_assoc,
      Nat.add_sub_cancel_left]
    rfl
  simp [isWordStart, opensWord, hnext]

theorem flatMap_zipIdx (u : Text) (c : Char) (r : Text) :
    ((r.zipIdx (u.length + 1)).flatMap fun p =>
      if isWordStart (u ++ c :: r) p.2 then ['_', p.1] else [p.1]) = separatedAfter c r := by
  induction r generalizing u c with
  | nil => rfl
  | cons d r ih =>
    have hrest := ih (u ++ [c]) d
    rw [List.length_append, List.length_singleton, List.append_assoc, List.singleton_append] at hrest
    rw [List.zipIdx_cons, List.flatMap_cons, hrest, isWordStart_append, separatedAfter]

/-- No word starts at the first character, and what follows is separated from left to right. -/
theorem separated_cons (c : Char) (r : Text) : separated (c :: r) = c :: separatedAfter c r := by
  have hrest := flatMap_zipIdx [] c r
  simpa [separated, List.zipIdx_cons, isWordStart] using hrest

/-! ### The two passes -/

theorem breakAfterLower_cons (h : endsWord c = false) (r : Text) :
    breakAfterLower (c :: r) = c :: breakAfterLower r := by
  cases r with
  | nil => rfl
  | cons d r => rw [breakAfterLower, h, Bool.false_and, if_neg Bool.false_ne_true]

/-- The first pass decides on two neighbours and goes on with the second: a capital behind which it has found an underscore
ends no word. -/
theorem breakAfterLower_cons_cons (c d : Char) (r : Text) :
    breakAfterLower (c :: d :: r) =
      (if endsWord c && d.isUpper then [c, '_'] else [c]) ++ breakAfterLower (d :: r) := by
  rw [breakAfterLower]
  split
  next hbreak =>
    rw [breakAfterLower_cons (endsWord_of_isUpper (Bool.and_eq_true_iff.1 hbreak).2)]
    rfl
  next => rfl

theorem head?_breakAfterLower (t : Text) : (breakAfterLower t).head? = t.head? := by
  match t with
  | [] => rfl
  | [c] => rfl
  | c :: d :: r =>
    rw [breakAfterLower_cons_cons]
    split <;> rfl

theorem breakBeforeWord_cons (h : c.isUpper = false) (r : Text) :
    breakBeforeWord (c :: r) = c :: breakBeforeWord r := by
  match r with
  | [] => rfl
  | [d] => rfl
  | d :: e :: r => rw [breakBeforeWord, h, Bool.false_and, Bool.false_and, if_neg Bool.false_ne_true]

theorem breakBeforeWord_cons_cons_of_not_isUpper (h : d.isUpper = false) (c : Char) (r : Text) :
    breakBeforeWord (c :: d :: r) = c :: breakBeforeWord (d :: r) := by
  cases r with
  | nil => rfl
  | cons e r => rw [breakBeforeWord, h, Bool.and_false, Bool.false_and, if_neg Bool.false_ne_true]

/-- The second pass decides on two neighbours and on what follows, and goes on with the second neighbour: if it has found an
underscore before it, no capital comes next. -/
theorem breakBeforeWord_cons_cons (c d : Char) (r : Text) :
    breakBeforeWord (c :: d :: r) =
      (if c.isUpper && d.isUpper && r.head?.any Char.isLower then [c, '_'] else [c]) ++
        breakBeforeWord (d :: r) := by
  cases r with
  | nil => simp [breakBeforeWord]
  | cons e r =>
    rw [breakBeforeWord, List.head?_cons, Option.any_some]
    split
    next hbreak =>
      have he : e.isUpper = false := isUpper_of_isLower (Bool.and_eq_true_iff.1 hbreak).2
      rw [breakBeforeWord_cons_cons_of_not_isUpper he, breakBeforeWord_cons he]
      rfl
    next => rfl

/-- A text and what the first pass makes of it begin with the same character. -/
theorem exists_breakAfterLower_cons (c : Char) (r : Text) :
    ∃ s, breakAfterLower (c :: r) = c :: s := by
  have hhead := head?_breakAfterLower (c :: r)
  exact List.head?_eq_some_iff.1 hhead

/-- Behind a character, the two passes put underscores where words start. -/
theorem breakBeforeWord_breakAfterLower_cons (c : Char) (r : Text) :
    breakBeforeWord (breakAfterLower (c :: r)) = c :: separatedAfter c r := by
  induction r generalizing c with
  | nil => rfl
  | cons d r ih =>
    rw [breakAfterLower_cons_cons, separatedAfter, opensWord]
    by_cases hd : d.isUpper = true
    · have hrest : breakAfterLower (d :: r) = d :: breakAfterLower r :=
        breakAfterLower_cons (endsWord_of_isUpper hd) r
      by_cases hc : endsWord c = true
      · -- the underscore of the first pass, which keeps the second pass from finding one here
        have hupper : c.isUpper = false := by
          rw [← Bool.not_eq_true]
          exact fun h => absurd hc (by simp [endsWord_of_isUpper h])
        have hfirst : breakBeforeWord (c :: '_' :: breakAfterLower (d :: r)) =
            c :: '_' :: d :: separatedAfter d r := by
          rw [breakBeforeWord_cons hupper, breakBeforeWord_cons (by decide), ih]
        simpa [hc, hd] using hfirst
      · have hsecond := breakBeforeWord_cons_cons c d (breakAfterLower r)
        rw [head?_breakAfterLower, ← hrest, ih] at hsecond
        by_cases hopen : (c.isUpper && r.head?.any Char.isLower) = true
        · simpa [hc, hd, hopen] using hsecond
        · simpa [hc, hd, hopen] using hsecond
    · obtain ⟨s, hs⟩ := exists_breakAfterLower_cons d r
      have hnone := breakBeforeWord_cons_cons_of_not_isUpper (by simpa using hd) c s
      rw [← hs, ih] at hnone
      simpa [hd] using hnone

/-- **The two passes** put underscores where words start. -/
theorem breakBeforeWord_breakAfterLower (t : Text) :
    breakBeforeWord (breakAfterLower t) = separated t := by
  cases t with
  | nil => rfl
  | cons c r => rw [breakBeforeWord_breakAfterLower_cons, separated_cons]

/-! ### ASCII -/

/-- Texts of ASCII characters. -/
def IsAscii (t : Text) : Prop :=
  ∀ c ∈ t, c.toNat < 0x80

instance (t : Text) : Decidable t.IsAscii :=
  List.decidableBAll (fun c : Char => c.toNat < 0x80) t

theorem isAscii_cons : IsAscii (c :: r) ↔ c.toNat < 0x80 ∧ IsAscii r :=
  List.forall_mem_cons

/-- In ASCII there is no capital sigma. -/
theorem ne_sigma (h : c.toNat < 0x80) : ¬ (c == 'Σ') = true := by
  intro hsigma
  rw [beq_iff_eq.1 hsigma] at h
  exact absurd h (by decide)

/-- In ASCII, lower case does not depend on neighbours. -/
theorem lowerFrom_eq_map (h : t.IsAscii) (before : Text) : lowerFrom before t = t.map Char.toLower := by
  induction t generalizing before with
  | nil => rfl
  | cons c r ih =>
    obtain ⟨hc, hr⟩ := isAscii_cons.1 h
    rw [lowerFrom, if_neg (ne_sigma hc), lowerChar, if_pos hc, ih hr]
    rfl

theorem lower_eq_map (h : t.IsAscii) : lower t = t.map Char.toLower :=
  lowerFrom_eq_map h []

/-- What lower case makes of an ASCII character. -/
theorem toLower_cases (h : c.toNat < 0x80) :
    c.toLower.toNat < 0x80 ∧ c.toLower.isUpper = false ∧ (c.toLower = '_' ↔ c = '_') := by
  have hall : ∀ n < 128, (Char.ofNat n).toLower.toNat < 128 ∧ (Char.ofNat n).toLower.isUpper = false ∧
      ((Char.ofNat n).toLower = '_' ↔ Char.ofNat n = '_') := by
    decide +kernel
  have hc := hall c.toNat h
  rwa [Char.ofNat_toNat] at hc

/-- Only capitals change. -/
theorem toLower_eq_self (h : c.isUpper = false) : c.toLower = c :=
  dif_neg (of_decide_eq_false h)

/-- A text without capitals holds no starts of words. -/
theorem separated_eq_self (h : ∀ c ∈ t, c.isUpper = false) : separated t = t := by
  have hnone : ∀ i, isWordStart t i = false := by
    intro i
    have hcapital : t[i]?.any Char.isUpper = false := by
      cases hi : t[i]? with
      | none => rfl
      | some c => exact h c (List.mem_of_getElem? hi)
    rw [isWordStart, hcapital, Bool.and_false, Bool.false_and]
  simp [separated, hnone, ← List.map_eq_flatMap]

/-- Separating words adds underscores and nothing else. -/
theorem filter_separatedAfter (c : Char) (t : Text) :
    (separatedAfter c t).filter (· != '_') = t.filter (· != '_') := by
  induction t generalizing c with
  | nil => rfl
  | cons d t ih =>
    rw [separatedAfter, List.filter_append, ih]
    by_cases hd : d = '_'
    · split <;> simp [hd]
    · split <;> simp [hd]

theorem filter_separated (t : Text) : (separated t).filter (· != '_') = t.filter (· != '_') := by
  cases t with
  | nil => rfl
  | cons c r => rw [separated_cons, List.filter_cons, List.filter_cons, filter_separatedAfter]

theorem eq_or_mem_of_mem_separated (h : c ∈ separated t) : c = '_' ∨ c ∈ t := by
  obtain ⟨p, hp, hc⟩ := List.mem_flatMap.1 h
  have hmem : p.1 ∈ t := List.fst_mem_of_mem_zipIdx hp
  split at hc
  · rcases List.mem_cons.1 hc with hc | hc
    · exact Or.inl hc
    · exact Or.inr (List.mem_singleton.1 hc ▸ hmem)
  · exact Or.inr (List.mem_singleton.1 hc ▸ hmem)

theorem isAscii_separated (h : t.IsAscii) : IsAscii (separated t) := by
  intro d hd
  rcases eq_or_mem_of_mem_separated hd with rfl | hmem
  · decide
  · exact h d hmem

theorem snakeCase_eq_map (h : t.IsAscii) : snakeCase t = (separated t).map Char.toLower := by
  rw [snakeCase, breakBeforeWord_breakAfterLower, lower_eq_map (isAscii_separated h)]

/-- In ASCII, snake case is ASCII without capitals. -/
theorem snakeCase_cases (h : t.IsAscii) (hc : c ∈ snakeCase t) :
    c.toNat < 0x80 ∧ c.isUpper = false := by
  rw [snakeCase_eq_map h] at hc
  obtain ⟨d, hd, rfl⟩ := List.mem_map.1 hc
  obtain ⟨hascii, hupper, -⟩ := toLower_cases (isAscii_separated h d hd)
  exact ⟨hascii, hupper⟩

/-- In ASCII, a text without capitals is its own snake case. -/
theorem snakeCase_eq_self (h : t.IsAscii) (hupper : ∀ c ∈ t, c.isUpper = false) :
    snakeCase t = t := by
  have hself : t.map Char.toLower = t.map id :=
    List.map_congr_left fun c hc => toLower_eq_self (hupper c hc)
  rw [snakeCase_eq_map h, separated_eq_self hupper, hself, List.map_id]

/-- Lower case neither adds underscores nor takes any away. -/
theorem filter_map_toLower (h : t.IsAscii) :
    (t.map Char.toLower).filter (· != '_') = (t.filter (· != '_')).map Char.toLower := by
  rw [List.filter_map]
  congr 1
  refine List.filter_congr fun c hc => ?_
  rw [Function.comp_apply, Bool.eq_iff_iff, bne_iff_ne, bne_iff_ne, Ne, Ne, (toLower_cases (h c hc)).2.2]

/-- **Snake case** is the lower case of the text with an underscore before each character at which a word starts, which is
told from the character and its neighbours. In ASCII there are no capitals left, a second time nothing changes, and
underscores apart the text is in lower case as it was. -/
theorem snakeCase_eq_lower_separated (t : Text) :
    snakeCase t = lower (separated t) ∧
      (t.IsAscii →
        IsAscii (snakeCase t) ∧ (∀ c ∈ snakeCase t, c.isUpper = false) ∧
        snakeCase (snakeCase t) = snakeCase t ∧
        (snakeCase t).filter (· != '_') = (lower t).filter (· != '_')) := by
  refine ⟨congrArg lower (breakBeforeWord_breakAfterLower t), fun h => ?_⟩
  have hascii : IsAscii (snakeCase t) := fun c hc => (snakeCase_cases h hc).1
  have hupper : ∀ c ∈ snakeCase t, c.isUpper = false := fun c hc => (snakeCase_cases h hc).2
  refine ⟨hascii, hupper, snakeCase_eq_self hascii hupper, ?_⟩
  calc (snakeCase t).filter (· != '_')
      = ((separated t).filter (· != '_')).map Char.toLower := by
        rw [snakeCase_eq_map h, filter_map_toLower (isAscii_separated h)]
    _ = (t.filter (· != '_')).map Char.toLower := by rw [filter_separated]
    _ = (lower t).filter (· != '_') := by rw [lower_eq_map h, filter_map_toLower h]

/-- Capitals in a row, a digit, and underscores that were there before. -/
theorem snakeCase_eq_lower_separated_acronym :
    IsAscii "_HTMLIds2Go_A".toList ∧
      snakeCase "_HTMLIds2Go_A".toList = lower (separated "_HTMLIds2Go_A".toList) ∧
      IsAscii (snakeCase "_HTMLIds2Go_A".toList) ∧
      (∀ c ∈ snakeCase "_HTMLIds2Go_A".toList, c.isUpper = false) ∧
      snakeCase (snakeCase "_HTMLIds2Go_A".toList) = "_html_ids2_go_a".toList ∧
      (snakeCase "_HTMLIds2Go_A".toList).filter (· != '_') = "htmlids2goa".toList := by
  have hascii : IsAscii "_HTMLIds2Go_A".toList := by decide
  obtain ⟨hlocal, hcase⟩ := snakeCase_eq_lower_separated "_HTMLIds2Go_A".toList
  obtain ⟨h, hupper, hsame, hfilter⟩ := hcase hascii
  exact ⟨hascii, hlocal, h, hupper, hsame.trans (by decide), hfilter.trans (by decide)⟩

end SelectorCode.Text
