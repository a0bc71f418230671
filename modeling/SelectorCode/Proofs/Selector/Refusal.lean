import SelectorCode.Proofs.Selector.Within

/-!
# Why selectors are not read

A selector is not read because of its capture, its first engine, an empty style-sheet selector or the body of a nested
engine. The body is refused as malformed, for the selector in it, or for its distance; and a distance that is too large
is the only one of these that is not a mistake. So the reason is followed down to the nested label that holds it.

## Main Definitions

* `Label.IsTooFar`: labels with a distance beyond the range of doubles.

## Main Statements

* `readNested_eq_error`, `readPart_eq_error`, `readChain_eq_error`: where the error of a whole comes from.
* `Chain.isTooFar_of_ofText`: a selector is not read because of a mistake, or because a distance in it is too large.
-/

namespace SelectorCode

open Selector (Error)

/-- A distance that is beyond the range of doubles. -/
def Label.IsTooFar (l : Label) : Prop :=
  ∃ b n, NestedBody.ofBody? l.name l.body = some b ∧ b.distance = some (.int n) ∧
    Binary64.ofInt? n = none

variable {inner : Text → Except Error Chain} {selector : Text} {preceding : List Part} {e : Error}

/-! ### Captures and first engines -/

theorem kind_of_captureOf {ls : List Label} (h : captureOf ls = .error e) :
    e.kind = .invalidSelector := by
  unfold captureOf at h
  split at h
  · cases h
  · cases h
  · cases h
    rfl

theorem kind_of_checkFirst {parts : List Part} (h : checkFirst parts = .error e) :
    e.kind = .invalidSelector := by
  unfold checkFirst at h
  split at h
  · cases h
  · split at h
    · cases h
      rfl
    · cases h

/-! ### Nested parts -/

/-- A distance is refused only for its size. -/
theorem exists_of_optionalDistance {d : Option Number} (h : optionalDistance d = .error e) :
    e.kind = .invalidData ∧ ∃ n, d = some (.int n) ∧ Binary64.ofInt? n = none := by
  cases d with
  | none => cases h
  | some n =>
    have hdistance := eq_error_of_map_eq_error h
    unfold distanceOf at hdistance
    split at hdistance
    · cases hdistance
    next m =>
      split at hdistance
      · cases hdistance
      next hrange =>
        cases hdistance
        exact ⟨rfl, m, rfl, hrange⟩

/-- A nested part is refused as malformed, for the selector in it, or for its distance. -/
theorem readNested_eq_error {name body : Text}
    (h : readNested inner name body preceding = .error e) :
    e.kind = .invalidSelector ∨ ∃ b, NestedBody.ofBody? name body = some b ∧
      (inner b.selector = .error e ∨ optionalDistance b.distance = .error e) := by
  unfold readNested at h
  split at h
  · cases h
    exact Or.inl rfl
  next b hb =>
    refine Or.inr ⟨b, hb, ?_⟩
    rcases eq_error_of_bind_eq_error h with hinner | ⟨x, -, hrest⟩
    · exact Or.inl hinner
    rcases eq_error_of_bind_eq_error hrest with hdistance | ⟨d, -, hpart⟩
    · exact Or.inr hdistance
    · cases hpart

/-- A part is not read because it is an empty style-sheet selector, or because of its nested body. -/
theorem readPart_eq_error {l : Label} (h : readPart inner selector preceding l = .error e) :
    e.kind = .invalidSelector ∨ isNestedEngine l.name = true ∧
      readNested inner l.name l.body preceding = .error e := by
  unfold readPart at h
  split at h
  · split at h
    · cases h
      exact Or.inl rfl
    · cases h
  · split at h
    next hnested => exact Or.inr ⟨hnested, h⟩
    · cases h

/-! ### Chains -/

theorem exists_of_readParts_eq_error {ls : List Label}
    (h : readParts inner selector preceding ls = .error e) :
    ∃ before, ∃ l ∈ ls, readPart inner selector before l = .error e := by
  induction ls generalizing preceding with
  | nil => cases h
  | cons l ls ih =>
    rw [readParts] at h
    split at h
    · obtain ⟨before, m, hm, hread⟩ := ih h
      exact ⟨before, m, List.mem_cons_of_mem l hm, hread⟩
    next hl =>
      cases h
      exact ⟨preceding, l, List.mem_cons_self, hl⟩

/-- A chain is not read because of its capture, its first engine, or one of its parts. -/
theorem readChain_eq_error (h : readChain inner selector = .error e) :
    e.kind = .invalidSelector ∨
      ∃ before, ∃ l ∈ labels selector, readPart inner selector before l = .error e := by
  rcases eq_error_of_bind_eq_error h with hcapture | ⟨capture, -, hrest⟩
  · exact Or.inl (kind_of_captureOf hcapture)
  rcases eq_error_of_bind_eq_error hrest with hparts | ⟨parts, -, hrest⟩
  · exact Or.inr (exists_of_readParts_eq_error hparts)
  rcases eq_error_of_bind_eq_error hrest with hfirst | ⟨parts', -, hchain⟩
  · exact Or.inl (kind_of_checkFirst hfirst)
  · cases hchain

theorem length_body_le_of_mem_labels {t : Text} {l : Label} (h : l ∈ labels t) :
    l.body.length ≤ t.length := by
  obtain ⟨c, hc, rfl⟩ := List.mem_map.1 h
  exact Nat.le_trans (Label.length_body_ofChunk_le c) (length_le_of_mem_chunks hc)

/-- **A selector is not read** because of a mistake, or because a distance in it is too large, at whatever depth. -/
theorem Chain.isTooFar_of_ofText (h : Chain.ofText selector = .error e) :
    e.kind = .invalidSelector ∨ e.kind = .invalidData ∧
      ∃ t, Selector.Within t selector ∧ ∃ l ∈ SelectorCode.labels t, l.IsTooFar := by
  induction hn : selector.length using Nat.strongRecOn generalizing selector with
  | ind n ih =>
    rw [Chain.ofText_eq] at h
    rcases readChain_eq_error h with hmistake | ⟨before, l, hl, hread⟩
    · exact Or.inl hmistake
    rcases readPart_eq_error hread with hmistake | ⟨hengine, hnested⟩
    · exact Or.inl hmistake
    rcases readNested_eq_error hnested with hmistake | ⟨b, hb, hinner | hdistance⟩
    · exact Or.inl hmistake
    · have hshorter : b.selector.length < n := by
        have h1 := NestedBody.length_selector_of_ofBody? hb
        have h2 := length_body_le_of_mem_labels hl
        omega
      refine (ih _ hshorter hinner rfl).imp_right ?_
      rintro ⟨hkind, t, ht, hfar⟩
      exact ⟨hkind, t, .body hl hengine hb ht, hfar⟩
    · obtain ⟨hkind, n, hn, hrange⟩ := exists_of_optionalDistance hdistance
      exact Or.inr ⟨hkind, selector, .refl _, l, hl, b, n, hb, hn, hrange⟩

end SelectorCode
