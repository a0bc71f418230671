import SelectorCode.Proofs.Outcome
import SelectorCode.Proofs.Selector.Reading

/-!
# Chains within chains

The body of a nested part is a chain again, and its parts may be nested in turn. Every chain that is met on the way down
has been read from a selector of its own within the selector; at most the frames that it shares with the parts around it
have been taken away. So whatever holds of the parts of every selector that is read, holds at every depth.

## Main Definitions

* `Selector.Within`: the selectors in a selector, at every depth.
* `Chain.Within`: the chains in a chain, at every depth.
* `Chain.IsRead`: the chains that have been read within a selector, with or without the frames they share.
* `Part.IsWellFormed`: how engine, body and source of a part belong together.

## Main Statements

* `readPart_cases`: a part is a style-sheet selector, a nested part, or a text as it stands.
* `Chain.isRead_of_within`: every chain within a chain that has been read has been read.
* `Chain.IsRead.exists_readPart`: its parts are those of labels.
* `isWellFormed_of_readPart`: a part that has been read is well formed.
* `Chain.isWellFormed_of_within`: so are all parts of a selector, at every depth.
-/

namespace SelectorCode

open Selector (Error)

/-! ### Every depth -/

/-- The selectors in a selector: itself, and those in the bodies of its nested engines. -/
inductive Selector.Within : Text → Text → Prop
  | refl (t : Text) : Within t t
  | body {t outer : Text} {l : Label} {b : NestedBody} (mem : l ∈ labels outer)
      (engine : isNestedEngine l.name = true)
      (body_eq : NestedBody.ofBody? l.name l.body = some b) (within : Within t b.selector) :
      Within t outer

/-- The chains in a chain: itself, and those in the bodies of its parts. -/
inductive Chain.Within : Chain → Chain → Prop
  | refl (c : Chain) : Within c c
  | body {c inner outer : Chain} {p : Part} {d : Option Binary64} (mem : p ∈ outer.parts)
      (body_eq : p.body = .nested inner d) (within : Within c inner) : Within c outer

/-- A chain that has been read from a selector within `s`, or what is left of one without the frames that it
shares. -/
def Chain.IsRead (s : Text) (c : Chain) : Prop :=
  ∃ t x, Selector.Within t s ∧ Chain.ofText t = .ok x ∧
    (c = x ∨ ∃ preceding, c = withoutSharedFrames preceding x)

/-- How engine, body and source of a part belong together. -/
structure Part.IsWellFormed (p : Part) : Prop where
  /-- The body is a chain exactly for the nested engines. -/
  nested_iff : (∃ inner d, p.body = .nested inner d) ↔ isNestedEngine p.name = true
  /-- A body that is a text is the source. -/
  source_eq : ∀ t, p.body = .text t → t = p.source
  /-- A style-sheet selector is not blank. -/
  isAllBlank_source : p.name = Engine.css → Text.isAllBlank p.source = false
  /-- The engine `css:light` has been replaced. -/
  name_ne : p.name ≠ Engine.cssLight
  /-- Only the engines that relate positions limit a distance. -/
  takesDistance_of_some : ∀ inner x, p.body = .nested inner (some x) → takesDistance p.name = true

variable {inner : Text → Except Error Chain} {selector : Text} {preceding : List Part}

theorem Selector.Within.trans {t u s : Text} (h : Selector.Within t u) (hu : Selector.Within u s) :
    Selector.Within t s := by
  induction hu with
  | refl => exact h
  | body hmem hengine hbody _ ih => exact .body hmem hengine hbody ih

/-- One step further down. -/
theorem Chain.Within.of_body {x y c : Chain} {p : Part} {d : Option Binary64} (h : x.Within c)
    (hp : p ∈ x.parts) (hbody : p.body = .nested y d) : y.Within c := by
  induction h with
  | refl => exact .body hp hbody (.refl y)
  | body hq houter _ ih => exact .body hq houter ih

/-! ### Where parts come from -/

/-- A part is a style-sheet selector, a nested part, or a text as it stands. -/
theorem readPart_cases {l : Label} {p : Part} (h : readPart inner selector preceding l = .ok p) :
    (∃ body, l.css? = some body ∧ Text.isAllBlank body = false ∧ p = .ofText Engine.css body) ∨
    (l.css? = none ∧ isNestedEngine l.name = true ∧
      readNested inner l.name l.body preceding = .ok p) ∨
    (l.css? = none ∧ isNestedEngine l.name = false ∧ p = .ofText l.name l.body) := by
  unfold readPart at h
  cases hcss : l.css? with
  | some body =>
    simp only [hcss] at h
    by_cases hblank : Text.isAllBlank body = true
    · rw [if_pos hblank] at h
      cases h
    · rw [if_neg hblank] at h
      cases h
      exact Or.inl ⟨body, rfl, by simpa using hblank, rfl⟩
  | none =>
    simp only [hcss] at h
    by_cases hnested : isNestedEngine l.name = true
    · rw [if_pos hnested] at h
      exact Or.inr (Or.inl ⟨rfl, hnested, h⟩)
    · rw [if_neg hnested] at h
      cases h
      exact Or.inr (Or.inr ⟨rfl, by simpa using hnested, rfl⟩)

/-- Every part has been there before, or it is the part of a label. -/
theorem mem_of_readParts {ls : List Label} {parts : List Part} {p : Part}
    (h : readParts inner selector preceding ls = .ok parts) (hp : p ∈ parts) :
    p ∈ preceding ∨ ∃ before l, l ∈ ls ∧ readPart inner selector before l = .ok p := by
  induction ls generalizing preceding with
  | nil =>
    cases h
    exact Or.inl hp
  | cons l ls ih =>
    rw [readParts] at h
    split at h
    next q hq =>
      rcases ih h with hmem | ⟨before, m, hm, hread⟩
      · rcases List.mem_append.1 hmem with hmem | hmem
        · exact Or.inl hmem
        · rw [List.mem_singleton.1 hmem]
          exact Or.inr ⟨preceding, l, List.mem_cons_self, hq⟩
      · exact Or.inr ⟨before, m, List.mem_cons_of_mem l hm, hread⟩
    next => cases h

/-- A part of a chain that has been read is the part of a label. -/
theorem Chain.exists_readPart {t : Text} {c : Chain} {p : Part} (h : Chain.ofText t = .ok c)
    (hp : p ∈ c.parts) :
    ∃ before, ∃ l ∈ SelectorCode.labels t, readPart Chain.ofText t before l = .ok p := by
  rw [Chain.ofText_eq] at h
  rcases mem_of_readParts (readChain_eq_ok_iff.1 h).2.1 hp with hnil | ⟨before, l, hl, hread⟩
  · cases hnil
  · exact ⟨before, l, hl, hread⟩

/-- Taking away shared frames adds no part. -/
theorem mem_of_mem_withoutSharedFrames {x : Chain} {p : Part}
    (hp : p ∈ (withoutSharedFrames preceding x).parts) : p ∈ x.parts := by
  have happend := framePrefix_append x.parts
  unfold withoutSharedFrames at hp
  split at hp
  · exact hp
  next q qs rest hcut =>
    split at hp
    · rw [hcut] at happend
      rw [← happend]
      exact List.mem_append_right _ hp
    · exact hp

/-- A part of a chain that has been read, with or without the frames it shares, is the part of a label. -/
theorem Chain.IsRead.exists_readPart {s : Text} {c : Chain} {p : Part} (h : c.IsRead s)
    (hp : p ∈ c.parts) :
    ∃ t, Selector.Within t s ∧
      ∃ before, ∃ l ∈ SelectorCode.labels t, readPart Chain.ofText t before l = .ok p := by
  obtain ⟨t, x, ht, hx, rfl | ⟨before, rfl⟩⟩ := h
  · exact ⟨t, ht, Chain.exists_readPart hx hp⟩
  · exact ⟨t, ht, Chain.exists_readPart hx (mem_of_mem_withoutSharedFrames hp)⟩

/-! ### Down into the bodies -/

/-- The chain in the body of a part has been read from the selector in that body. -/
theorem Chain.IsRead.body {s : Text} {c x : Chain} {p : Part} {d : Option Binary64}
    (h : c.IsRead s) (hp : p ∈ c.parts) (hbody : p.body = .nested x d) : x.IsRead s := by
  obtain ⟨t, ht, before, l, hl, hread⟩ := h.exists_readPart hp
  rcases readPart_cases hread with ⟨body, -, -, rfl⟩ | ⟨-, hname, hnested⟩ | ⟨-, -, rfl⟩
  · cases hbody
  · obtain ⟨b, y, e, hb, hy, -, rfl⟩ := readNested_eq_ok_iff.1 hnested
    cases hbody
    have hwithin : Selector.Within b.selector t := .body hl hname hb (.refl _)
    exact ⟨b.selector, y, hwithin.trans ht, hy, Or.inr ⟨before, rfl⟩⟩
  · cases hbody

/-- **Every chain within a chain that has been read has been read**, each from a selector of its own. -/
theorem Chain.isRead_of_within {s : Text} {c x : Chain} (h : c.IsRead s) (hwithin : x.Within c) :
    x.IsRead s := by
  -- on the way down, each step takes the chain in a body
  induction hwithin with
  | refl => exact h
  | body hp hbody _ ih => exact ih (h.body hp hbody)

/-! ### Well-formed parts -/

theorem isNestedEngine_css : isNestedEngine Engine.css = false := by decide

/-- A part whose body is a text is well formed when its engine takes texts and is none that is replaced. -/
theorem isWellFormed_ofText {name body : Text} (hnested : isNestedEngine name = false)
    (hlight : name ≠ Engine.cssLight) (hblank : name = Engine.css → Text.isAllBlank body = false) :
    (Part.ofText name body).IsWellFormed where
  nested_iff := by
    rw [Part.ofText, hnested]
    constructor
    · rintro ⟨x, d, hbody⟩
      cases hbody
    · exact fun h => Bool.noConfusion h
  source_eq t ht := (Body.text.inj ht).symm
  isAllBlank_source := hblank
  name_ne := hlight
  takesDistance_of_some x e hbody := by cases hbody

theorem Label.ne_of_css?_eq_none {l : Label} (h : l.css? = none) :
    l.name ≠ Engine.css ∧ l.name ≠ Engine.cssLight := by
  constructor
  · intro hname
    rw [css?, if_pos hname] at h
    cases h
  · intro hname
    have hne : l.name ≠ Engine.css := by
      rw [hname]
      decide
    rw [css?, if_neg hne, if_pos hname] at h
    cases h

/-- **A part that has been read is well formed.** -/
theorem isWellFormed_of_readPart {l : Label} {p : Part}
    (h : readPart inner selector preceding l = .ok p) : p.IsWellFormed := by
  rcases readPart_cases h with ⟨body, -, hblank, rfl⟩ | ⟨hnone, hname, hnested⟩ | ⟨hnone, hname, rfl⟩
  · exact isWellFormed_ofText isNestedEngine_css (by decide) fun _ => hblank
  · obtain ⟨b, x, d, hbody, -, hdistance, rfl⟩ := readNested_eq_ok_iff.1 hnested
    obtain ⟨hcss, hlight⟩ := Label.ne_of_css?_eq_none hnone
    refine ⟨⟨fun _ => hname, fun _ => ⟨_, _, rfl⟩⟩, ?_, fun h => absurd h hcss, hlight, ?_⟩
    · intro t ht
      cases ht
    · intro y e he
      cases he
      -- a distance has been written, and the body has been refused unless the engine takes one
      have hkept := (Option.filter_eq_some_iff.1 hbody).2
      cases hwritten : b.distance with
      | none =>
        rw [hwritten] at hdistance
        cases hdistance
      | some n => simpa [hwritten] using hkept
  · obtain ⟨hcss, hlight⟩ := Label.ne_of_css?_eq_none hnone
    exact isWellFormed_ofText hname hlight fun h => absurd h hcss

/-- **All parts of a selector are well formed**, those of the chain itself and those of every chain within it. -/
theorem Chain.isWellFormed_of_within {t : Text} {c : Chain} (h : Chain.ofText t = .ok c) :
    ∀ x : Chain, x.Within c → ∀ p ∈ x.parts, p.IsWellFormed := by
  intro x hwithin p hp
  have hread : c.IsRead t := ⟨t, c, .refl t, h, Or.inl rfl⟩
  obtain ⟨s, -, before, l, -, hpart⟩ := (Chain.isRead_of_within hread hwithin).exists_readPart hp
  exact isWellFormed_of_readPart hpart

/-- A star, a selector that is replaced, and a distance. -/
theorem Chain.isWellFormed_of_within_near :
    Chain.ofText "a >> *near=\"css:light=b\", 3".toList =
        .ok ⟨[.ofText Engine.css "a".toList,
          ⟨Engine.near, .nested ⟨[.ofText Engine.css ":light(b)".toList], none⟩
            (some (.finite false 0x18000000000000 (-51))), "\"css:light=b\", 3".toList⟩], some 1⟩ ∧
      (Part.ofText Engine.css ":light(b)".toList).IsWellFormed := by
  refine (fun hread => ⟨hread, ?_⟩) (eq_ok_of_toOption_eq_some (by decide +kernel))
  exact Chain.isWellFormed_of_within hread ⟨[.ofText Engine.css ":light(b)".toList], none⟩
    (.body (List.mem_cons_of_mem _ List.mem_cons_self) rfl (.refl _)) _ List.mem_cons_self

end SelectorCode
