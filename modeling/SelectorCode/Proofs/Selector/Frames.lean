import Mathlib.Data.List.DropRight
import Mathlib.Data.List.Forall2
import SelectorCode.Proofs.Selector.Origin

/-!
# Chains without their frames

A selector describes a chain only if the chain has a part and does not begin with a nested engine. A nested chain may
lose its beginning after it has been read, up to its last frame marker, and then neither is asked again. What is left
keeps to the rules exactly if its selector goes on behind the last frame marker, and does so with an engine that is not
nested.

## Main Definitions

* `Chain.FollowsRules`: the chains with a part, the first of which is not nested.
* `Label.isEnterFrame`, `labelsBehindFrames`: frame markers, and what stands behind the last one of a selector.

## Main Statements

* `framePrefix_eq_nil_iff`, `framePrefix_snd`: where a list of parts is cut.
* `Chain.followsRules_of_ofText`: what a selector describes keeps to the rules.
* `Chain.IsReadFrom.followsRules_iff`: when what is left of it does.
-/

namespace SelectorCode

variable {s t : Text} {c x : Chain}

/-! ### The last frame marker -/

/-- The end of a list grows by an element in front only if nothing has been left out of it. -/
theorem rtakeWhile_cons {α : Type} (f : α → Bool) (a : α) (l : List α) :
    (a :: l).rtakeWhile f = if l.all f then if f a then a :: l else l else l.rtakeWhile f := by
  unfold List.rtakeWhile
  rw [List.reverse_cons, List.takeWhile_append]
  by_cases hall : l.all f = true
  · have hself : l.reverse.takeWhile f = l.reverse :=
      List.takeWhile_eq_self_iff.2 fun b hb => List.all_eq_true.1 hall b (List.mem_reverse.1 hb)
    rw [hself, if_pos rfl, if_pos hall]
    cases hfa : f a <;> simp [hfa]
  · have hshort : (l.reverse.takeWhile f).length ≠ l.reverse.length := by
      intro hlength
      refine hall (List.all_eq_true.2 fun b hb => ?_)
      have hprefix : l.reverse.takeWhile f <+: l.reverse := List.takeWhile_prefix f
      have hself := hprefix.eq_of_length hlength
      exact List.takeWhile_eq_self_iff.1 hself b (List.mem_reverse.2 hb)
    rw [if_neg hshort, if_neg hall]

/-- Nothing is cut off exactly if there is no frame marker. -/
theorem framePrefix_eq_nil_iff {ps : List Part} :
    (framePrefix ps).1 = [] ↔ ps.all (fun p => !p.isEnterFrame) = true := by
  induction ps with
  | nil => simp [framePrefix]
  | cons p ps ih =>
    rw [framePrefix, List.all_cons]
    split
    next rest hcut =>
      rw [hcut] at ih
      rw [ih.1 rfl, Bool.and_true]
      cases p.isEnterFrame <;> simp
    next q qs rest hcut =>
      rw [hcut] at ih
      rw [Bool.eq_false_iff.2 fun hall => absurd (ih.2 hall) (List.cons_ne_nil q qs)]
      simp

/-- The cut comes behind the last frame marker. -/
theorem framePrefix_snd (ps : List Part) :
    (framePrefix ps).2 = ps.rtakeWhile fun p => !p.isEnterFrame := by
  induction ps with
  | nil => rfl
  | cons p ps ih =>
    have hnil := @framePrefix_eq_nil_iff ps
    have happend := framePrefix_append ps
    rw [rtakeWhile_cons, ← ih, framePrefix]
    split
    next rest hcut =>
      rw [hcut] at hnil happend
      rw [if_pos (hnil.1 rfl), ← happend]
      cases p.isEnterFrame <;> simp
    next q qs rest hcut =>
      rw [hcut] at hnil
      rw [if_neg fun hall => absurd (hnil.2 hall) (List.cons_ne_nil q qs), hcut]

/-! ### Labels -/

/-- Whether a label is that of a frame marker. -/
def Label.isEnterFrame (l : Label) : Bool :=
  l.name = Engine.control && l.body = Part.enterFrameBody

/-- The labels of a selector behind its last frame marker, or all of them if there is none. -/
def labelsBehindFrames (t : Text) : List Label :=
  (labels t).rtakeWhile fun l => !l.isEnterFrame

/-- The end of a list is told by what is asked of its elements. -/
theorem forall₂_rtakeWhile {α β : Type} {R : α → β → Prop} {f : α → Bool} {g : β → Bool}
    {as : List α} {bs : List β} (h : List.Forall₂ R as bs) (hf : ∀ a b, R a b → f a = g b) :
    List.Forall₂ R (as.rtakeWhile f) (bs.rtakeWhile g) := by
  induction h with
  | nil => exact .nil
  | cons hab htail ih =>
    have hall : ∀ {as bs}, List.Forall₂ R as bs → as.all f = bs.all g := by
      intro as bs h
      induction h with
      | nil => rfl
      | cons hab _ ih => rw [List.all_cons, List.all_cons, hf _ _ hab, ih]
    rw [rtakeWhile_cons, rtakeWhile_cons, hall htail, hf _ _ hab]
    split
    · split
      · exact .cons hab htail
      · exact htail
    · exact ih

/-- A part and a label that the rules do not tell apart: both mark a frame or neither does, and both have a nested
engine or neither has. -/
structure Part.AgreesWith (p : Part) (l : Label) : Prop where
  isEnterFrame_eq : p.isEnterFrame = l.isEnterFrame
  isNestedEngine_eq : isNestedEngine p.name = isNestedEngine l.name

theorem Label.isEnterFrame_of_ne {l : Label} (h : l.name ≠ Engine.control) :
    l.isEnterFrame = false := by
  simp [isEnterFrame, h]

theorem Label.name_of_css? {l : Label} {body : Text} (h : l.css? = some body) :
    l.name = Engine.css ∨ l.name = Engine.cssLight := by
  by_contra hne
  rw [not_or] at hne
  rw [css?_of_ne hne.1 hne.2] at h
  cases h

/-- A part agrees with the label that it has been read from. -/
theorem agreesWith_of_readPart {inner : Text → Except Selector.Error Chain} {selector : Text}
    {preceding : List Part} {l : Label} {p : Part}
    (h : readPart inner selector preceding l = .ok p) : p.AgreesWith l := by
  rcases readPart_cases h with ⟨body, hcss, -, rfl⟩ | ⟨-, hname, hnested⟩ | ⟨-, -, rfl⟩
  · have hnames : ∀ name ∈ [Engine.css, Engine.cssLight],
        name ≠ Engine.control ∧ isNestedEngine name = false := by decide
    obtain ⟨hcontrol, hengine⟩ := hnames l.name (by simpa using Label.name_of_css? hcss)
    exact ⟨(Label.isEnterFrame_of_ne hcontrol).symm, hengine.symm⟩
  · obtain ⟨b, x, d, -, -, -, rfl⟩ := readNested_eq_ok_iff.1 hnested
    have hcontrol : l.name ≠ Engine.control := by
      intro hcontrol
      rw [hcontrol] at hname
      exact absurd hname (by decide)
    refine ⟨?_, rfl⟩
    rw [Label.isEnterFrame_of_ne hcontrol]
    simp [Part.isEnterFrame]
  · refine ⟨?_, rfl⟩
    have hbody : Body.text l.body = .text Part.enterFrameBody ↔ l.body = Part.enterFrameBody :=
      ⟨Body.text.inj, congrArg Body.text⟩
    rw [Part.isEnterFrame, Label.isEnterFrame]
    exact congrArg _ (decide_eq_decide.2 hbody)

/-- The parts that are read agree with their labels, one by one. -/
theorem forall₂_of_readParts {inner : Text → Except Selector.Error Chain} {selector : Text}
    {preceding parts : List Part} {ls : List Label}
    (h : readParts inner selector preceding ls = .ok parts) :
    ∃ ps, parts = preceding ++ ps ∧ List.Forall₂ Part.AgreesWith ps ls := by
  induction ls generalizing preceding with
  | nil =>
    cases h
    exact ⟨[], (List.append_nil _).symm, .nil⟩
  | cons l ls ih =>
    rw [readParts] at h
    split at h
    next p hp =>
      obtain ⟨ps, rfl, hps⟩ := ih h
      refine ⟨p :: ps, ?_, .cons (agreesWith_of_readPart hp) hps⟩
      rw [List.append_assoc, List.singleton_append]
    next => cases h

namespace Chain

theorem forall₂_of_ofText (h : Chain.ofText t = .ok x) :
    List.Forall₂ Part.AgreesWith x.parts (SelectorCode.labels t) := by
  rw [Chain.ofText_eq] at h
  obtain ⟨ps, hps, hagree⟩ := forall₂_of_readParts (readChain_eq_ok_iff.1 h).2.1
  rw [hps]
  exact hagree

/-! ### The rules -/

/-- The rules of a chain: it has a part, and the first one is not nested. -/
structure FollowsRules (x : Chain) : Prop where
  parts_ne_nil : x.parts ≠ []
  isNestedEngine_head : ∀ p, x.parts.head? = some p → isNestedEngine p.name = false

/-- A chain that has been read keeps to the rules, as long as nothing is taken away. -/
theorem followsRules_of_ofText (h : Chain.ofText t = .ok x) : x.FollowsRules := by
  refine ⟨?_, ?_⟩
  · intro hnil
    have hlabels := forall₂_of_ofText h
    rw [hnil, List.forall₂_nil_left_iff] at hlabels
    exact labels_ne_nil t hlabels
  · intro p hp
    rw [Chain.ofText_eq] at h
    have hfirst := (readChain_eq_ok_iff.1 h).2.2
    cases hparts : x.parts with
    | nil =>
      rw [hparts] at hp
      cases hp
    | cons q qs =>
      rw [hparts] at hp hfirst
      cases hp
      rw [checkFirst] at hfirst
      split at hfirst
      · cases hfirst
      next hnested => exact Bool.eq_false_iff.2 hnested

/-- The rules, for parts that agree with labels. -/
theorem followsRules_iff_of_forall₂ {ls : List Label}
    (h : List.Forall₂ Part.AgreesWith x.parts ls) :
    x.FollowsRules ↔ ∃ l rest, ls = l :: rest ∧ isNestedEngine l.name = false := by
  constructor
  · intro hrules
    cases hparts : x.parts with
    | nil => exact absurd hparts hrules.parts_ne_nil
    | cons p ps =>
      have hhead := hrules.isNestedEngine_head p (by rw [hparts]; rfl)
      rw [hparts] at h
      cases h with
      | cons hagree _ => exact ⟨_, _, rfl, hagree.isNestedEngine_eq ▸ hhead⟩
  · rintro ⟨l, rest, rfl, hname⟩
    cases hparts : x.parts with
    | nil =>
      rw [hparts] at h
      cases h
    | cons p ps =>
      rw [hparts] at h
      cases h with
      | cons hagree _ =>
        refine ⟨by rw [hparts]; exact List.cons_ne_nil p ps, fun q hq => ?_⟩
        rw [hparts] at hq
        cases hq
        rw [hagree.isNestedEngine_eq, hname]

/-- **When what is left keeps to the rules.** A chain that has been read has a part and does not begin with a nested
engine, exactly if nothing has been taken away or its selector goes on behind the last frame marker with an engine that
is not nested. It has no part exactly if something has been taken away and the selector ends with the frame marker. -/
theorem IsReadFrom.followsRules_iff (h : x.IsReadFrom t) :
    (x.FollowsRules ↔ x.parts.length = (chunks t).length ∨
      ∃ l rest, labelsBehindFrames t = l :: rest ∧ isNestedEngine l.name = false) ∧
    (x.parts = [] ↔ x.parts.length ≠ (chunks t).length ∧ labelsBehindFrames t = []) := by
  obtain ⟨y, hy, hx⟩ := h
  have hlength := length_parts_of_ofText hy
  rcases hx with rfl | ⟨hcut, rfl⟩
  · have hrules := followsRules_of_ofText hy
    refine ⟨iff_of_true hrules (Or.inl hlength), iff_of_false hrules.parts_ne_nil ?_⟩
    rintro ⟨hne, -⟩
    exact hne hlength
  · -- what is left agrees with the labels behind the last marker
    have hagree : List.Forall₂ Part.AgreesWith (framePrefix y.parts).2 (labelsBehindFrames t) := by
      rw [framePrefix_snd]
      refine forall₂_rtakeWhile (forall₂_of_ofText hy) fun p l hpl => ?_
      rw [hpl.isEnterFrame_eq]
    have hshort : (framePrefix y.parts).2.length ≠ (chunks t).length := by
      rw [← hlength, ← framePrefix_append y.parts, List.length_append]
      have := List.length_pos_iff.2 hcut
      rw [framePrefix_append y.parts]
      omega
    refine ⟨?_, ?_⟩
    · rw [followsRules_iff_of_forall₂ hagree, or_iff_right hshort]
    · rw [and_iff_right hshort]
      constructor
      · intro hnil
        rwa [show (framePrefix y.parts).2 = [] from hnil, List.forall₂_nil_left_iff] at hagree
      · intro hnil
        rwa [hnil, List.forall₂_nil_right_iff] at hagree

end Chain

end SelectorCode
