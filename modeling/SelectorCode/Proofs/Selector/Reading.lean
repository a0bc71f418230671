import SelectorCode.Proofs.Selector.Chunks
import SelectorCode.Proofs.Selector.Printing

/-!
# Chains and their labels

Reading a selector goes through its labels, and printing a chain goes through the engine, the source and the star of
each part, which are labels again. A chain that has been read is therefore determined by its labels, and whether a
printed chain reads back is a question about lists of labels.

## Main Definitions

* `Chain.labels`: the labels of a chain.

## Main Statements

* `readNested_eq_ok_iff`: a nested part is read when its body, the selector in it and the distance are.
* `readChain_eq_ok_iff`: a chain is read when its capture and its parts are.
* `readParts_append`: reading the parts of two lists of labels, one after the other.
* `Chain.ofText_eq_ok_iff_labels`: the texts that describe a chain which has been read.
* `Chain.text_eq_intercalate`: a chain is printed label by label.
-/

namespace SelectorCode

open Selector (Error)

variable {inner : Text → Except Error Chain} {selector selector' : Text}

/-! ### Captures -/

/-- The captured indices are those of the captured labels. -/
theorem mem_capturedIndices {k i : Nat} {ls : List Label} :
    i ∈ capturedIndices k ls ↔ ∃ j l, ls[j]? = some l ∧ l.captured = true ∧ i = k + j := by
  induction ls generalizing k with
  | nil => simp [capturedIndices]
  | cons l ls ih =>
    -- an index in the list is that of its head, or one more than an index in its tail
    have htail : (∃ j m, (l :: ls)[j]? = some m ∧ m.captured = true ∧ i = k + j) ↔
        (l.captured = true ∧ i = k) ∨
          ∃ j m, ls[j]? = some m ∧ m.captured = true ∧ i = (k + 1) + j := by
      constructor
      · rintro ⟨j, m, hj, hm, hi⟩
        cases j with
        | zero =>
          cases hj
          exact Or.inl ⟨hm, hi⟩
        | succ j => exact Or.inr ⟨j, m, hj, hm, by omega⟩
      · rintro (⟨hl, hi⟩ | ⟨j, m, hj, hm, hi⟩)
        · exact ⟨0, l, rfl, hl, hi⟩
        · exact ⟨j + 1, m, hj, hm, by omega⟩
    rw [htail, capturedIndices]
    split
    next hl => rw [List.mem_cons, ih]; simp [hl]
    next hl => rw [ih]; simp [hl]

theorem capturedIndices_append (k : Nat) (ls ms : List Label) :
    capturedIndices k (ls ++ ms) = capturedIndices k ls ++ capturedIndices (k + ls.length) ms := by
  induction ls generalizing k with
  | nil => simp [capturedIndices]
  | cons l ls ih =>
    have hk : k + 1 + ls.length = k + (l :: ls).length := by
      rw [List.length_cons]
      omega
    rw [List.cons_append, capturedIndices, capturedIndices, ih, hk]
    split <;> rfl

theorem capturedIndices_normal (k : Nat) (ls : List Label) :
    capturedIndices k (ls.map Label.normal) = capturedIndices k ls := by
  induction ls generalizing k with
  | nil => rfl
  | cons l ls ih =>
    rw [List.map_cons, capturedIndices, capturedIndices, ih, Label.captured_normal]

/-- The capture of a list of labels is the index of its only captured label. -/
theorem captured_of_captureOf {ls : List Label} {capture : Option Nat}
    (h : captureOf ls = .ok capture) {i : Nat} {l : Label} (hi : ls[i]? = some l) :
    l.captured = decide (capture = some i) := by
  have hmem : l.captured = true ↔ i ∈ capturedIndices 0 ls := by
    rw [mem_capturedIndices]
    constructor
    · intro hl
      exact ⟨i, l, hi, hl, (Nat.zero_add i).symm⟩
    · rintro ⟨j, m, hj, hm, hij⟩
      rw [Nat.zero_add] at hij
      rw [← hij, hi] at hj
      cases hj
      exact hm
  rw [Bool.eq_iff_iff, hmem, decide_eq_true_iff]
  unfold captureOf at h
  split at h
  next hnone =>
    cases h
    simp [hnone]
  next j hone =>
    cases h
    simp [hone, eq_comm]
  next => cases h

/-! ### Parts -/

theorem Label.css?_of_ne {l : Label} (hcss : l.name ≠ Engine.css)
    (hlight : l.name ≠ Engine.cssLight) : l.css? = none := by
  rw [css?, if_neg hcss, if_neg hlight]

theorem Label.css?_normal (l : Label) : l.normal.css? = l.css? := by
  rcases normal_cases l with ⟨hlight, h⟩ | ⟨-, h⟩
  · have hne : l.name ≠ Engine.css := by
      rw [hlight]
      decide
    rw [h, css?, css?, if_pos rfl, if_neg hne, if_pos hlight]
    rfl
  · rw [h]

/-- A part is read from the normal form of its label. -/
theorem readPart_normal (preceding : List Part) (l : Label) :
    readPart inner selector preceding l.normal = readPart inner selector preceding l := by
  unfold readPart
  rw [Label.css?_normal]
  cases hcss : l.css? with
  | some body => rfl
  | none =>
    have hnormal : l.normal = l := by rw [Label.normal, hcss]
    rw [hnormal]

/-- A nested chain without frame markers is taken as it is, whatever stands before it. -/
theorem withoutSharedFrames_of_no_frame {x : Chain} (preceding : List Part)
    (h : ∀ p ∈ x.parts, p.isEnterFrame = false) : withoutSharedFrames preceding x = x := by
  have hcut : ∀ ps : List Part, (∀ p ∈ ps, p.isEnterFrame = false) →
      framePrefix ps = ([], ps) := by
    intro ps
    induction ps with
    | nil => intro _; rfl
    | cons p ps ih =>
      intro hps
      rw [framePrefix, ih fun q hq => hps q (List.mem_cons_of_mem p hq)]
      simp [hps p List.mem_cons_self]
  unfold withoutSharedFrames
  rw [hcut x.parts h]

/-- A nested part is read when its body, the selector in the body and the distance are. -/
theorem readNested_eq_ok_iff {name body : Text} {preceding : List Part} {p : Part} :
    readNested inner name body preceding = .ok p ↔
      ∃ b x d, NestedBody.ofBody? name body = some b ∧ inner b.selector = .ok x ∧
        optionalDistance b.distance = .ok d ∧
        p = ⟨name, .nested (withoutSharedFrames preceding x) d, body⟩ := by
  unfold readNested
  cases hbody : NestedBody.ofBody? name body with
  | none => simp
  | some b =>
    cases hinner : inner b.selector with
    | error e => simp [hinner, bind, Except.bind]
    | ok x =>
      cases hdistance : optionalDistance b.distance with
      | error e => simp [hinner, hdistance, bind, Except.bind]
      | ok d => simp [hinner, hdistance, bind, Except.bind, pure, Except.pure, eq_comm]

/-- The engine and the source of a part are those of its label. -/
theorem readPart_eq_ok {preceding : List Part} {l : Label} {p : Part}
    (h : readPart inner selector preceding l = .ok p) :
    p.name = l.normal.name ∧ p.source = l.normal.body := by
  unfold readPart at h
  cases hcss : l.css? with
  | some body =>
    have hnormal : l.normal = ⟨Engine.css, body, l.captured⟩ := by rw [Label.normal, hcss]
    simp only [hcss] at h
    split at h
    · cases h
    · cases h
      rw [hnormal]
      exact ⟨rfl, rfl⟩
  | none =>
    have hnormal : l.normal = l := by rw [Label.normal, hcss]
    simp only [hcss] at h
    rw [hnormal]
    split at h
    · obtain ⟨b, x, d, -, -, -, rfl⟩ := readNested_eq_ok_iff.1 h
      exact ⟨rfl, rfl⟩
    · cases h
      exact ⟨rfl, rfl⟩

/-- The selector as a whole only serves to word an error. -/
theorem readPart_selector {preceding : List Part} {l : Label} {p : Part}
    (h : readPart inner selector preceding l = .ok p) :
    readPart inner selector' preceding l = .ok p := by
  unfold readPart at h ⊢
  cases hcss : l.css? with
  | some body =>
    simp only [hcss] at h ⊢
    split at h
    · cases h
    next hblank =>
      rw [if_neg hblank]
      exact h
  | none =>
    simp only [hcss] at h ⊢
    exact h

theorem readParts_selector {preceding parts : List Part} {ls : List Label}
    (h : readParts inner selector preceding ls = .ok parts) :
    readParts inner selector' preceding ls = .ok parts := by
  induction ls generalizing preceding with
  | nil => exact h
  | cons l ls ih =>
    rw [readParts] at h ⊢
    split at h
    next p hp =>
      rw [readPart_selector hp]
      exact ih h
    next => cases h

theorem readParts_normal (preceding : List Part) (ls : List Label) :
    readParts inner selector preceding (ls.map Label.normal) =
      readParts inner selector preceding ls := by
  induction ls generalizing preceding with
  | nil => rfl
  | cons l ls ih =>
    rw [List.map_cons, readParts, readParts, readPart_normal]
    split
    · exact ih _
    · rfl

/-- The parts of two lists of labels are read one after the other. -/
theorem readParts_append {preceding parts : List Part} {ls : List Label}
    (h : readParts inner selector preceding ls = .ok parts) (ms : List Label) :
    readParts inner selector preceding (ls ++ ms) = readParts inner selector parts ms := by
  induction ls generalizing preceding with
  | nil =>
    cases h
    rfl
  | cons l ls ih =>
    rw [List.cons_append, readParts]
    rw [readParts] at h
    split at h
    next => exact ih h
    next => cases h

/-- Reading adds one part for each label, with its engine and its source. -/
theorem exists_of_readParts {preceding parts : List Part} {ls : List Label}
    (h : readParts inner selector preceding ls = .ok parts) :
    ∃ ps, parts = preceding ++ ps ∧
      ps.map (fun p => (p.name, p.source)) = ls.map fun l => (l.normal.name, l.normal.body) := by
  induction ls generalizing preceding with
  | nil =>
    cases h
    exact ⟨[], (List.append_nil _).symm, rfl⟩
  | cons l ls ih =>
    rw [readParts] at h
    split at h
    next p hp =>
      obtain ⟨ps, rfl, hps⟩ := ih h
      obtain ⟨hname, hsource⟩ := readPart_eq_ok hp
      refine ⟨p :: ps, by rw [List.append_assoc]; rfl, ?_⟩
      rw [List.map_cons, List.map_cons, hps, hname, hsource]
    next => cases h

/-! ### Chains -/

theorem checkFirst_eq_ok {parts parts' : List Part} (h : checkFirst parts = .ok parts') :
    parts' = parts := by
  unfold checkFirst at h
  split at h
  · cases h
    rfl
  · split at h
    · cases h
    · cases h
      rfl

/-- A chain is read when its capture and its parts are, and its first engine is not a nested one. -/
theorem readChain_eq_ok_iff {c : Chain} :
    readChain inner selector = .ok c ↔
      captureOf (labels selector) = .ok c.capture ∧
        readParts inner selector [] (labels selector) = .ok c.parts ∧
        checkFirst c.parts = .ok c.parts := by
  obtain ⟨parts, capture⟩ := c
  have hunfold : readChain inner selector =
      (captureOf (labels selector)).bind fun capture =>
        (readParts inner selector [] (labels selector)).bind fun parts =>
          (checkFirst parts).bind fun parts => .ok ⟨parts, capture⟩ := rfl
  rw [hunfold]
  cases hcapture : captureOf (labels selector) with
  | error e => simp [Except.bind]
  | ok capture' =>
    cases hparts : readParts inner selector [] (labels selector) with
    | error e => simp [Except.bind]
    | ok parts' =>
      cases hfirst : checkFirst parts' with
      | error e =>
        -- the parts have been read, but they are not those of a chain
        simp only [Except.bind, hfirst, reduceCtorEq, Except.ok.injEq, false_iff, not_and]
        rintro - rfl
        rw [hfirst]
        intro h
        cases h
      | ok parts'' =>
        have := checkFirst_eq_ok hfirst
        subst this
        simp only [Except.bind, hfirst, Except.ok.injEq, Chain.mk.injEq]
        constructor
        · rintro ⟨rfl, rfl⟩
          exact ⟨rfl, rfl, hfirst⟩
        · rintro ⟨rfl, rfl, -⟩
          exact ⟨rfl, rfl⟩

/-- The labels of a chain: the engine and the source of each part, and whether the part is captured. -/
def Chain.labels (c : Chain) : List Label :=
  c.parts.mapIdx fun i p => ⟨p.name, p.source, c.capture = some i⟩

/-- The labels of a chain that has been read are those of the selector. -/
theorem labels_of_readChain {c : Chain} (h : readChain inner selector = .ok c) :
    c.labels = (labels selector).map Label.normal := by
  obtain ⟨hcapture, hparts, -⟩ := readChain_eq_ok_iff.1 h
  obtain ⟨ps, hps, hkeys⟩ := exists_of_readParts hparts
  rw [List.nil_append] at hps
  subst hps
  -- label by label, since the captured one is known by its index
  apply List.ext_getElem?
  intro i
  have hkey := congrArg (·[i]?) hkeys
  simp only [List.getElem?_map] at hkey
  rw [Chain.labels, List.getElem?_mapIdx, List.getElem?_map]
  cases hl : (labels selector)[i]? with
  | none =>
    rw [hl, Option.map_none, Option.map_eq_none_iff] at hkey
    rw [hkey]
    rfl
  | some l =>
    rw [hl, Option.map_some, Option.map_eq_some_iff] at hkey
    obtain ⟨p, hp, heq⟩ := hkey
    rw [hp, Option.map_some, Option.map_some, (Prod.mk.inj heq).1, (Prod.mk.inj heq).2,
      ← captured_of_captureOf hcapture hl, ← Label.captured_normal]

/-- A chain is determined by the labels of the selector. -/
theorem readChain_of_labels {c : Chain} (h : readChain inner selector = .ok c)
    (hlabels : (labels selector').map Label.normal = (labels selector).map Label.normal) :
    readChain inner selector' = .ok c := by
  obtain ⟨hcapture, hparts, hfirst⟩ := readChain_eq_ok_iff.1 h
  refine readChain_eq_ok_iff.2 ⟨?_, ?_, hfirst⟩
  · rw [captureOf, ← capturedIndices_normal, hlabels, capturedIndices_normal]
    exact hcapture
  · rw [← readParts_normal, hlabels, readParts_normal]
    exact readParts_selector hparts

/-- **The texts that describe a chain which has been read** are those with its labels. -/
theorem Chain.ofText_eq_ok_iff_labels {c : Chain} (h : Chain.ofText selector = .ok c)
    (selector' : Text) :
    Chain.ofText selector' = .ok c ↔ (SelectorCode.labels selector').map Label.normal = c.labels := by
  rw [Chain.ofText_eq] at h ⊢
  constructor
  · intro h'
    exact (labels_of_readChain h').symm
  · intro hlabels
    exact readChain_of_labels h (hlabels.trans (labels_of_readChain h))

/-! ### Printing -/

theorem partTexts_eq_map (explicit : Bool) (capture : Option Nat) (parts : List Part) :
    Chain.partTexts explicit capture parts =
      (Chain.labels ⟨parts, capture⟩).map (Label.text explicit) := by
  induction parts generalizing capture with
  | nil => cases capture <;> rfl
  | cons p ps ih =>
    have htext : Label.text explicit ⟨p.name, p.source, false⟩ = p.text explicit := rfl
    have hcaptured : Label.text explicit ⟨p.name, p.source, true⟩ = p.capturedText := rfl
    cases capture with
    | none => simp [Chain.partTexts, ih, Chain.labels, htext]
    | some n =>
      cases n with
      | zero => simp [Chain.partTexts, ih, Chain.labels, hcaptured]
      | succ n => simp [Chain.partTexts, ih, Chain.labels, htext]

/-- A chain is printed label by label. -/
theorem Chain.text_eq_intercalate (explicit : Bool) (c : Chain) :
    c.text explicit = separator.intercalate (c.labels.map (Label.text explicit)) := by
  rw [Chain.text, partTexts_eq_map]
  rfl

end SelectorCode
