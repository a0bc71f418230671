import SelectorCode.Proofs.Selector.Reading

/-!
# Reading joined selectors

Two selectors with ` >> ` between them are read as the parts of the one followed by the parts of the other. The seam
could show in three places: in the scan, when the first selector leaves a quotation mark open; in the capture, of which
there may be only one; and in a nested selector of the second one that enters frames, since such frames are compared
with the parts that stand before them. The first and the last are excluded, and the second is what the result says.

## Main Definitions

* `Chain.join`: two chains, one after the other.
* `Chain.NoInnerFrames`: the chains whose nested selectors enter no frame.

## Main Statements

* `captureOf_append`: the capture of two lists of labels.
* `readPart_of_noFrames`: without inner frames, a part is read alike behind all parts.
* `Chain.ofText_append`: what follows a selector is read with the parts of the selector before it.
* `Chain.ofText_join`: the chain of two joined selectors.
-/

namespace SelectorCode

open Selector (Error)

variable {inner : Text → Except Error Chain} {selector s t : Text}

/-! ### Captures -/

/-- The capture of two lists of parts, the second counted behind the `n` parts of the first. -/
def joinCapture (n : Nat) : Option Nat → Option Nat → Except Error (Option Nat)
  | some _, some _ => .error .secondCapture
  | some i, none => .ok (some i)
  | none, d => .ok (d.map (n + ·))

theorem capturedIndices_eq_map (k : Nat) (ls : List Label) :
    capturedIndices k ls = (capturedIndices 0 ls).map (k + ·) := by
  induction ls generalizing k with
  | nil => rfl
  | cons l ls ih =>
    have htail : capturedIndices (k + 1) ls = (capturedIndices (0 + 1) ls).map (k + ·) := by
      rw [ih (k + 1), ih (0 + 1), List.map_map]
      refine List.map_congr_left fun i _ => ?_
      rw [Function.comp_apply]
      omega
    rw [capturedIndices, capturedIndices, htail]
    split <;> simp

theorem captureOf_eq_ok_iff {ls : List Label} {capture : Option Nat} :
    captureOf ls = .ok capture ↔ capturedIndices 0 ls = capture.toList := by
  unfold captureOf
  split
  next h => rw [h]; cases capture <;> simp
  next i h => rw [h]; cases capture <;> simp
  next i j is h => rw [h]; cases capture <;> simp

/-- The capture of two lists of labels is that of one of them, unless both have one. -/
theorem captureOf_append {ls ms : List Label} {c d : Option Nat} (hls : captureOf ls = .ok c)
    (hms : captureOf ms = .ok d) : captureOf (ls ++ ms) = joinCapture ls.length c d := by
  rw [captureOf_eq_ok_iff] at hls hms
  have happend : capturedIndices 0 (ls ++ ms) = c.toList ++ d.toList.map (ls.length + ·) := by
    rw [capturedIndices_append, hls, Nat.zero_add, capturedIndices_eq_map, hms]
  rw [captureOf, happend]
  cases c <;> cases d <;> rfl

/-! ### Nested parts -/

/-- The nested selector of a part, if it has one, enters no frame. -/
def Part.NoInnerFrames (p : Part) : Prop :=
  isNestedEngine p.name = true → ∀ b x, NestedBody.ofBody? p.name p.source = some b →
    Chain.ofText b.selector = .ok x → ∀ q ∈ x.parts, q.isEnterFrame = false

/-- The nested selectors of a chain enter no frames. -/
def Chain.NoInnerFrames (c : Chain) : Prop :=
  ∀ p ∈ c.parts, p.NoInnerFrames

/-- Without inner frames there is nothing to compare with the parts before, whatever they are. -/
theorem readPart_of_noFrames {preceding preceding' : List Part} {l : Label} {p : Part}
    (hframes : p.NoInnerFrames) (h : readPart Chain.ofText selector preceding l = .ok p) :
    readPart Chain.ofText selector preceding' l = .ok p := by
  unfold readPart at h ⊢
  cases hcss : l.css? with
  | some body =>
    simp only [hcss] at h ⊢
    exact h
  | none =>
    simp only [hcss] at h ⊢
    split at h
    next hnested =>
      rw [if_pos hnested]
      obtain ⟨b, x, d, hbody, hinner, hdistance, rfl⟩ := readNested_eq_ok_iff.1 h
      have hnone := hframes hnested b x hbody hinner
      refine readNested_eq_ok_iff.2 ⟨b, x, d, hbody, hinner, hdistance, ?_⟩
      rw [withoutSharedFrames_of_no_frame preceding hnone,
        withoutSharedFrames_of_no_frame preceding' hnone]
    next hnested =>
      rw [if_neg hnested]
      exact h

/-- Without inner frames, labels are read as the same parts behind all parts. -/
theorem readParts_of_noFrames {preceding preceding' parts : List Part} {ls : List Label}
    (hframes : ∀ p ∈ parts, p.NoInnerFrames)
    (h : readParts Chain.ofText selector preceding ls = .ok (preceding ++ parts)) :
    readParts Chain.ofText selector preceding' ls = .ok (preceding' ++ parts) := by
  induction ls generalizing preceding preceding' parts with
  | nil =>
    have hnil : parts = [] := List.self_eq_append_right.1 (Except.ok.inj h)
    rw [hnil, List.append_nil]
    rfl
  | cons l ls ih =>
    rw [readParts] at h ⊢
    split at h
    next p hp =>
      -- the part of the first label stands at the head of the parts
      obtain ⟨ps, hps, -⟩ := exists_of_readParts h
      rw [List.append_assoc, List.singleton_append] at hps
      have hparts : parts = p :: ps := List.append_cancel_left hps
      subst hparts
      rw [List.append_cons preceding p ps] at h
      rw [List.append_cons preceding' p ps, readPart_of_noFrames (hframes p List.mem_cons_self) hp]
      exact ih (fun q hq => hframes q (List.mem_cons_of_mem p hq)) h
    next => cases h

/-! ### Chains -/

/-- Two chains, one after the other. Only one of them may capture a part. -/
def Chain.join (a b : Chain) : Except Error Chain :=
  (joinCapture a.parts.length a.capture b.capture).map fun capture => ⟨a.parts ++ b.parts, capture⟩

/-- A chain that has been read has as many parts as the selector has labels, of which there is at least one. -/
theorem length_parts_of_readChain {c : Chain} (h : readChain inner selector = .ok c) :
    c.parts.length = (labels selector).length := by
  have hlength := congrArg List.length (labels_of_readChain h)
  simpa [Chain.labels] using hlength

theorem labels_ne_nil (selector : Text) : labels selector ≠ [] := by
  rw [labels_eq_scan]
  simpa using scan_ne_nil none [] selector

/-- Only the first part decides whether a chain may begin so. -/
theorem checkFirst_append {ps : List Part} (hne : ps ≠ []) (h : checkFirst ps = .ok ps)
    (qs : List Part) : checkFirst (ps ++ qs) = .ok (ps ++ qs) := by
  cases ps with
  | nil => exact absurd rfl hne
  | cons p ps =>
    rw [checkFirst] at h
    rw [List.cons_append, checkFirst]
    split at h
    · cases h
    next hnested => rw [if_neg hnested]

/-- A second capture is reported before anything in a body. -/
theorem readChain_of_captureOf {e : Error} (h : captureOf (labels selector) = .error e) :
    readChain inner selector = .error e := by
  have hunfold : readChain inner selector = (captureOf (labels selector)).bind fun capture =>
      (readParts inner selector [] (labels selector)).bind fun parts =>
        (checkFirst parts).bind fun parts => .ok ⟨parts, capture⟩ := rfl
  rw [hunfold, h]
  rfl

namespace Chain

variable {a b : Chain}

/-- What follows a selector is read behind the parts of the selector before it, and its capture counts from there. -/
theorem ofText_append {ps : List Part} {d : Option Nat} (ha : Chain.ofText s = .ok a)
    (hclosed : (scan none [] s).2 = none) (hcapture : captureOf (SelectorCode.labels t) = .ok d)
    (hparts : ∀ selector, readParts Chain.ofText selector a.parts (SelectorCode.labels t) =
      .ok (a.parts ++ ps)) :
    Chain.ofText (s ++ separator ++ t) = a.join ⟨ps, d⟩ := by
  rw [Chain.ofText_eq] at ha ⊢
  have hlength := length_parts_of_readChain ha
  obtain ⟨hcaptureS, hpartsS, hfirst⟩ := readChain_eq_ok_iff.1 ha
  have hlabels : SelectorCode.labels (s ++ separator ++ t) =
      SelectorCode.labels s ++ SelectorCode.labels t := by
    rw [List.append_assoc, labels_append hclosed]
  have hcaptures : captureOf (SelectorCode.labels (s ++ separator ++ t)) =
      joinCapture a.parts.length a.capture d := by
    rw [hlabels, captureOf_append hcaptureS hcapture, hlength]
  cases hjoin : joinCapture a.parts.length a.capture d with
  | error e =>
    rw [readChain_of_captureOf (hcaptures.trans hjoin), join, hjoin]
    rfl
  | ok capture =>
    have hne : a.parts ≠ [] := by
      rw [← List.length_pos_iff, hlength, List.length_pos_iff]
      exact labels_ne_nil s
    rw [join, hjoin]
    refine readChain_eq_ok_iff.2 ⟨hcaptures.trans hjoin, ?_, checkFirst_append hne hfirst ps⟩
    rw [hlabels, readParts_append (readParts_selector hpartsS), hparts]

/-- Chains cannot be joined exactly if both capture a part. -/
theorem join_eq_error_iff {e : Error} :
    a.join b = .error e ↔ e = .secondCapture ∧ a.capture.isSome = true ∧ b.capture.isSome = true := by
  unfold join
  cases a.capture <;> cases b.capture <;> simp [joinCapture, Except.map, eq_comm]

/-- **Reading is compositional.** Two selectors, of which the first closes its quotation marks and the second enters no
frames in its nested selectors, are read together as their chains, one after the other. The only thing that can go wrong
is that both capture a part. -/
theorem ofText_join (ha : Chain.ofText s = .ok a) (hb : Chain.ofText t = .ok b)
    (hclosed : (scan none [] s).2 = none) (hframes : b.NoInnerFrames) :
    Chain.ofText (s ++ separator ++ t) = a.join b ∧
      ((∃ e : Error, Chain.ofText (s ++ separator ++ t) = .error e ∧ e.kind = .invalidSelector) ↔
        a.capture.isSome = true ∧ b.capture.isSome = true) := by
  have hb' := hb
  rw [Chain.ofText_eq] at hb'
  obtain ⟨hcapture, hparts, -⟩ := readChain_eq_ok_iff.1 hb'
  have hparts' : ∀ selector, readParts Chain.ofText selector [] (SelectorCode.labels t) =
      .ok ([] ++ b.parts) := fun _ => readParts_selector hparts
  have hjoin : Chain.ofText (s ++ separator ++ t) = a.join b :=
    ofText_append ha hclosed hcapture fun selector =>
      readParts_of_noFrames hframes (hparts' selector)
  refine ⟨hjoin, ?_⟩
  rw [hjoin]
  constructor
  · rintro ⟨e, he, -⟩
    exact (join_eq_error_iff.1 he).2
  · intro hboth
    exact ⟨.secondCapture, join_eq_error_iff.2 ⟨rfl, hboth⟩, rfl⟩

/-- A backslash at the end of the first text escapes no more than the blank of the seam, and the capture of the second
is counted behind the parts of the first. -/
theorem ofText_join_captured :
    Chain.ofText ("div\\".toList ++ separator ++ "*css=p >> internal:has=\"a >> b\"".toList) =
      .ok ⟨[.ofText Engine.css "div\\".toList, .ofText Engine.css "p".toList,
        ⟨Engine.has, .nested ⟨[.ofText Engine.css "a".toList, .ofText Engine.css "b".toList], none⟩
          none, "\"a >> b\"".toList⟩], some 1⟩ := by
  have hs : Chain.ofText "div\\".toList = .ok ⟨[.ofText Engine.css "div\\".toList], none⟩ := by
    rw [Chain.ofText_eq]
    rfl
  have hinner : Chain.ofText "a >> b".toList =
      .ok ⟨[.ofText Engine.css "a".toList, .ofText Engine.css "b".toList], none⟩ := by
    rw [Chain.ofText_eq]
    rfl
  have ht : Chain.ofText "*css=p >> internal:has=\"a >> b\"".toList =
      .ok ⟨[.ofText Engine.css "p".toList, ⟨Engine.has,
        .nested ⟨[.ofText Engine.css "a".toList, .ofText Engine.css "b".toList], none⟩ none,
        "\"a >> b\"".toList⟩], some 0⟩ := by
    have hlabels : SelectorCode.labels "*css=p >> internal:has=\"a >> b\"".toList =
        [⟨Engine.css, "p".toList, true⟩, ⟨Engine.has, "\"a >> b\"".toList, false⟩] := by decide
    have hnested : readNested Chain.ofText Engine.has "\"a >> b\"".toList
        [.ofText Engine.css "p".toList] = .ok ⟨Engine.has,
          .nested ⟨[.ofText Engine.css "a".toList, .ofText Engine.css "b".toList], none⟩ none,
          "\"a >> b\"".toList⟩ :=
      readNested_eq_ok_iff.2 ⟨⟨"a >> b".toList, none⟩, _, none, rfl, hinner, rfl, rfl⟩
    have hpart : ∀ selector, readPart Chain.ofText selector [.ofText Engine.css "p".toList]
        ⟨Engine.has, "\"a >> b\"".toList, false⟩ = .ok ⟨Engine.has,
          .nested ⟨[.ofText Engine.css "a".toList, .ofText Engine.css "b".toList], none⟩ none,
          "\"a >> b\"".toList⟩ := fun _ => hnested
    rw [Chain.ofText_eq]
    refine readChain_eq_ok_iff.2 ⟨by rw [hlabels]; rfl, ?_, rfl⟩
    have hfirst : readPart Chain.ofText "*css=p >> internal:has=\"a >> b\"".toList []
        ⟨Engine.css, "p".toList, true⟩ = .ok (.ofText Engine.css "p".toList) := rfl
    rw [hlabels, readParts, hfirst]
    simp only [List.nil_append, readParts, hpart]
    rfl
  have hframes : NoInnerFrames ⟨[.ofText Engine.css "p".toList, ⟨Engine.has,
      .nested ⟨[.ofText Engine.css "a".toList, .ofText Engine.css "b".toList], none⟩ none,
      "\"a >> b\"".toList⟩], some 0⟩ := by
    intro p hp hnested b x hbody hx
    rcases List.mem_cons.1 hp with rfl | hp
    · exact absurd hnested (by decide)
    · obtain rfl := List.mem_singleton.1 hp
      cases hbody
      cases hinner.symm.trans hx
      decide
  exact (ofText_join hs ht (by decide) hframes).1

end Chain

end SelectorCode
