import SelectorCode.Proofs.Selector.Joining
import SelectorCode.Proofs.Selector.Within

/-!
# Nested chains and their selectors

The chain in the body of a part has been read from the selector that the source of the part holds. It may be shorter
than this selector: where it repeats the frames that the parts before it have entered, everything up to its last frame
marker has been taken away. What is left is the end of the chain, but its capture is left as it was and still counts
from the beginning of the selector. So the capture is the index of the part with the star exactly if nothing is
captured or nothing has been taken away.

## Main Definitions

* `Chain.ReadWithin`: the chains in a chain, at every depth, each with its selector.
* `Chain.IsReadFrom`: what has been read from a selector, with or without its frames.
* `Chain.partChunks`: the chunks that the parts of a chain have been read from.
* `IsStarred`, `Chain.DesignatesStar`: a chunk with a star, and a capture that is the index of its part.

## Main Statements

* `Chain.exists_readWithin`: every chain in a chain has a selector.
* `Chain.ReadWithin.isReadFrom`: it has been read from this selector.
* `Chain.IsReadFrom.map_partChunks`: the parts of a chain and their chunks have the same engines and sources.
* `Chain.designatesStar_iff`: when the capture of a chain is the index of the part with the star.
-/

namespace SelectorCode

open Selector (Error)

variable {s t : Text} {c x : Chain}

/-! ### Every depth -/

/-- The chains in a chain, each with the selector that it has been read from: the chain itself, and those in the bodies
of its parts, whose selectors are held by the sources of the parts. -/
inductive Chain.ReadWithin : Chain → Text → Chain → Text → Prop
  | refl (c : Chain) (s : Text) : ReadWithin c s c s
  | body {x inner outer : Chain} {t s : Text} {p : Part} {d : Option Binary64} {b : NestedBody}
      (mem : p ∈ outer.parts) (body_eq : p.body = .nested inner d)
      (source_eq : NestedBody.ofBody? p.name p.source = some b)
      (within : ReadWithin x t inner b.selector) : ReadWithin x t outer s

/-- What has been read from a selector: its chain, or the end of the chain behind the last frame marker. The capture is
that of the selector in both cases. -/
def Chain.IsReadFrom (t : Text) (x : Chain) : Prop :=
  ∃ y, Chain.ofText t = .ok y ∧
    (x = y ∨ (framePrefix y.parts).1 ≠ [] ∧ x = ⟨(framePrefix y.parts).2, y.capture⟩)

/-- Shared frames are taken away together with everything before them, or there are none. -/
theorem withoutSharedFrames_cases (preceding : List Part) (x : Chain) :
    withoutSharedFrames preceding x = x ∨
      (framePrefix x.parts).1 ≠ [] ∧
        withoutSharedFrames preceding x = ⟨(framePrefix x.parts).2, x.capture⟩ := by
  unfold withoutSharedFrames
  split
  · exact Or.inl rfl
  next p ps rest hcut =>
    split
    · rw [hcut]
      exact Or.inr ⟨List.cons_ne_nil p ps, rfl⟩
    · exact Or.inl rfl

namespace Chain

/-- What has been read is the end of the chain of its selector. -/
theorem IsReadFrom.suffix (h : x.IsReadFrom t) :
    ∃ y, Chain.ofText t = .ok y ∧ x.parts <:+ y.parts ∧ x.capture = y.capture := by
  obtain ⟨y, hy, rfl | ⟨-, rfl⟩⟩ := h
  · exact ⟨x, hy, List.suffix_refl x.parts, rfl⟩
  · exact ⟨y, hy, ⟨(framePrefix y.parts).1, framePrefix_append y.parts⟩, rfl⟩

/-- One step down: the source of a nested part holds the selector of the chain in its body. -/
theorem IsReadFrom.body {inner : Chain} {p : Part} {d : Option Binary64} (h : c.IsReadFrom s)
    (hp : p ∈ c.parts) (hbody : p.body = .nested inner d) :
    ∃ b, NestedBody.ofBody? p.name p.source = some b ∧ inner.IsReadFrom b.selector := by
  obtain ⟨y, hy, hsuffix, -⟩ := h.suffix
  obtain ⟨before, l, -, hread⟩ := Chain.exists_readPart hy (hsuffix.mem hp)
  rcases readPart_cases hread with ⟨body, -, -, rfl⟩ | ⟨-, -, hnested⟩ | ⟨-, -, rfl⟩
  · cases hbody
  · obtain ⟨b, z, e, hb, hz, -, rfl⟩ := readNested_eq_ok_iff.1 hnested
    cases hbody
    exact ⟨b, hb, z, hz, withoutSharedFrames_cases before z⟩
  · cases hbody

/-- Every chain in a chain that has been read has a selector. -/
theorem exists_readWithin (h : c.IsReadFrom s) (hwithin : x.Within c) :
    ∃ t, x.ReadWithin t c s := by
  induction hwithin generalizing s with
  | refl => exact ⟨s, .refl _ s⟩
  | body hp hbody _ ih =>
    obtain ⟨b, hb, hinner⟩ := h.body hp hbody
    obtain ⟨t, ht⟩ := ih hinner
    exact ⟨t, .body hp hbody hb ht⟩

/-- **Every chain in a chain that has been read has been read from its selector.** -/
theorem ReadWithin.isReadFrom (hwithin : x.ReadWithin t c s) (h : c.IsReadFrom s) :
    x.IsReadFrom t := by
  induction hwithin with
  | refl => exact h
  | body hp hbody hsource _ ih =>
    obtain ⟨b, hb, hinner⟩ := h.body hp hbody
    cases hsource.symm.trans hb
    exact ih hinner

/-! ### Parts and chunks -/

/-- The chunks that the parts of a chain have been read from: those of the selector, without as many at the beginning as
parts have been taken away. -/
def partChunks (x : Chain) (t : Text) : List Text :=
  (chunks t).drop ((chunks t).length - x.parts.length)

/-- A chain has as many parts as its selector has chunks. -/
theorem length_parts_of_ofText (h : Chain.ofText t = .ok x) :
    x.parts.length = (chunks t).length := by
  rw [Chain.ofText_eq] at h
  rw [length_parts_of_readChain h, SelectorCode.labels, List.length_map]

/-- Parts may be missing at the beginning, and nowhere else. -/
theorem IsReadFrom.length_parts_le (h : x.IsReadFrom t) : x.parts.length ≤ (chunks t).length := by
  obtain ⟨y, hy, hsuffix, -⟩ := h.suffix
  rw [← length_parts_of_ofText hy]
  exact hsuffix.length_le

/-- **Part by part, a chain has the engines and the sources of its chunks.** -/
theorem IsReadFrom.map_partChunks (h : x.IsReadFrom t) :
    (x.partChunks t).map (fun k => ((Label.ofChunk k).normal.name, (Label.ofChunk k).normal.body)) =
      x.parts.map fun p => (p.name, p.source) := by
  obtain ⟨y, hy, hsuffix, -⟩ := h.suffix
  have hlength := length_parts_of_ofText hy
  rw [Chain.ofText_eq] at hy
  obtain ⟨ps, hps, hkeys⟩ := exists_of_readParts (readChain_eq_ok_iff.1 hy).2.1
  rw [List.nil_append] at hps
  rw [← hps, SelectorCode.labels, List.map_map] at hkeys
  -- the parts of the chain are the last ones of the parts of its selector
  rw [partChunks, List.map_drop, ← hlength, List.suffix_iff_eq_drop.1 hsuffix, List.length_drop,
    List.map_drop, hkeys]
  congr 1
  have := hsuffix.length_le
  omega

end Chain

/-! ### Captures -/

/-- A chunk with a star in front of its engine. -/
def IsStarred (chunk : Text) : Prop :=
  ∃ name body, Label.named? (Text.trim chunk) = some ('*' :: name, body)

/-- The captured labels are those of the chunks with a star. -/
theorem captured_ofChunk_iff {chunk : Text} :
    (Label.ofChunk chunk).captured = true ↔ IsStarred chunk := by
  unfold IsStarred
  cases hnamed : Label.named? (Text.trim chunk) with
  | none =>
    have hlabel : Label.ofChunk chunk =
        Label.ofName (Label.impliedEngine (Text.trim chunk)) (Text.trim chunk) := by
      simp only [Label.ofChunk, hnamed]
    rcases Label.ofName_cases (Label.impliedEngine (Text.trim chunk)) (Text.trim chunk) with
      ⟨rest, hstar, -⟩ | ⟨-, hplain⟩
    · exact absurd hstar ((Label.impliedEngine_ne _).1.2 rest)
    · simp [hlabel, hplain]
  | some q =>
    obtain ⟨name, body⟩ := q
    have hlabel : Label.ofChunk chunk = Label.ofName name body := by
      simp only [Label.ofChunk, hnamed]
    rcases Label.ofName_cases name body with ⟨rest, rfl, hstar⟩ | ⟨hne, hplain⟩
    · simp [hlabel, hstar]
    · simp [hlabel, hplain, hne]

/-- The capture of a chain is the index of the part with the star. -/
structure Chain.DesignatesStar (x : Chain) (t : Text) : Prop where
  /-- Nothing is captured exactly if no chunk of the selector has a star. -/
  eq_none_iff : x.capture = none ↔ ∀ k ∈ chunks t, ¬ IsStarred k
  /-- Otherwise the capture is the index of a part, and the chunk of this part has the star. -/
  isStarred : ∀ i, x.capture = some i →
    ∃ p k, x.parts[i]? = some p ∧ (x.partChunks t)[i]? = some k ∧ IsStarred k

namespace Chain

/-- The capture counts from the beginning of the selector, whatever has been taken away. -/
theorem IsReadFrom.capture_eq_some_iff (h : x.IsReadFrom t) {i : Nat} :
    x.capture = some i ↔ ∃ k, (chunks t)[i]? = some k ∧ IsStarred k := by
  obtain ⟨y, hy, -, hcapture⟩ := h.suffix
  rw [Chain.ofText_eq] at hy
  have hcaptured := captureOf_eq_ok_iff.1 (readChain_eq_ok_iff.1 hy).1
  have hmem : y.capture = some i ↔ i ∈ capturedIndices 0 (SelectorCode.labels t) := by
    rw [hcaptured]
    simp
  rw [hcapture, hmem, mem_capturedIndices]
  simp only [SelectorCode.labels, List.getElem?_map, Option.map_eq_some_iff, Nat.zero_add]
  constructor
  · rintro ⟨j, l, ⟨k, hk, rfl⟩, hstar, rfl⟩
    exact ⟨k, hk, captured_ofChunk_iff.1 hstar⟩
  · rintro ⟨k, hk, hstar⟩
    exact ⟨i, Label.ofChunk k, ⟨k, hk, rfl⟩, captured_ofChunk_iff.2 hstar, rfl⟩

theorem IsReadFrom.capture_eq_none_iff (h : x.IsReadFrom t) :
    x.capture = none ↔ ∀ k ∈ chunks t, ¬ IsStarred k := by
  rw [Option.eq_none_iff_forall_ne_some]
  constructor
  · intro hnone k hk hstar
    obtain ⟨i, hi⟩ := List.mem_iff_getElem?.1 hk
    exact hnone i (h.capture_eq_some_iff.2 ⟨k, hi, hstar⟩)
  · intro hnone i hi
    obtain ⟨k, hk, hstar⟩ := h.capture_eq_some_iff.1 hi
    exact hnone k (List.mem_of_getElem? hk) hstar

/-- **When the capture is right.** The capture of a chain that has been read is the index of the part with the star
exactly if nothing is captured, or nothing has been taken away. -/
theorem IsReadFrom.designates_iff (h : x.IsReadFrom t) :
    x.DesignatesStar t ↔ x.capture = none ∨ x.parts.length = (chunks t).length := by
  have hle := h.length_parts_le
  constructor
  · intro hstar
    cases hcapture : x.capture with
    | none => exact Or.inl rfl
    | some i =>
      obtain ⟨-, k, -, hk, hstarred⟩ := hstar.isStarred i hcapture
      -- the star is `i` chunks behind the cut, and it is `i` chunks behind the beginning
      rw [partChunks, List.getElem?_drop] at hk
      have hcut := h.capture_eq_some_iff.2 ⟨k, hk, hstarred⟩
      rw [hcapture, Option.some.injEq] at hcut
      exact Or.inr (by omega)
  · intro hright
    refine ⟨h.capture_eq_none_iff, fun i hi => ?_⟩
    have hlength : x.parts.length = (chunks t).length := by
      rcases hright with hnone | hlength
      · rw [hnone] at hi
        cases hi
      · exact hlength
    obtain ⟨k, hk, hstarred⟩ := h.capture_eq_some_iff.1 hi
    have hlt : i < x.parts.length := by
      rw [hlength]
      exact (List.getElem?_eq_some_iff.1 hk).1
    refine ⟨x.parts[i], k, List.getElem?_eq_getElem hlt, ?_, hstarred⟩
    rw [partChunks, hlength, Nat.sub_self, List.drop_zero, hk]

/-- **The capture of a chain, at every depth.** Every chain in a chain that has been read has a selector. Its capture
is the index of the chunk with the star in this selector, if there is one. This is the index of the part with the star
exactly if nothing is captured or no frames have been taken away, as is the case for the chain as a whole. -/
theorem designatesStar_iff (h : Chain.ofText s = .ok c) :
    c.DesignatesStar s ∧ (∀ x : Chain, x.Within c → ∃ t, x.ReadWithin t c s) ∧
      ∀ (x : Chain) (t : Text), x.ReadWithin t c s →
        (∀ i, x.capture = some i ↔ ∃ k, (chunks t)[i]? = some k ∧ IsStarred k) ∧
          (x.DesignatesStar t ↔ x.capture = none ∨ x.parts.length = (chunks t).length) := by
  have hread : c.IsReadFrom s := ⟨c, h, Or.inl rfl⟩
  refine ⟨?_, ?_, ?_⟩
  · exact hread.designates_iff.2 (Or.inr (length_parts_of_ofText h))
  · intro x hwithin
    exact exists_readWithin hread hwithin
  · intro x t hwithin
    have hx := hwithin.isReadFrom hread
    exact ⟨fun i => hx.capture_eq_some_iff, hx.designates_iff⟩

/-- Without frames, the star of a nested selector stays with its part. -/
theorem designatesStar_has :
    Chain.ofText "a >> internal:has=\"b >> *css=c\"".toList =
        .ok ⟨[.ofText Engine.css "a".toList, ⟨Engine.has,
          .nested ⟨[.ofText Engine.css "b".toList, .ofText Engine.css "c".toList], some 1⟩ none,
          "\"b >> *css=c\"".toList⟩], none⟩ ∧
      DesignatesStar ⟨[.ofText Engine.css "b".toList, .ofText Engine.css "c".toList], some 1⟩
        "b >> *css=c".toList := by
  refine (fun hread => ⟨hread, ?_⟩) (eq_ok_of_toOption_eq_some (by decide +kernel))
  obtain ⟨-, -, hall⟩ := designatesStar_iff hread
  have hwithin := hall ⟨[.ofText Engine.css "b".toList, .ofText Engine.css "c".toList], some 1⟩
    "b >> *css=c".toList
    (.body (List.mem_cons_of_mem _ List.mem_cons_self) rfl rfl (.refl _ _))
  exact hwithin.2.2 (Or.inr rfl)

/-- Not every capture is the index of the part with the star: when the two parts of a frame are taken away in front of
it, the capture is still two, and only one part is left. -/
theorem not_designatesStar :
    ¬ ∀ (s : Text) (c : Chain), Chain.ofText s = .ok c →
      ∀ (x : Chain) (t : Text), x.ReadWithin t c s → x.DesignatesStar t := by
  intro h
  have hread : Chain.ofText ("a >> internal:control=enter-frame >> ".toList ++
        "internal:has=\"a >> internal:control=enter-frame >> *css=b\"".toList) =
      .ok ⟨[.ofText Engine.css "a".toList, .ofText Engine.control Part.enterFrameBody,
        ⟨Engine.has, .nested ⟨[.ofText Engine.css "b".toList], some 2⟩ none,
          "\"a >> internal:control=enter-frame >> *css=b\"".toList⟩], none⟩ :=
    eq_ok_of_toOption_eq_some (by decide +kernel)
  have hstar := h _ _ hread ⟨[.ofText Engine.css "b".toList], some 2⟩
    "a >> internal:control=enter-frame >> *css=b".toList
    (.body (List.mem_cons_of_mem _ (List.mem_cons_of_mem _ List.mem_cons_self)) rfl rfl
      (.refl _ _))
  obtain ⟨p, -, hp, -⟩ := hstar.isStarred 2 rfl
  cases hp

end Chain

end SelectorCode
