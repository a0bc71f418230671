import SelectorCode.Proofs.Locator.Joining

/-!
# An index next to a frame marker

Parts are translated with the frame markers in front of the indices next to them, so it makes no difference which of the
two is written first. What stands around the two has no part in this unless it forms a pair with one of them: an index
that ends the parts before changes places with the marker if the marker is written first, and a marker that begins the
parts behind changes places with the index if the index is written last. Then the two orders do differ.

## Main Definitions

* `EndsUnindexed`: the lists that do not end with an index.

## Main Statements

* `framesFirst_append_index`, `framesFirst_append_marker`: lists are put in order up to an index and up to a marker.
* `endsUnindexed_of_exchange`, `beginsOutside_of_exchange`: where an index and a marker may change places.
* `partsCode_congr`: parts that are translated in the same order have the same code.
* `framesFirst_exchange`: where they may, and that the code is the same then.
-/

namespace SelectorCode

variable {n e : Part} {ps qs : List Part}

/-! ### Putting frames first around an index and a marker -/

/-- The lists that do not end with an index. -/
def EndsUnindexed (ps : List Part) : Prop :=
  ∀ p, ps.getLast? = some p → p.isNth = false

theorem ne_of_isEnterFrame (hn : n.isNth = true) (he : e.isEnterFrame = true) : n ≠ e := by
  rintro rfl
  exact Bool.noConfusion (hn.symm.trans (isNth_of_isEnterFrame he))

/-- A list that begins with an index does not begin with a frame marker. -/
theorem beginsOutside_of_isNth (hn : n.isNth = true) (qs : List Part) : BeginsOutside (n :: qs) := by
  intro p hp
  cases hp
  exact Bool.eq_false_iff.2 fun he => ne_of_isEnterFrame hn he rfl

/-- In front of an index the parts are put in order on their own. -/
theorem framesFirst_append_index (hn : n.isNth = true) (ps qs : List Part) :
    framesFirst (ps ++ n :: qs) = framesFirst ps ++ framesFirst (n :: qs) :=
  framesFirst_append (beginsOutside_of_isNth hn qs)

/-- So they are in front of a marker, unless they end with an index; the marker stays. -/
theorem framesFirst_append_marker (he : e.isEnterFrame = true) (hps : EndsUnindexed ps) (qs : List Part) :
    framesFirst (ps ++ e :: qs) = framesFirst ps ++ e :: framesFirst qs := by
  rw [framesFirst_append_of_seam fun p hp q _ => by rw [hps p hp, Bool.false_and],
    framesFirst_cons_of_isEnterFrame he]

/-- Behind an index that stays the parts are put in order on their own. -/
theorem framesFirst_cons_of_beginsOutside (hqs : BeginsOutside qs) (n : Part) :
    framesFirst (n :: qs) = n :: framesFirst qs := by
  rw [← List.singleton_append, framesFirst_append hqs]
  rfl

/-- An index in front of a marker changes places with it. -/
theorem framesFirst_pair (hn : n.isNth = true) (he : e.isEnterFrame = true) (qs : List Part) :
    framesFirst (n :: e :: qs) = e :: n :: framesFirst qs := by
  rw [framesFirst, if_pos (by rw [hn, he, Bool.and_true])]

/-! ### Exchanging an index and a marker -/

/-- Behind another index the marker would change places with that one. -/
theorem endsUnindexed_of_exchange (hn : n.isNth = true) (he : e.isEnterFrame = true)
    (h : framesFirst (ps ++ n :: e :: qs) = framesFirst (ps ++ e :: n :: qs)) : EndsUnindexed ps := by
  intro p hp
  obtain ⟨us, rfl⟩ := List.getLast?_eq_some_iff.1 hp
  by_contra hindex
  have hp : p.isNth = true := by simpa using hindex
  rw [List.append_assoc, List.append_assoc, List.singleton_append, List.singleton_append,
    framesFirst_append_index hp, framesFirst_append_index hp,
    framesFirst_cons_of_beginsOutside (beginsOutside_of_isNth hn (e :: qs)), framesFirst_pair hp he] at h
  exact ne_of_isEnterFrame hp he (List.cons.inj (List.append_cancel_left h)).1

/-- In front of another marker the index would change places with that one. -/
theorem beginsOutside_of_exchange (hn : n.isNth = true) (he : e.isEnterFrame = true)
    (hps : EndsUnindexed ps)
    (h : framesFirst (ps ++ n :: e :: qs) = framesFirst (ps ++ e :: n :: qs)) : BeginsOutside qs := by
  intro q hq
  obtain ⟨us, rfl⟩ := List.head?_eq_some_iff.1 hq
  by_contra hmarker
  have hq : q.isEnterFrame = true := by simpa using hmarker
  rw [framesFirst_append_index hn, framesFirst_pair hn he, framesFirst_append_marker he hps,
    framesFirst_cons_of_isEnterFrame hq, framesFirst_pair hn hq] at h
  have htail := (List.cons.inj (List.append_cancel_left h)).2
  exact ne_of_isEnterFrame hn hq (List.cons.inj htail).1

/-- Parts that are translated in the same order have the same code. -/
theorem partsCode_congr (h : framesFirst ps = framesFirst qs) (l : Language) (base : Base) :
    partsCode l base ps = partsCode l base qs := by
  rw [partsCode, partsCode, calls_eq, calls_eq, h]

/-- **An index and a frame marker commute** exactly where the parts before do not end with an index and the parts behind
do not begin with a frame marker. There the code is the same in both orders, or the error. -/
theorem framesFirst_exchange (hn : n.isNth = true) (he : e.isEnterFrame = true) (ps qs : List Part) :
    (framesFirst (ps ++ [n, e] ++ qs) = framesFirst (ps ++ [e, n] ++ qs) ↔
      EndsUnindexed ps ∧ BeginsOutside qs) ∧
    (EndsUnindexed ps → BeginsOutside qs → ∀ l base,
      partsCode l base (ps ++ [n, e] ++ qs) = partsCode l base (ps ++ [e, n] ++ qs)) := by
  have hcommute : EndsUnindexed ps → BeginsOutside qs →
      framesFirst (ps ++ [n, e] ++ qs) = framesFirst (ps ++ [e, n] ++ qs) := by
    intro hps hqs
    rw [List.append_assoc, List.append_assoc]
    calc framesFirst (ps ++ n :: e :: qs)
        = framesFirst ps ++ e :: n :: framesFirst qs := by
          rw [framesFirst_append_index hn, framesFirst_pair hn he]
      _ = framesFirst (ps ++ e :: n :: qs) := by
          rw [framesFirst_append_marker he hps, framesFirst_cons_of_beginsOutside hqs]
  refine ⟨⟨fun h => ?_, fun h => hcommute h.1 h.2⟩, fun hps hqs => partsCode_congr (hcommute hps hqs)⟩
  rw [List.append_assoc, List.append_assoc] at h
  have hps := endsUnindexed_of_exchange hn he h
  exact ⟨hps, beginsOutside_of_exchange hn he hps h⟩

/-- A part in a frame that is picked by its index. -/
def inPickedFrame : List Part :=
  [.ofText Engine.css "a".toList, .ofText Engine.nth "0".toList,
    .ofText Engine.control Part.enterFrameBody, .ofText Engine.css "b".toList]

/-- Behind a pair that changes places, and in front of another index. -/
theorem framesFirst_exchange_pickedFrame :
    framesFirst (inPickedFrame ++
        [.ofText Engine.nth "-1".toList, .ofText Engine.control Part.enterFrameBody] ++
          [.ofText Engine.nth "2".toList]) =
      framesFirst (inPickedFrame ++
        [.ofText Engine.control Part.enterFrameBody, .ofText Engine.nth "-1".toList] ++
          [.ofText Engine.nth "2".toList]) ∧
    partsCode .python .page (inPickedFrame ++
        [.ofText Engine.nth "-1".toList, .ofText Engine.control Part.enterFrameBody] ++
          [.ofText Engine.nth "2".toList]) =
      .ok "frame_locator(\"a\").first.frame_locator(\"b\").last.nth(2)".toList := by
  have hends : EndsUnindexed inPickedFrame := by
    intro p hp
    cases hp
    rfl
  have hbegins := beginsOutside_of_isNth (n := .ofText Engine.nth "2".toList) rfl []
  obtain ⟨hiff, hcode⟩ := framesFirst_exchange (n := .ofText Engine.nth "-1".toList) rfl
    isEnterFrame_marker inPickedFrame [.ofText Engine.nth "2".toList]
  refine ⟨hiff.2 ⟨hends, hbegins⟩, (hcode hends hbegins .python .page).trans ?_⟩
  rw [partsCode, calls_eq]
  exact eq_ok_of_toOption_eq_some (by decide +kernel)

end SelectorCode
