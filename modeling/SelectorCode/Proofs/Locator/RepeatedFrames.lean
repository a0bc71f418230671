import SelectorCode.Proofs.Locator.Joining
import SelectorCode.Proofs.Locator.Subexpression
import SelectorCode.Proofs.Selector.RepeatedFrames

/-!
# The code of repeated frames

The call of an engine that combines locators is made from the chain in its body alone; the text that the chain was read
from does not show. A selector whose last part repeats the frames around it is read with the same chain in the body as
without the repetition, and so it has the same code, or fails in the same way.

## Main Statements

* `calls_append_combination`: the source of a combination at the end of a list does not matter.
* `Chain.IsFramePath.repeated_eq`: repeating the frames around a nested selector changes nothing.
-/

namespace SelectorCode

open Locator (Error)

variable {base : Base} {combination : Combination} {outer inner frames name : Text}
  {c f x : Chain}

/-! ### Sources -/

/-- The engines that combine locators. -/
def Engine.combining : List Text := [Engine.has, Engine.or, Engine.and, Engine.not]

theorem exists_combination : ∀ name ∈ Engine.combining, ∃ k, combination? name = some k := by
  simp only [Engine.combining, List.forall_mem_cons, List.not_mem_nil, false_implies, implies_true,
    and_true]
  exact ⟨⟨.has, rfl⟩, ⟨.or, rfl⟩, ⟨.and, rfl⟩, ⟨.not, rfl⟩⟩

/-- The part of a combination becomes its one call. -/
theorem calls_singleton_of_combination {p : Part} (hk : combination? p.name = some combination) :
    calls base [p] =
      (combinedCall (fun c => calls .locator c.parts) base combination p).map fun call => [call] := by
  have horder : framesFirst [p] = [p] := rfl
  rw [calls_eq, horder, walk, specialCall?_of_combination hk]
  cases combinedCall (fun c => calls .locator c.parts) base combination p with
  | error e => rfl
  | ok call => rfl

/-- A combination at the end of a list is translated alike, whatever text its part was read from. -/
theorem calls_append_combination (hk : combination? name = some combination) (ps : List Part)
    (chain : Chain) (d : Option Binary64) (s t : Text) :
    calls base (ps ++ [⟨name, .nested chain d, s⟩]) =
      calls base (ps ++ [⟨name, .nested chain d, t⟩]) := by
  have hseam : ∀ source, BeginsOutside (framesFirst [⟨name, .nested chain d, source⟩]) := by
    rintro source p ⟨⟩
    exact isEnterFrame_of_combination hk
  have hcall : ∀ base, calls base [⟨name, .nested chain d, s⟩] =
      calls base [⟨name, .nested chain d, t⟩] := by
    intro base
    rw [calls_singleton_of_combination hk, calls_singleton_of_combination hk]
    rfl
  rw [calls_append (hseam s), calls_append (hseam t)]
  simp only [hcall]

/-! ### Repeated frames -/

/-- **Repeating the frames around a nested selector changes nothing.** Behind a frame path, or anything that goes on from
it, a selector without frames may be nested with the frame path in front or without. Both are read, as chains that differ
only in the source of their last part; and if the engine combines locators, both have the same code or the same error. -/
theorem Chain.IsFramePath.repeated_eq (hframes : IsFramePath frames f) (hinner : IsFrameless inner x)
    (houter : outer = frames ∨ ∃ after, outer = frames ++ separator ++ after)
    (hc : Chain.ofText outer = .ok c) (hclosed : (scan none [] outer).2 = none)
    (hname : name ∈ Engine.nested) :
    Chain.ofText (nestedIn outer name (frames ++ separator ++ inner)) =
        .ok ⟨c.parts ++ [⟨name, .nested x none,
          Text.literal .double (frames ++ separator ++ inner)⟩], c.capture⟩ ∧
      Chain.ofText (nestedIn outer name inner) =
        .ok ⟨c.parts ++ [⟨name, .nested x none, Text.literal .double inner⟩], c.capture⟩ ∧
      (name ∈ Engine.combining → ∀ l inFrame,
        asLocator l inFrame (nestedIn outer name (frames ++ separator ++ inner)) =
          asLocator l inFrame (nestedIn outer name inner)) := by
  have hrepeated := hframes.ofText_nestedIn hinner houter hc hclosed hname
  have hplain := Chain.ofText_nestedIn hc hclosed hinner.read hname
  rw [withoutSharedFrames_of_no_frame c.parts hinner.isEnterFrame_eq_false] at hplain
  refine ⟨hrepeated, hplain, fun hcombining l inFrame => ?_⟩
  obtain ⟨k, hk⟩ := exists_combination name hcombining
  rw [asLocator, asLocator, selectorCalls, selectorCalls, hrepeated, hplain]
  exact congrArg (Except.map (SelectorCode.code l)) (calls_append_combination hk c.parts x none _ _)

/-- A frame and a part behind it, with an engine that filters by what stands in the frame. -/
theorem Chain.IsFramePath.repeated_eq_filter :
    let frames := "iframe >> internal:control=enter-frame".toList
    let outer := frames ++ separator ++ "div".toList
    let framed := frames ++ separator ++ "span".toList
    let parts := [.ofText Engine.css "iframe".toList, .ofText Engine.control Part.enterFrameBody,
      .ofText Engine.css "div".toList]
    let x : Chain := ⟨[.ofText Engine.css "span".toList], none⟩
    Chain.ofText (nestedIn outer Engine.has framed) =
        .ok ⟨parts ++ [⟨Engine.has, .nested x none, Text.literal .double framed⟩], none⟩ ∧
      Chain.ofText (nestedIn outer Engine.has "span".toList) =
        .ok ⟨parts ++ [⟨Engine.has, .nested x none, "\"span\"".toList⟩], none⟩ ∧
      ∀ l, asLocator l false (nestedIn outer Engine.has framed) =
        asLocator l false (nestedIn outer Engine.has "span".toList) := by
  have hframes : IsFramePath "iframe >> internal:control=enter-frame".toList
      ⟨[.ofText Engine.css "iframe".toList, .ofText Engine.control Part.enterFrameBody], none⟩ :=
    { read := by
        rw [Chain.ofText_eq]
        rfl
      capture_eq_none := rfl
      endsInside := ⟨_, rfl, isEnterFrame_marker⟩
      closed := by decide }
  have hinner : IsFrameless "span".toList ⟨[.ofText Engine.css "span".toList], none⟩ :=
    { read := by
        rw [Chain.ofText_eq]
        rfl
      capture_eq_none := rfl
      isEnterFrame_eq_false := by decide
      noInnerFrames := by
        intro p hp hnested
        obtain rfl := List.mem_singleton.1 hp
        exact absurd hnested (by decide) }
  have hc : Chain.ofText ("iframe >> internal:control=enter-frame".toList ++ separator ++
      "div".toList) = .ok ⟨[.ofText Engine.css "iframe".toList, .ofText Engine.control Part.enterFrameBody,
        .ofText Engine.css "div".toList], none⟩ := by
    rw [Chain.ofText_eq]
    rfl
  have hname : Engine.has ∈ Engine.nested := by decide
  obtain ⟨hrepeated, hplain, hcode⟩ :=
    hframes.repeated_eq hinner (Or.inr ⟨_, rfl⟩) hc (by decide) hname
  exact ⟨hrepeated, hplain, fun l => hcode (by decide) l false⟩

end SelectorCode
