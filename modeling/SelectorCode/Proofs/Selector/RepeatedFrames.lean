import SelectorCode.Proofs.Selector.Embedding
import SelectorCode.Proofs.Selector.Frames
import SelectorCode.Proofs.Selector.Joining

/-!
# Repeated frames

A nested selector may begin with the frames that the selector around it has entered. The repetition is recognised by how
it is printed and dropped, so that the nested selector is read as if it began inside the frame. The cut comes behind the
last frame marker of the nested chain; whatever stands between the frames and the nested engine, the parts compared with
it are those of the frames.

## Main Definitions

* `EndsInside`: the lists of parts that end with a frame marker.
* `nestedIn`: a selector followed by a nested engine with another selector.
* `Chain.IsFramePath`: the selectors that lead into a frame.
* `Chain.IsFrameless`: the selectors that enter no frame at any place where frames are compared.

## Main Statements

* `framePrefix_append_of_endsInside`: where parts with a frame path in front are cut.
* `withoutSharedFrames_append`: a frame path is dropped behind itself.
* `Chain.ofText_nestedIn`: what a nested engine with a literal is read as.
* `Chain.IsFramePath.ofText_nestedIn`: with the frames repeated it is read as without.
-/

namespace SelectorCode

variable {ps qs more : List Part} {outer inner frames name : Text} {c f x y : Chain}

/-! ### The cut -/

/-- The lists of parts that end with a frame marker. -/
def EndsInside (ps : List Part) : Prop :=
  ∃ p, ps.getLast? = some p ∧ p.isEnterFrame = true

/-- The end of a list goes back to the last element that is not asked for. -/
theorem rtakeWhile_append_cons {α : Type} {g : α → Bool} {a : α} {as bs : List α}
    (ha : g a = false) (hbs : ∀ b ∈ bs, g b = true) : (as ++ a :: bs).rtakeWhile g = bs := by
  have hreverse : (as ++ a :: bs).reverse = bs.reverse ++ a :: as.reverse := by simp
  have hall : ∀ b ∈ bs.reverse, g b = true := fun b hb => hbs b (List.mem_reverse.1 hb)
  rw [List.rtakeWhile, hreverse, List.takeWhile_append_of_pos hall,
    List.takeWhile_cons_of_neg (by simp [ha]), List.append_nil, List.reverse_reverse]

/-- Parts that end with a frame marker are cut from parts that have none. -/
theorem framePrefix_append_of_endsInside (hps : EndsInside ps)
    (hqs : ∀ q ∈ qs, q.isEnterFrame = false) : framePrefix (ps ++ qs) = (ps, qs) := by
  obtain ⟨p, hlast, hmarker⟩ := hps
  obtain ⟨init, rfl⟩ := List.getLast?_eq_some_iff.1 hlast
  have hsnd : (framePrefix (init ++ [p] ++ qs)).2 = qs := by
    rw [framePrefix_snd, List.append_assoc]
    exact rtakeWhile_append_cons (by simp [hmarker]) fun q hq => by simp [hqs q hq]
  have happend := framePrefix_append (init ++ [p] ++ qs)
  rw [hsnd] at happend
  exact Prod.ext (List.append_cancel_right happend) hsnd

/-- A nested chain that begins with the parts before it, up to a frame marker, loses them. -/
theorem withoutSharedFrames_append {capture : Option Nat} (hps : EndsInside ps)
    (hqs : ∀ q ∈ qs, q.isEnterFrame = false) :
    withoutSharedFrames (ps ++ more) ⟨ps ++ qs, capture⟩ = ⟨qs, capture⟩ := by
  have hcut := framePrefix_append_of_endsInside hps hqs
  unfold withoutSharedFrames
  rw [hcut]
  cases ps with
  | nil =>
    obtain ⟨p, hlast, -⟩ := hps
    cases hlast
  | cons p ps =>
    have hsame : printedAlike (p :: ps) ((p :: ps ++ more).take (p :: ps).length) = true := by
      rw [List.take_left]
      exact decide_eq_true rfl
    exact if_pos hsame

/-! ### Reading -/

/-- A selector followed by a nested engine with another selector as a literal. -/
def nestedIn (outer name inner : Text) : Text :=
  outer ++ separator ++ (name ++ '=' :: Text.literal .double inner)

namespace Chain

/-- A selector that leads into a frame: it ends with a frame marker, captures nothing and closes its quotation marks. -/
structure IsFramePath (frames : Text) (f : Chain) : Prop where
  read : Chain.ofText frames = .ok f
  capture_eq_none : f.capture = none
  endsInside : EndsInside f.parts
  closed : (scan none [] frames).2 = none

/-- A selector that enters no frame, nor does a selector nested in one of its parts; and it captures nothing. -/
structure IsFrameless (inner : Text) (x : Chain) : Prop where
  read : Chain.ofText inner = .ok x
  capture_eq_none : x.capture = none
  isEnterFrame_eq_false : ∀ p ∈ x.parts, p.isEnterFrame = false
  noInnerFrames : x.NoInnerFrames

/-- A nested engine with a literal, behind any selector whose quotation marks are closed, is read as one more part. It
holds the chain of the literal, less the frames that it shares with the selector. -/
theorem ofText_nestedIn (houter : Chain.ofText outer = .ok c) (hclosed : (scan none [] outer).2 = none)
    (hinner : Chain.ofText inner = .ok y) (hname : name ∈ Engine.nested) :
    Chain.ofText (nestedIn outer name inner) =
      .ok ⟨c.parts ++ [⟨name, .nested (withoutSharedFrames c.parts y) none,
        Text.literal .double inner⟩], c.capture⟩ := by
  have hlabels := labels_nested hname inner
  have hcapture : captureOf (SelectorCode.labels (name ++ '=' :: Text.literal .double inner)) =
      .ok none := by
    rw [hlabels]
    rfl
  have hparts : ∀ selector, readParts Chain.ofText selector c.parts
      (SelectorCode.labels (name ++ '=' :: Text.literal .double inner)) =
      .ok (c.parts ++ [⟨name, .nested (withoutSharedFrames c.parts y) none,
        Text.literal .double inner⟩]) := by
    intro selector
    rw [hlabels, readParts, readPart_literal hinner hname]
    rfl
  rw [nestedIn, ofText_append houter hclosed hcapture hparts, join]
  cases c.capture <;> rfl

/-- Behind a frame path, a selector without frames is read as the parts of both. -/
theorem IsFramePath.ofText_append (hframes : IsFramePath frames f) (hinner : IsFrameless inner x) :
    Chain.ofText (frames ++ separator ++ inner) = .ok ⟨f.parts ++ x.parts, none⟩ := by
  have hread := hinner.read
  rw [Chain.ofText_eq] at hread
  obtain ⟨hcapture, hparts, -⟩ := readChain_eq_ok_iff.1 hread
  have hparts' : ∀ selector, readParts Chain.ofText selector f.parts (SelectorCode.labels inner) =
      .ok (f.parts ++ x.parts) := by
    intro selector
    have hfirst : readParts Chain.ofText selector [] (SelectorCode.labels inner) =
        .ok ([] ++ x.parts) := readParts_selector hparts
    exact readParts_of_noFrames hinner.noInnerFrames hfirst
  rw [Chain.ofText_append hframes.read hframes.closed hcapture hparts', join,
    hframes.capture_eq_none, hinner.capture_eq_none]
  rfl

/-- What goes on behind a frame path begins with its parts. -/
theorem IsFramePath.exists_parts_append (hframes : IsFramePath frames f)
    (houter : outer = frames ∨ ∃ after, outer = frames ++ separator ++ after)
    (hc : Chain.ofText outer = .ok c) : ∃ more, c.parts = f.parts ++ more := by
  rcases houter with rfl | ⟨after, rfl⟩
  · cases hframes.read.symm.trans hc
    exact ⟨[], (List.append_nil _).symm⟩
  · have hread := hframes.read
    rw [Chain.ofText_eq] at hread hc
    have hparts := (readChain_eq_ok_iff.1 hread).2.1
    have hparts' := (readChain_eq_ok_iff.1 hc).2.1
    rw [List.append_assoc, labels_append hframes.closed,
      readParts_append (readParts_selector hparts)] at hparts'
    obtain ⟨more, hmore, -⟩ := exists_of_readParts hparts'
    exact ⟨more, hmore⟩

/-- With the frames around it repeated, a nested selector is read as the same chain as without. -/
theorem IsFramePath.ofText_nestedIn (hframes : IsFramePath frames f)
    (hinner : IsFrameless inner x)
    (houter : outer = frames ∨ ∃ after, outer = frames ++ separator ++ after)
    (hc : Chain.ofText outer = .ok c) (hclosed : (scan none [] outer).2 = none)
    (hname : name ∈ Engine.nested) :
    Chain.ofText (nestedIn outer name (frames ++ separator ++ inner)) =
      .ok ⟨c.parts ++ [⟨name, .nested x none,
        Text.literal .double (frames ++ separator ++ inner)⟩], c.capture⟩ := by
  obtain ⟨more, hmore⟩ := hframes.exists_parts_append houter hc
  have hdropped : withoutSharedFrames c.parts ⟨f.parts ++ x.parts, none⟩ = x := by
    rw [hmore, withoutSharedFrames_append hframes.endsInside hinner.isEnterFrame_eq_false,
      ← hinner.capture_eq_none]
    cases x
    rfl
  rw [Chain.ofText_nestedIn hc hclosed (hframes.ofText_append hinner) hname, hdropped]

end Chain

end SelectorCode
