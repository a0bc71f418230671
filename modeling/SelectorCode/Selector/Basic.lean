import SelectorCode.Number.Basic

/-!
# Selector chains

A selector is a chain of parts, each an engine with a body: `engine=body >> engine=body`. The body of some engines
is itself a selector.

## Main Definitions

* `Chain`, `Part`, `Body`: a chain, its parts, and what a part is applied to.
* `Engine`: the names of the engines that are treated specially.
* `isNestedEngine`, `takesDistance`: the engines whose body is a selector, and those of them that limit a distance.
* `Part.isEnterFrame`: the marker that continues a chain inside a frame.
* `Chain.depth`: how deeply chains are nested.
-/

namespace SelectorCode

mutual

/-- Parts that are applied one after the other; one of them may be the part whose matches are captured. -/
structure Chain where
  parts : List Part
  capture : Option Nat

/-- What an engine is applied to: a text, or a chain with an optional distance. -/
inductive Body where
  | text (t : Text)
  | nested (inner : Chain) (distance : Option Binary64)

/-- An engine and its body, with the text that the body was read from. -/
structure Part where
  name : Text
  body : Body
  source : Text

end

/-! ### Equality -/

mutual

/-- Equality of chains is decidable. -/
def Chain.decEq : (a b : Chain) → Decidable (a = b)
  | ⟨ps, c⟩, ⟨qs, d⟩ =>
    match Part.decEqList ps qs, decEq c d with
    | isTrue hp, isTrue hc => isTrue (by rw [hp, hc])
    | isFalse hp, _ => isFalse fun h => hp (Chain.mk.inj h).1
    | _, isFalse hc => isFalse fun h => hc (Chain.mk.inj h).2

/-- Equality of lists of parts is decidable. -/
def Part.decEqList : (ps qs : List Part) → Decidable (ps = qs)
  | [], [] => isTrue rfl
  | [], _ :: _ => isFalse (List.cons_ne_nil _ _).symm
  | _ :: _, [] => isFalse (List.cons_ne_nil _ _)
  | p :: ps, q :: qs =>
    match Part.decEq p q, Part.decEqList ps qs with
    | isTrue hp, isTrue hs => isTrue (by rw [hp, hs])
    | isFalse hp, _ => isFalse fun h => hp (List.cons.inj h).1
    | _, isFalse hs => isFalse fun h => hs (List.cons.inj h).2

/-- Equality of parts is decidable. -/
def Part.decEq : (p q : Part) → Decidable (p = q)
  | ⟨n, b, s⟩, ⟨m, c, t⟩ =>
    match decEq n m, Body.decEq b c, decEq s t with
    | isTrue hn, isTrue hb, isTrue hs => isTrue (by rw [hn, hb, hs])
    | isFalse hn, _, _ => isFalse fun h => hn (Part.mk.inj h).1
    | _, isFalse hb, _ => isFalse fun h => hb (Part.mk.inj h).2.1
    | _, _, isFalse hs => isFalse fun h => hs (Part.mk.inj h).2.2

/-- Equality of bodies is decidable. -/
def Body.decEq : (a b : Body) → Decidable (a = b)
  | .text s, .text t =>
    match decEq s t with
    | isTrue h => isTrue (by rw [h])
    | isFalse h => isFalse fun g => h (Body.text.inj g)
  | .text _, .nested _ _ => isFalse fun h => by cases h
  | .nested _ _, .text _ => isFalse fun h => by cases h
  | .nested c x, .nested d y =>
    match Chain.decEq c d, decEq x y with
    | isTrue hc, isTrue hx => isTrue (by rw [hc, hx])
    | isFalse hc, _ => isFalse fun h => hc (Body.nested.inj h).1
    | _, isFalse hx => isFalse fun h => hx (Body.nested.inj h).2

end

instance : Inhabited Chain := ⟨⟨[], none⟩⟩
instance : Inhabited Part := ⟨⟨[], .text [], []⟩⟩

instance : DecidableEq Chain := Chain.decEq
instance : DecidableEq Part := Part.decEq
instance : DecidableEq Body := Body.decEq

/-! ### Engines -/

namespace Engine

/-- Matches by a style-sheet selector. -/
def css : Text := "css".toList

/-- Matches by a style-sheet selector without looking into shadow trees. -/
def cssLight : Text := "css:light".toList

/-- Matches by a path. -/
def xpath : Text := "xpath".toList

/-- Matches by text. -/
def text : Text := "text".toList

/-- Picks one match by its index. -/
def nth : Text := "nth".toList

/-- Carries the marker that enters a frame. -/
def control : Text := "internal:control".toList

/-- Keeps the matches that contain a match of a selector. -/
def has : Text := "internal:has".toList

/-- Keeps the matches that contain no match of a selector. -/
def hasNot : Text := "internal:has-not".toList

/-- Keeps the matches that a selector matches as well. -/
def and : Text := "internal:and".toList

/-- Adds the matches of a selector. -/
def or : Text := "internal:or".toList

/-- Keeps the matches that a selector does not match. -/
def not : Text := "internal:not".toList

/-- Goes on with a selector inside the matches. -/
def chain : Text := "internal:chain".toList

/-- Keeps the matches to the left of a match of a selector. -/
def leftOf : Text := "left-of".toList

/-- Keeps the matches to the right of a match of a selector. -/
def rightOf : Text := "right-of".toList

/-- Keeps the matches above a match of a selector. -/
def above : Text := "above".toList

/-- Keeps the matches below a match of a selector. -/
def below : Text := "below".toList

/-- Keeps the matches near a match of a selector. -/
def near : Text := "near".toList

/-- The engines that relate positions on a page. -/
def layout : List Text := [leftOf, rightOf, above, below, near]

/-- The engines whose body is a selector. -/
def nested : List Text := [has, hasNot, and, or, not, chain] ++ layout

end Engine

/-- Whether the body of an engine is a selector. -/
def isNestedEngine (name : Text) : Bool :=
  Engine.nested.contains name

/-- Whether an engine accepts a greatest distance beside its selector. -/
def takesDistance (name : Text) : Bool :=
  Engine.layout.contains name

namespace Part

/-- A part whose body is a text. -/
def ofText (name body : Text) : Part :=
  ⟨name, .text body, body⟩

/-- The body of the marker that enters a frame. -/
def enterFrameBody : Text := "enter-frame".toList

/-- Whether a part continues the chain inside the frame found so far. -/
def isEnterFrame (p : Part) : Bool :=
  p.name = Engine.control && p.body = .text enterFrameBody

/-- Whether a part picks a match by index. -/
def isNth (p : Part) : Bool :=
  p.name = Engine.nth

end Part

/-! ### Depth -/

mutual

/-- The number of chains nested in one another below a chain. -/
def Chain.depth : Chain → Nat
  | ⟨parts, _⟩ => Part.depths parts

/-- The greatest depth of the parts of a list. -/
def Part.depths : List Part → Nat
  | [] => 0
  | p :: ps => max p.depth (Part.depths ps)

/-- The depth of a part. -/
def Part.depth : Part → Nat
  | ⟨_, body, _⟩ => body.depth

/-- The depth of a body, one more than that of the chain in it. -/
def Body.depth : Body → Nat
  | .text _ => 0
  | .nested inner _ => inner.depth + 1

end

theorem Chain.depth_eq (c : Chain) : c.depth = Part.depths c.parts := by
  cases c
  rw [Chain.depth]

/-- A part is nested no more deeply than a list that holds it. -/
theorem Part.depth_le_depths {p : Part} {ps : List Part} (h : p ∈ ps) :
    p.depth ≤ Part.depths ps := by
  induction ps with
  | nil => cases h
  | cons q qs ih =>
    rw [Part.depths]
    rcases List.mem_cons.1 h with rfl | h
    · exact Nat.le_max_left ..
    · exact Nat.le_trans (ih h) (Nat.le_max_right ..)

/-- A chain in the body of a part is nested less deeply than the part. -/
theorem Part.depth_of_nested {p : Part} {c : Chain} {d : Option Binary64}
    (h : p.body = .nested c d) : p.depth = Part.depths c.parts + 1 := by
  obtain ⟨name, body, source⟩ := p
  cases h
  rw [Part.depth, Body.depth, Chain.depth_eq]

end SelectorCode
