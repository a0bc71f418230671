import SelectorCode.Pattern.Fault
import SelectorCode.Selector.Label
import SelectorCode.Selector.NestedBody
import SelectorCode.Selector.Printer
import SelectorCode.Selector.Split

/-!
# Reading chains

A selector is split into chunks, each chunk is given its engine, and the bodies of nested engines are read as
selectors in turn.

## Main Definitions

* `Selector.Error`: why a selector is refused, with its wording and its class.
* `captureOf`: the captured part of a list of labels.
* `framePrefix`: the beginning of a chain up to its last frame marker.
* `withoutSharedFrames`: a nested chain without a repetition of the frames around it.
* `readPart`, `readParts`: parts from labels.
* `Chain.ofText`: the chain that a text describes.
* `Chain.ofText_eq`: the equation of the recursion.

## Design Notes

All labels precede all parts: a second star is reported before anything in a body. The text of a nested selector is
always shorter than the text around it, so the test of lengths in `Chain.ofText` never fails.
-/

namespace SelectorCode

/-! ### Errors -/

namespace Selector

/-- Why a selector is refused. -/
inductive Error where
  | secondCapture
  | emptyCss (selector : Text)
  | nestedFirst (name : Text)
  | malformed (name body : Text)
  /-- A distance beyond the range of doubles. -/
  | distanceTooLarge
deriving DecidableEq, Repr

namespace Error

/-- The wording of an error. -/
def message : Error → Text
  | secondCapture => "Only one of the selectors can capture using * modifier".toList
  | emptyCss s => "Empty css selector in \x60".toList ++ s ++ ['\x60']
  | nestedFirst n => '"' :: n ++ "\" selector cannot be first".toList
  | malformed n b => "Malformed selector: ".toList ++ n ++ '=' :: b
  | distanceTooLarge => "The distance is too large".toList

/-- The class of an error. -/
def kind : Error → ErrorKind
  | distanceTooLarge => .invalidData
  | _ => .invalidSelector

end Error

end Selector

open Selector (Error)

/-! ### Parts of a chain -/

/-- The indices of the captured labels, counted from `index`. -/
def capturedIndices (index : Nat) : List Label → List Nat
  | [] => []
  | l :: ls => if l.captured then index :: capturedIndices (index + 1) ls
    else capturedIndices (index + 1) ls

/-- The index of the captured label; there may be at most one. -/
def captureOf (labels : List Label) : Except Error (Option Nat) :=
  match capturedIndices 0 labels with
  | [] => .ok none
  | [i] => .ok (some i)
  | _ :: _ :: _ => .error .secondCapture

/-- A list of parts cut after its last frame marker; without one, everything comes after the cut. -/
def framePrefix : List Part → List Part × List Part
  | [] => ([], [])
  | p :: ps =>
    match framePrefix ps with
    | ([], rest) => if p.isEnterFrame then ([p], rest) else ([], p :: rest)
    | (q :: qs, rest) => (p :: q :: qs, rest)

/-- Cutting loses no part. -/
theorem framePrefix_append (ps : List Part) :
    (framePrefix ps).1 ++ (framePrefix ps).2 = ps := by
  induction ps with
  | nil => rfl
  | cons p ps ih =>
    rw [framePrefix]
    split
    next rest h =>
      rw [h] at ih
      split <;> simp_all
    next q qs rest h =>
      rw [h] at ih
      simp_all

/-- Whether two lists of parts are printed alike. -/
def printedAlike (ps qs : List Part) : Bool :=
  Chain.text false ⟨ps, none⟩ = Chain.text false ⟨qs, none⟩

/-- A nested chain may repeat the frames that the parts before it have entered; the repetition is dropped. -/
def withoutSharedFrames (preceding : List Part) (inner : Chain) : Chain :=
  match framePrefix inner.parts with
  | ([], _) => inner
  | (p :: ps, rest) =>
    if printedAlike (p :: ps) (preceding.take (p :: ps).length) then ⟨rest, inner.capture⟩ else inner

/-- The double of a distance as written. -/
def distanceOf : Number → Except Error Binary64
  | .float x => .ok x
  | .int n =>
    match Binary64.ofInt? n with
    | some x => .ok x
    | none => .error .distanceTooLarge

/-- An optional distance. -/
def optionalDistance : Option Number → Except Error (Option Binary64)
  | none => .ok none
  | some n => (distanceOf n).map some

/-- The style-sheet selector that a label stands for, if it is one. -/
def Label.css? (l : Label) : Option Text :=
  if l.name = Engine.css then some l.body
  else if l.name = Engine.cssLight then some (":light(".toList ++ l.body ++ [')'])
  else none

section

variable (inner : Text → Except Error Chain)

/-- The part of a nested engine after the parts `preceding`. -/
def readNested (name body : Text) (preceding : List Part) : Except Error Part :=
  match NestedBody.ofBody? name body with
  | none => .error (.malformed name body)
  | some b => do
    let chain ← inner b.selector
    let distance ← optionalDistance b.distance
    return ⟨name, .nested (withoutSharedFrames preceding chain) distance, body⟩

/-- The part of a label after the parts `preceding`. -/
def readPart (selector : Text) (preceding : List Part) (l : Label) : Except Error Part :=
  match l.css? with
  | some body =>
    if Text.isAllBlank body then .error (.emptyCss selector) else .ok (.ofText Engine.css body)
  | none =>
    if isNestedEngine l.name then readNested inner l.name l.body preceding
    else .ok (.ofText l.name l.body)

/-- The parts `preceding` and those of the labels after them. -/
def readParts (selector : Text) (preceding : List Part) : List Label → Except Error (List Part)
  | [] => .ok preceding
  | l :: ls =>
    match readPart inner selector preceding l with
    | .ok p => readParts selector (preceding ++ [p]) ls
    | .error e => .error e

/-- Refuses a chain that begins with a nested engine. -/
def checkFirst (parts : List Part) : Except Error (List Part) :=
  match parts with
  | [] => .ok []
  | p :: ps => if isNestedEngine p.name then .error (.nestedFirst p.name) else .ok (p :: ps)

/-- The chain that a text describes, when `inner` reads the selectors nested in it. -/
def readChain (selector : Text) : Except Error Chain := do
  let labels := (chunks selector).map Label.ofChunk
  let capture ← captureOf labels
  let parts ← readParts inner selector [] labels
  let parts ← checkFirst parts
  return ⟨parts, capture⟩

end

/-! ### Nested selectors are shorter -/

section

variable {f g : Text → Except Error Chain}

/-- A nested part depends only on how the selector in its body is read. -/
theorem readNested_congr {name body : Text} {preceding : List Part}
    (h : ∀ b, NestedBody.ofBody? name body = some b → f b.selector = g b.selector) :
    readNested f name body preceding = readNested g name body preceding := by
  unfold readNested
  split
  · rfl
  next b hb => rw [h b hb]

theorem readPart_congr {selector : Text} {preceding : List Part} {l : Label}
    (h : isNestedEngine l.name = true →
      ∀ b, NestedBody.ofBody? l.name l.body = some b → f b.selector = g b.selector) :
    readPart f selector preceding l = readPart g selector preceding l := by
  unfold readPart
  split
  · rfl
  · split
    next hnested => exact readNested_congr (h hnested)
    next => rfl

theorem readParts_congr {selector : Text} {preceding : List Part} {ls : List Label}
    (h : ∀ l ∈ ls, isNestedEngine l.name = true →
      ∀ b, NestedBody.ofBody? l.name l.body = some b → f b.selector = g b.selector) :
    readParts f selector preceding ls = readParts g selector preceding ls := by
  induction ls generalizing preceding with
  | nil => rfl
  | cons l ls ih =>
    rw [readParts, readParts, readPart_congr (h l List.mem_cons_self)]
    split
    · exact ih fun m hm => h m (List.mem_cons_of_mem _ hm)
    · rfl

/-- Reading a chain depends only on how the selectors in the bodies of its nested engines are read. -/
theorem readChain_congr {selector : Text}
    (h : ∀ l ∈ (chunks selector).map Label.ofChunk, isNestedEngine l.name = true →
      ∀ b, NestedBody.ofBody? l.name l.body = some b → f b.selector = g b.selector) :
    readChain f selector = readChain g selector := by
  simp only [readChain, readParts_congr h]

/-- The selector in the body of a nested engine is shorter than the selector around it, by the marks that quote it. -/
theorem length_add_two_le_of_ofBody? {selector : Text} {l : Label} {b : NestedBody}
    (hl : l ∈ (chunks selector).map Label.ofChunk)
    (hb : NestedBody.ofBody? l.name l.body = some b) :
    b.selector.length + 2 ≤ selector.length := by
  obtain ⟨c, hc, rfl⟩ := List.mem_map.1 hl
  calc
    b.selector.length + 2 ≤ (Label.ofChunk c).body.length :=
      NestedBody.length_selector_of_ofBody? hb
    _ ≤ c.length := Label.length_body_ofChunk_le c
    _ ≤ selector.length := length_le_of_mem_chunks hc

end

/-- The chain that a text describes. A nested selector is read in the same way; it is shorter than the text around
it, by the marks that quote it. -/
def Chain.ofText (selector : Text) : Except Error Chain :=
  readChain
    (fun t => if _h : t.length < selector.length then Chain.ofText t else .error (.malformed [] t))
    selector
termination_by selector.length

/-- A chain is read with the same reader for the selectors nested in it. -/
theorem Chain.ofText_eq (selector : Text) :
    Chain.ofText selector = readChain Chain.ofText selector := by
  rw [Chain.ofText]
  refine readChain_congr fun l hl _ b hb => dif_pos ?_
  have hlength := length_add_two_le_of_ofBody? hl hb
  omega

end SelectorCode
