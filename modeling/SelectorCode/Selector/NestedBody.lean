import SelectorCode.Json.Number
import SelectorCode.Selector.Basic

/-!
# Bodies of nested engines

The body of a nested engine is a JSON string that holds a selector, for some engines followed by a comma and a
distance.

## Main Definitions

* `NestedBody`: the selector text and the distance.
* `NestedBody.ofText?`: reads a body.
* `NestedBody.length_selector_lt`: the selector text is shorter than the body, at least by its quotation marks.
-/

namespace SelectorCode

/-- What the body of a nested engine holds. -/
structure NestedBody where
  selector : Text
  distance : Option Number
deriving DecidableEq, Repr

namespace NestedBody

/-- What may follow the selector: nothing, or a comma and a number. -/
def tail? (t : Text) : Option (Option Number) :=
  match Json.skipSpaces t with
  | [] => some none
  | ',' :: r =>
    match Json.number? (Json.skipSpaces r) with
    | some (n, rest) => if (Json.skipSpaces rest).isEmpty then some (some n) else none
    | none => none
  | _ => none

/-- Reads a body. -/
def ofText? (t : Text) : Option NestedBody :=
  match Json.skipSpaces t with
  | '"' :: r =>
    match Json.quoted? r with
    | some (selector, rest) => (tail? rest).map fun d => ⟨selector, d⟩
    | none => none
  | _ => none

/-- Reads the body of an engine, which must take a distance if there is one. -/
def ofBody? (name body : Text) : Option NestedBody :=
  (ofText? body).filter fun b => b.distance.isNone || takesDistance name

/-- The selector is shorter than the body, at least by its two quotation marks. -/
theorem length_selector_lt {t : Text} {b : NestedBody} (h : ofText? t = some b) :
    b.selector.length + 2 ≤ t.length := by
  unfold ofText? at h
  split at h
  next r hr =>
    split at h
    next hq =>
      obtain ⟨d, _, rfl⟩ := Option.map_eq_some_iff.1 h
      exact Json.length_add_two_le hr hq
    · cases h
  · cases h

/-- The selector in the body of an engine is shorter than the body. -/
theorem length_selector_of_ofBody? {name body : Text} {b : NestedBody}
    (h : ofBody? name body = some b) : b.selector.length + 2 ≤ body.length :=
  length_selector_lt (Option.filter_eq_some_iff.1 h).1

end NestedBody

end SelectorCode
