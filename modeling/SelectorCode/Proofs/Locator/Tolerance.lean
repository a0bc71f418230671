import SelectorCode.Proofs.Locator.Rendering

/-!
# The tolerant mode

In the tolerant mode a selector that cannot be read or translated is left as it is. One failure is passed on even then: a
kind of call that the language does not know, which would be a mistake of this library and not of the selector. It never
comes up. The pass over a selector asks for calls of known kinds only, in the chain itself and in the chains within it,
and the languages answer them all, so whatever ends the pass early concerns the selector.

## Main Definitions

* `tolerate`: the pass over a selector in the tolerant mode.

## Main Statements

* `CallRequest.answer_ne_unknownKind`: no language refuses a call for its kind.
* `renderSelector_ne_request`: no call that the pass asks for is refused.
* `tolerate_eq`: the tolerant mode answers the strict result, or the selector where there is none.
-/

namespace SelectorCode

/-- The pass over a selector in the tolerant mode: an unknown kind is passed on, and whatever else fails is answered by
the selector itself. -/
def tolerate (l : Language) (inFrame : Bool) (selector : Text) : Except RequestError Text :=
  match renderSelector l inFrame selector with
  | .ok r => .ok r.text
  | .error (.request (.unknownKind name)) => .error (.unknownKind name)
  | .error _ => .ok selector

/-- Every language knows every kind. -/
theorem CallRequest.answer_ne_unknownKind (l : Language) (r : CallRequest) (name : Text) :
    r.answer l ≠ .error (.unknownKind name) := by
  intro h
  unfold CallRequest.answer requestCall requestedBase at h
  rw [Base.ofName?_name, Kind.ofName?_name] at h
  -- the one refusal that is left concerns the digits of an attribute
  by_cases hlong : r.kind = .role ∧ hasLongNumeral r.options = true
  · simp [hlong] at h
  · simp [hlong] at h

/-- No call that the pass over a selector asks for is refused, at any depth: the pass would end with the refusal. -/
theorem renderSelector_ne_request (l : Language) (inFrame : Bool) (selector : Text)
    (e : RequestError) : renderSelector l inFrame selector ≠ .error (.request e) := by
  intro h
  rw [renderSelector_eq] at h
  cases hcalls : selectorCalls inFrame selector with
  | error f =>
    rw [hcalls] at h
    cases h
  | ok cs =>
    rw [hcalls] at h
    cases h

/-- **The tolerant mode never fails and never alters a good result.** It answers what the strict mode answers, and the
selector itself where the strict mode fails; no call is refused on the way, and none would be for its kind. -/
theorem tolerate_eq (l : Language) (inFrame : Bool) (selector : Text) :
    tolerate l inFrame selector =
        .ok (match asLocator l inFrame selector with
          | .ok t => t
          | .error _ => selector) ∧
      tolerate l inFrame selector = .ok (asLocatorOrSelector l inFrame selector).text ∧
      (∀ e, renderSelector l inFrame selector ≠ .error (.request e)) ∧
      ∀ (r : CallRequest) (name : Text), r.answer l ≠ .error (.unknownKind name) := by
  have hstrict : tolerate l inFrame selector =
      .ok (match asLocator l inFrame selector with
        | .ok t => t
        | .error _ => selector) := by
    rw [tolerate, renderSelector_eq, asLocator]
    cases selectorCalls inFrame selector with
    | error f => rfl
    | ok cs => rfl
  refine ⟨hstrict, ?_, renderSelector_ne_request l inFrame selector,
    CallRequest.answer_ne_unknownKind l⟩
  rw [hstrict, asLocatorOrSelector]
  cases asLocator l inFrame selector with
  | error f => rfl
  | ok t => rfl

end SelectorCode
