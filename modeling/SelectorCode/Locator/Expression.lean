import SelectorCode.Locator.Code
import SelectorCode.Locator.Translation
import SelectorCode.Selector.Reading

/-!
# Locator expressions

From a selector to the code that a developer would write for it.

## Main Definitions

* `Chain.code`: the code of a chain.
* `asLocator`: the code of a selector.
* `Rendering`, `asLocatorOrSelector`: the code of a selector, or the selector itself where there is none.
* `RequestError`, `requestCall`: the code of a single call whose base and kind are given by name.
-/

namespace SelectorCode

/-- The code of a chain on a page, or inside a frame locator. -/
def Chain.code (l : Language) (inFrame : Bool) (c : Chain) : Except Locator.Error Text :=
  (c.calls inFrame).map (SelectorCode.code l)

/-- The calls that a selector stands for. -/
def selectorCalls (inFrame : Bool) (selector : Text) : Except Locator.Error (List Call) :=
  match Chain.ofText selector with
  | .error e => .error (.selector e)
  | .ok c => c.calls inFrame

/-- The code of a selector on a page, or inside a frame locator. -/
def asLocator (l : Language) (inFrame : Bool) (selector : Text) : Except Locator.Error Text :=
  (selectorCalls inFrame selector).map (code l)

/-- The text for a selector, and why it is not the code of the selector if it is not. -/
structure Rendering where
  text : Text
  failure : Option Locator.Error
deriving DecidableEq, Repr

/-- The code of a selector, or the selector unchanged where it cannot be read or translated. -/
def asLocatorOrSelector (l : Language) (inFrame : Bool) (selector : Text) : Rendering :=
  match asLocator l inFrame selector with
  | .ok t => ⟨t, none⟩
  | .error e => ⟨selector, some e⟩

/-! ### Single calls -/

/-- Why a single call is refused. -/
inductive RequestError where
  | unknownBase (name : Text)
  | unknownKind (name : Text)
  /-- An attribute whose integer has more digits than are converted. -/
  | numeralTooLong
deriving DecidableEq, Repr

namespace RequestError

/-- The wording of a refusal. -/
def message : RequestError → Text
  | unknownBase n => Text.shown n ++ " is not a valid LocatorBase".toList
  | unknownKind n => "Unknown locator kind: ".toList ++ n
  | numeralTooLong => "Exceeds the limit (4300 digits) for integer string conversion".toList

/-- The class of a refusal. -/
def kind : RequestError → ErrorKind
  | unknownBase _ => .invalidArgument
  | unknownKind _ => .unknownKind
  | numeralTooLong => .invalidArgument

end RequestError

/-- The base that a request names; only Java asks which it is. -/
def requestedBase (l : Language) (base : Text) : Except RequestError Base :=
  match Base.ofName? base with
  | some b => .ok b
  | none => if l = .java then .error (.unknownBase base) else .ok .page

/-- Whether some attribute of a role is too long to be written. -/
def hasLongNumeral (options : Options) : Bool :=
  options.attributes.any fun a => a.2.any Value.isTooLong

/-- The code of a single call. -/
def requestCall (l : Language) (base kind : Text) (target : Target) (options : Options) :
    Except RequestError Text :=
  match requestedBase l base with
  | .error e => .error e
  | .ok b =>
    match Kind.ofName? kind with
    | none => .error (.unknownKind kind)
    | some k =>
      if k = .role ∧ hasLongNumeral options then .error .numeralTooLong
      else .ok (render l b k target options)

end SelectorCode
