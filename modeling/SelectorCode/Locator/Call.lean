import SelectorCode.Attribute.Basic
import SelectorCode.TextMatch

/-!
# Locator calls

A locator expression is a list of calls, each made on what the call before it answers. Calls are the same for every
language; only their spelling differs.

## Main Definitions

* `Base`: what a call is made on.
* `Kind`: the kinds of call.
* `Options`: the optional arguments of a call.
* `Combination`: the kinds whose argument is itself a locator expression.
* `Call`: a call.
-/

namespace SelectorCode

/-- What a call is made on. -/
inductive Base where
  | page
  | locator
  | frameLocator
deriving DecidableEq, Repr

namespace Base

/-- All bases. -/
def all : List Base := [page, locator, frameLocator]

/-- The name of a base. -/
def name : Base → Text
  | page => "page".toList
  | locator => "locator".toList
  | frameLocator => "frame-locator".toList

/-- The base that a name denotes. -/
def ofName? (name : Text) : Option Base :=
  all.find? (·.name = name)

end Base

/-- The kinds of locator call. -/
inductive Kind where
  | default
  | role
  | text
  | label
  | placeholder
  | alt
  | title
  | testId
  | nth
  | first
  | last
  | hasText
  | has
  | frame
  | or
  | and
  | not
deriving DecidableEq, Repr

namespace Kind

/-- All kinds. -/
def all : List Kind :=
  [default, role, text, label, placeholder, alt, title, testId, nth, first, last, hasText, has, frame, or, and, not]

/-- The name of a kind. -/
def name : Kind → Text
  | default => "default".toList
  | role => "role".toList
  | text => "text".toList
  | label => "label".toList
  | placeholder => "placeholder".toList
  | alt => "alt".toList
  | title => "title".toList
  | testId => "test-id".toList
  | nth => "nth".toList
  | first => "first".toList
  | last => "last".toList
  | hasText => "has-text".toList
  | has => "has".toList
  | frame => "frame".toList
  | or => "or".toList
  | and => "and".toList
  | not => "not".toList

/-- The kind that a name denotes. -/
def ofName? (name : Text) : Option Kind :=
  all.find? (·.name = name)

end Kind

/-- The optional arguments of a call. A name is written only if it is a text or a pattern; the value of an attribute
that is merely present is missing. -/
structure Options where
  exact : Option Bool
  name : Option Value
  attributes : List (Text × Option Value)
deriving DecidableEq, Repr

namespace Options

/-- No optional arguments. -/
def empty : Options := ⟨none, none, []⟩

/-- Only the mode of matching. -/
def ofExact (exact : Option Bool) : Options := ⟨exact, none, []⟩

/-- Whether an exact match is asked for. -/
def isExact (o : Options) : Bool :=
  o.exact = some true

end Options

/-- The ways in which a locator is combined with another one. -/
inductive Combination where
  | has
  | or
  | and
  | not
deriving DecidableEq, Repr

/-- The kind of call that makes a combination. -/
def Combination.kind : Combination → Kind
  | has => .has
  | or => .or
  | and => .and
  | not => .not

/-- A locator call. -/
inductive Call where
  | simple (base : Base) (kind : Kind) (target : Target) (options : Options)
  | combined (base : Base) (combination : Combination) (inner : List Call)

namespace Call

/-- What a call is made on. -/
def base : Call → Base
  | simple b _ _ _ => b
  | combined b _ _ => b

/-- The kind of a call. -/
def kind : Call → Kind
  | simple _ k _ _ => k
  | combined _ c _ => c.kind

/-- Whether a call enters a frame. -/
def entersFrame (c : Call) : Bool :=
  c.kind = .frame

end Call

end SelectorCode
