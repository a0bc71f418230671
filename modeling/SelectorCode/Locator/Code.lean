import SelectorCode.Locator.Language

/-!
# Locator code

The source code of a locator expression.

## Main Definitions

* `Kind.method`: the method that a kind of call is made by.
* `render`: the code of one call, given the code of its argument.
* `Call.code`: the code of a call.
* `code`: the code of a list of calls.
-/

namespace SelectorCode

/-- The method of a kind of call, in camel case. -/
def Kind.method : Kind → Text
  | default => "locator".toList
  | frame => "frameLocator".toList
  | nth => "nth".toList
  | first => "first".toList
  | last => "last".toList
  | role => "getByRole".toList
  | hasText => "filter".toList
  | has => "filter".toList
  | or => "or".toList
  | and => "and".toList
  | not => "not".toList
  | testId => "getByTestId".toList
  | text => "getByText".toList
  | alt => "getByAltText".toList
  | placeholder => "getByPlaceholder".toList
  | label => "getByLabel".toList
  | title => "getByTitle".toList

/-- The arguments for the accessible name of a role, which counts only if it is a text or a pattern. -/
def nameSettings (l : Language) (options : Options) : List Text :=
  match options.name with
  | some (.pattern p) => [l.setting (l.targetKey "name".toList true) (l.pattern p)]
  | some (.text t) =>
    l.setting "name".toList (l.quote t) ::
      if options.isExact then [l.setting "exact".toList (l.bool true)] else []
  | _ => []

/-- The optional arguments of a locator by role. -/
def roleSettings (l : Language) (options : Options) : List Text :=
  nameSettings l options ++ options.attributes.map fun a => l.setting a.1 (l.value a.2)

/-- A call of a method that takes a text or a pattern, and matches a text exactly when asked to. -/
def renderMatch (l : Language) (base : Base) (kind : Kind) (target : Target) (exact : Bool) : Text :=
  match target with
  | .pattern p => l.call kind.method [l.pattern p]
  | .text t =>
    l.call kind.method
      (l.quote t ::
        l.optionList base kind.method (if exact then [l.setting "exact".toList (l.bool true)] else []))

/-- A call of the filter method with one condition. -/
def renderFilter (l : Language) (base : Base) (kind : Kind) (key value : Text) : Text :=
  l.call kind.method [l.options base kind.method [l.setting key value]]

/-- Whether a target is a pattern. -/
def Target.isPattern : Target → Bool
  | text _ => false
  | pattern _ => true

/-- The code of a call. The target of a combination is the code of the locator it is combined with. -/
def render (l : Language) (base : Base) (kind : Kind) (target : Target) (options : Options) : Text :=
  match kind with
  | .default => l.call kind.method [l.quote target.written]
  | .frame => l.call kind.method [l.quote target.written]
  | .nth => l.call kind.method [target.written]
  | .first => l.property kind.method
  | .last => l.property kind.method
  | .role =>
    l.call kind.method
      (l.role target.written :: l.optionList base kind.method (roleSettings l options))
  | .hasText =>
    renderFilter l base kind (l.targetKey "hasText".toList target.isPattern) (l.target target)
  | .has => renderFilter l base kind "has".toList target.written
  | .or => l.call kind.method [target.written]
  | .and => l.call kind.method [target.written]
  | .not => l.call kind.method [target.written]
  | .testId => l.call kind.method [l.target target]
  | .text => renderMatch l base kind target options.isExact
  | .alt => renderMatch l base kind target options.isExact
  | .placeholder => renderMatch l base kind target options.isExact
  | .label => renderMatch l base kind target options.isExact
  | .title => renderMatch l base kind target options.isExact

/-- Calls joined into one expression. -/
def joinCalls (calls : List Text) : Text :=
  List.intercalate ['.'] calls

mutual

/-- The code of a call. -/
def Call.code (l : Language) : Call → Text
  | .simple base kind target options => render l base kind target options
  | .combined base combination inner =>
    render l base combination.kind (.text (joinCalls (codes l inner))) .empty

/-- The codes of calls. -/
def codes (l : Language) : List Call → List Text
  | [] => []
  | c :: cs => c.code l :: codes l cs

end

/-- The codes of a list of calls, call by call. -/
theorem codes_eq_map (l : Language) (calls : List Call) : codes l calls = calls.map (Call.code l) := by
  induction calls with
  | nil => rfl
  | cons c cs ih => rw [codes, ih, List.map_cons]

/-- The code of a locator expression. -/
def code (l : Language) (calls : List Call) : Text :=
  joinCalls (codes l calls)

end SelectorCode
