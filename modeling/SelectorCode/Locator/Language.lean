import SelectorCode.Locator.Call
import SelectorCode.Text.Literal
import SelectorCode.Text.Naming

/-!
# Languages

The languages that locator expressions are written in, and how each of them spells names, texts, patterns, truth
values and optional arguments.

## Main Definitions

* `Language`: the languages.
* `Language.member`: the name of a method or property.
* `Language.quote`, `Language.pattern`, `Language.value`: literals.
* `Language.setting`, `Language.options`: optional arguments.
* `Language.role`: the role that a locator looks for.
-/

namespace SelectorCode

/-- A language that locator expressions are written in. -/
inductive Language where
  | javascript
  | python
  | java
  | csharp
deriving DecidableEq, Repr

namespace Language

/-- All languages, in the order in which they are listed. -/
def all : List Language := [javascript, python, java, csharp]

/-- The name of a language. -/
def name : Language → Text
  | javascript => "javascript".toList
  | python => "python".toList
  | java => "java".toList
  | csharp => "csharp".toList

/-- The language that a name denotes. -/
def ofName? (name : Text) : Option Language :=
  all.find? (·.name = name)

/-! ### Names -/

/-- A name in camel case as the language spells the names of methods and properties. -/
def respell (l : Language) (camel : Text) : Text :=
  match l with
  | javascript => camel
  | python => Text.snakeCase camel
  | java => camel
  | csharp => Text.titleCase camel

/-- Names of methods that are keywords in Python. -/
def keywords : List Text :=
  ["or".toList, "and".toList, "not".toList]

/-- The name of a method; one that is a keyword is told apart by an underscore. -/
def method (l : Language) (camel : Text) : Text :=
  if l = python ∧ camel ∈ keywords then l.respell camel ++ ['_'] else l.respell camel

/-! ### Literals -/

/-- The mark that delimits strings. -/
def delimiter : Language → Text.Delimiter
  | javascript => .single
  | _ => .double

/-- The literal of a text. -/
def quote (l : Language) (t : Text) : Text :=
  Text.literal l.delimiter t

/-- The literal of a truth value. -/
def bool (l : Language) (b : Bool) : Text :=
  match l with
  | python => if b then "True".toList else "False".toList
  | _ => if b then "true".toList else "false".toList

/-- A source without the backslashes before slashes. -/
def unescapeSlashes : Text → Text
  | '\\' :: '/' :: r => '/' :: unescapeSlashes r
  | c :: r => c :: unescapeSlashes r
  | [] => []

/-- A source with a backslash before every double quotation mark. -/
def escapeMarks (t : Text) : Text :=
  t.flatMap fun c => if c = '"' then ['\\', c] else [c]

/-- The contents of the raw string that holds a source in Python. -/
def rawSource (source : Text) : Text :=
  escapeMarks (unescapeSlashes source)

/-- A second argument that turns on matching without regard to case, when a pattern asks for it. -/
def caseFlag (p : Pattern) (flag : Text) : Text :=
  if p.ignoresCase then ", ".toList ++ flag else []

/-- The expression for a pattern. -/
def pattern (l : Language) (p : Pattern) : Text :=
  match l with
  | javascript => p.text
  | python =>
    "re.compile(r\"".toList ++ rawSource p.source ++ ['"'] ++
      caseFlag p "re.IGNORECASE".toList ++ [')']
  | java =>
    "Pattern.compile(".toList ++ l.quote p.source ++
      caseFlag p "Pattern.CASE_INSENSITIVE".toList ++ [')']
  | csharp =>
    "new Regex(".toList ++ l.quote p.source ++
      caseFlag p "RegexOptions.IgnoreCase".toList ++ [')']

/-- The expression for a value; a missing one is `None`. -/
def value (l : Language) : Option Value → Text
  | none => "None".toList
  | some (.text t) => l.quote t
  | some (.bool b) => l.bool b
  | some (.number n) => n.text
  | some (.pattern p) => l.pattern p

/-- The expression for what a locator looks for. -/
def target (l : Language) : Target → Text
  | .text t => l.quote t
  | .pattern p => l.pattern p

/-! ### Calls and optional arguments -/

/-- A call of a method with its arguments. -/
def call (l : Language) (camel : Text) (arguments : List Text) : Text :=
  l.method camel ++ '(' :: List.intercalate ", ".toList arguments ++ [')']

/-- A call of a method without arguments, which some languages write as a property. -/
def property (l : Language) (camel : Text) : Text :=
  match l with
  | javascript => l.call camel []
  | java => l.call camel []
  | _ => l.method camel

/-- One optional argument. -/
def setting (l : Language) (key value : Text) : Text :=
  match l with
  | javascript => l.respell key ++ ": ".toList ++ value
  | python => l.respell key ++ '=' :: value
  | java => ".set".toList ++ Text.titleCase key ++ '(' :: value ++ [')']
  | csharp => l.respell key ++ " = ".toList ++ value

/-- The class that a receiver's options are nested in, in Java. -/
def receiverClass : Base → Text
  | .page => "Page".toList
  | .locator => "Locator".toList
  | .frameLocator => "FrameLocator".toList

/-- The optional arguments of a method called on `base`, as one argument. -/
def options (l : Language) (base : Base) (camel : Text) (settings : List Text) : Text :=
  match l with
  | javascript => "\x7b ".toList ++ List.intercalate ", ".toList settings ++ " \x7d".toList
  | python => List.intercalate ", ".toList settings
  | java =>
    "new ".toList ++ receiverClass base ++ '.' :: Text.titleCase camel ++ "Options()".toList ++
      settings.flatten
  | csharp => "new() \x7b ".toList ++ List.intercalate ", ".toList settings ++ " \x7d".toList

/-- The optional arguments as a list of at most one argument. -/
def optionList (l : Language) (base : Base) (camel : Text) (settings : List Text) : List Text :=
  if settings.isEmpty then [] else [l.options base camel settings]

/-- The key of an argument that is a text or a pattern; C# has a property of its own for patterns. -/
def targetKey (l : Language) (key : Text) (isPattern : Bool) : Text :=
  if l = csharp ∧ isPattern then key ++ "Regex".toList else key

/-- The expression for a role. -/
def role (l : Language) (role : Text) : Text :=
  match l with
  | javascript => l.quote role
  | python => l.quote role
  | java => "AriaRole.".toList ++ Text.upper (Text.snakeCase role)
  | csharp => "AriaRole.".toList ++ Text.titleCase role

end Language

end SelectorCode
