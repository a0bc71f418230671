import SelectorCode.Locator.Language
import SelectorCode.Text.Shown

/-!
# Command-line arguments

The command takes selectors and options in any order. Two hyphens end the options; a long option takes its value after
an equals sign or as the next argument; the one short option takes it directly or as the next argument.

## Main Definitions

* `Arguments`: what was given.
* `UsageError`: why arguments are refused.
* `Arguments.parse`: reads arguments.
-/

namespace SelectorCode.CommandLine

/-- What was given on the command line. An option given twice has its last value. -/
structure Arguments where
  selectors : List Text
  language : Option Text
  allLanguages : Bool
  inFrame : Bool
  tolerant : Option Bool
deriving DecidableEq, Repr

/-- Nothing given. -/
def Arguments.empty : Arguments := ⟨[], none, false, false, none⟩

/-- Why arguments are refused. -/
inductive UsageError where
  | noSuchOption (name : Text)
  | missingValue (name : Text)
  | unwantedValue (name : Text)
  | unknownLanguage (name : Text)
  | missingSelectors
deriving DecidableEq, Repr

namespace UsageError

/-- The names of all languages as they are shown. -/
def languageNames : Text :=
  List.intercalate ", ".toList (Language.all.map fun l => Text.shown l.name)

/-- The wording of a refusal. -/
def message : UsageError → Text
  | noSuchOption n => "No such option ".toList ++ Text.shown n ++ ['.']
  | missingValue n => "Option ".toList ++ Text.shown n ++ " requires an argument.".toList
  | unwantedValue n => "Option ".toList ++ Text.shown n ++ " does not take a value.".toList
  | unknownLanguage n =>
    "Invalid value for '--lang' / '-l': ".toList ++ Text.shown n ++ " is not one of ".toList ++
      languageNames ++ ['.']
  | missingSelectors => "Missing argument 'SELECTORS...'.".toList

/-- Whether a reminder of the usage goes with a refusal; it does not where an option was used wrongly. -/
def showsUsage : UsageError → Bool
  | missingValue _ => false
  | unwantedValue _ => false
  | _ => true

end UsageError

/-- What an option does. -/
inductive Effect where
  | language
  | allLanguages
  | inFrame
  | tolerant (b : Bool)
deriving DecidableEq, Repr

/-- The effect of a long option. -/
def longOption? (name : Text) : Option Effect :=
  if name = "--lang".toList then some .language
  else if name = "--all-languages".toList then some .allLanguages
  else if name = "--frame".toList then some .inFrame
  else if name = "--tolerant".toList then some (.tolerant true)
  else if name = "--strict".toList then some (.tolerant false)
  else none

/-- Sets a language; whether it exists is asked when all arguments have been read. -/
def Arguments.withLanguage (a : Arguments) (name : Text) : Arguments :=
  { a with language := some name }

/-- Turns on a flag. -/
def Arguments.withFlag (a : Arguments) : Effect → Arguments
  | .language => a
  | .allLanguages => { a with allLanguages := true }
  | .inFrame => { a with inFrame := true }
  | .tolerant b => { a with tolerant := some b }

/-- Adds selectors after those that there are. -/
def Arguments.withSelectors (a : Arguments) (selectors : List Text) : Arguments :=
  { a with selectors := a.selectors ++ selectors }

/-- The text before the first equals sign, and the text after it if there is one. -/
def splitValue (argument : Text) : Text × Option Text :=
  (argument.takeWhile (· != '='),
    match argument.dropWhile (· != '=') with
    | [] => none
    | _ :: value => some value)

/-- Whether an argument is an option rather than a selector. -/
def isOption : Text → Bool
  | '-' :: _ :: _ => true
  | _ => false

/-- The language that an option named `name` sets: the value given with it, or the next argument. What is left are the
arguments after it. -/
def takeLanguage (name : Text) (value : Option Text) (rest : List Text) :
    Except UsageError (Text × List Text) :=
  match value, rest with
  | some v, _ => .ok (v, rest)
  | none, v :: rest => .ok (v, rest)
  | none, [] => .error (.missingValue name)

/-- An option that is not a long one: `-l` with its value behind it, or nothing that is known. -/
def shortValue? (argument : Text) : Except UsageError (Option Text) :=
  match argument with
  | '-' :: '-' :: _ => .error (.noSuchOption (splitValue argument).1)
  | '-' :: c :: value =>
    if c = 'l' then .ok (if value.isEmpty then none else some value)
    else .error (.noSuchOption ['-', c])
  | _ => .error (.noSuchOption argument)

/-- The arguments after an option, and what is known after it. -/
def readOption (a : Arguments) (argument : Text) (rest : List Text) :
    Except UsageError (Arguments × List Text) :=
  let name := (splitValue argument).1
  let value := (splitValue argument).2
  match longOption? name with
  | some .language =>
    (takeLanguage name value rest).map fun p => (a.withLanguage p.1, p.2)
  | some flag =>
    if value.isSome then .error (.unwantedValue name) else .ok (a.withFlag flag, rest)
  | none =>
    match shortValue? argument with
    | .error e => .error e
    | .ok value =>
      (takeLanguage "-l".toList value rest).map fun p => (a.withLanguage p.1, p.2)

theorem takeLanguage_length {name : Text} {value : Option Text} {rest : List Text}
    {p : Text × List Text} (h : takeLanguage name value rest = .ok p) :
    p.2.length ≤ rest.length := by
  unfold takeLanguage at h
  split at h <;> cases h <;> simp

theorem readOption_length {a : Arguments} {argument : Text} {rest : List Text}
    {p : Arguments × List Text} (h : readOption a argument rest = .ok p) :
    p.2.length ≤ rest.length := by
  unfold readOption at h
  simp only at h
  split at h
  · cases ht : takeLanguage (splitValue argument).1 (splitValue argument).2 rest with
    | error e => rw [ht] at h; cases h
    | ok q =>
      rw [ht] at h
      cases h
      exact takeLanguage_length ht
  · split at h
    · cases h
    · cases h
      exact Nat.le_refl _
  · split at h
    · cases h
    next value _ =>
      cases ht : takeLanguage "-l".toList value rest with
      | error e => rw [ht] at h; cases h
      | ok q =>
        rw [ht] at h
        cases h
        exact takeLanguage_length ht

/-- Reads arguments after those that are known. -/
def Arguments.parseFrom (a : Arguments) (arguments : List Text) : Except UsageError Arguments :=
  match arguments with
  | [] => .ok a
  | argument :: rest =>
    if argument = "--".toList then .ok (a.withSelectors rest)
    else if isOption argument then
      match _h : readOption a argument rest with
      | .error e => .error e
      | .ok p => Arguments.parseFrom p.1 p.2
    else Arguments.parseFrom (a.withSelectors [argument]) rest
termination_by arguments.length
decreasing_by
  · have := readOption_length _h
    simp only [List.length_cons]
    omega
  · simp

/-- What the command has to do: the arguments with the language that was named. -/
structure Request where
  selectors : List Text
  language : Option Language
  allLanguages : Bool
  inFrame : Bool
  tolerant : Option Bool
deriving DecidableEq, Repr

/-- The language that was named, if one was. -/
def Arguments.language? (a : Arguments) : Except UsageError (Option Language) :=
  match a.language with
  | none => .ok none
  | some name =>
    match Language.ofName? name with
    | some l => .ok (some l)
    | none => .error (.unknownLanguage name)

/-- The request that arguments make. A language that does not exist counts before missing selectors. -/
def Request.ofArguments (arguments : List Text) : Except UsageError Request := do
  let a ← Arguments.empty.parseFrom arguments
  let language ← a.language?
  if a.selectors.isEmpty then .error .missingSelectors
  else return ⟨a.selectors, language, a.allLanguages, a.inFrame, a.tolerant⟩

end SelectorCode.CommandLine
