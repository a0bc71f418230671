import SelectorCode.Locator.Language

/-!
# Settings

Settings come from the environment. Its variables are validated first, which gives every setting a value of its type. How
that is done is left open: a validation is a function that settings are read with. Then the level of the log has to be
one that is known.

## Main Definitions

* `Environment`: variables in the order in which they came into being.
* `LogLevel`: the levels of log records.
* `Settings`: the settings.
* `Settings.Values`: the values that an environment gives to the settings.
* `Settings.Validation`: a way to find them.
* `Settings.Error`: why an environment has no settings.
* `Settings.read`: the settings of an environment, read with a validation.
* `Settings.validate`: a validation by name, word by word.

## Design Notes

`Settings.validate` is what the command is run with. It reads variables whose names begin with `LOCATORGEN_`, in any case.
Nothing that is proved of settings depends on it.
-/

namespace SelectorCode

/-! ### Environment -/

/-- Variables in the order in which they came into being. -/
abbrev Environment := List (Text × Text)

namespace Environment

/-- Gives a variable a value; a variable that exists keeps its place. -/
def set (name value : Text) : Environment → Environment
  | [] => [(name, value)]
  | (n, v) :: r => if n = name then (n, value) :: r else (n, v) :: set name value r

/-- Removes a variable. -/
def unset (name : Text) (env : Environment) : Environment :=
  env.filter fun v => v.1 ≠ name

/-- The value of the last variable whose name in lower case is `name`. -/
def find? (name : Text) (env : Environment) : Option Text :=
  (env.reverse.find? fun v => Text.lower v.1 = name).map (·.2)

end Environment

/-! ### Levels -/

/-- How grave a log record is. -/
inductive LogLevel where
  | critical
  | error
  | warning
  | info
  | debug
  | notSet
deriving DecidableEq, Repr

namespace LogLevel

/-- The weight of a level. -/
def weight : LogLevel → Nat
  | critical => 50
  | error => 40
  | warning => 30
  | info => 20
  | debug => 10
  | notSet => 0

/-- The names of levels; two levels have two. -/
def names : List (Text × LogLevel) :=
  [("CRITICAL".toList, critical), ("FATAL".toList, critical), ("ERROR".toList, error),
    ("WARN".toList, warning), ("WARNING".toList, warning), ("INFO".toList, info),
    ("DEBUG".toList, debug), ("NOTSET".toList, notSet)]

/-- The level that a name in any case denotes. -/
def ofName? (name : Text) : Option LogLevel :=
  names.lookup (Text.upper name)

/-- The least weight of the records that are written; where no level is set, that of a warning. -/
def threshold (l : LogLevel) : Nat :=
  if l = notSet then warning.weight else l.weight

end LogLevel

/-! ### Settings -/

/-- The settings. The level keeps the spelling in which it was given. -/
structure Settings where
  levelName : Text
  level : LogLevel
  jsonLogs : Bool
  language : Language
  tolerant : Bool
deriving DecidableEq, Repr

namespace Settings

/-- The values that an environment gives to the settings. -/
structure Values where
  levelName : Text
  jsonLogs : Bool
  language : Language
  tolerant : Bool
deriving DecidableEq, Repr

/-- A way to find the values in an environment, or the wording of what is wrong with it. -/
abbrev Validation := Environment → Except Text Values

/-- Why an environment has no settings. -/
inductive Error where
  /-- The environment is not valid. -/
  | invalid (message : Text)
  | unknownLevel (name : Text)
deriving DecidableEq, Repr

namespace Error

/-- The wording of an error. -/
def message : Error → Text
  | invalid m => m
  | unknownLevel n => "Unknown log level: ".toList ++ n

/-- The class of an error. -/
def kind : Error → ErrorKind
  | invalid _ => .invalidData
  | unknownLevel _ => .configuration

end Error

/-- The settings that have given values. -/
def ofValues (v : Values) : Except Error Settings :=
  match LogLevel.ofName? v.levelName with
  | some level => .ok ⟨v.levelName, level, v.jsonLogs, v.language, v.tolerant⟩
  | none => .error (.unknownLevel v.levelName)

/-- The settings of an environment. What is not valid counts before an unknown level. -/
def read (validation : Validation) (env : Environment) : Except Error Settings :=
  match validation env with
  | .ok values => ofValues values
  | .error m => .error (.invalid m)

/-! ### Variables -/

/-- The variable of the log level. Names of variables are compared in lower case. -/
def levelVariable : Text := "locatorgen_log_level".toList

/-- The variable that asks for log records in JSON. -/
def jsonLogsVariable : Text := "locatorgen_json_logs".toList

/-- The variable of the language by default. -/
def languageVariable : Text := "locatorgen_default_language".toList

/-- The variable that asks for selectors to be passed through where there is no code for them. -/
def tolerantVariable : Text := "locatorgen_tolerant".toList

/-- The words for true. -/
def trueWords : List Text := ["1", "true", "t", "yes", "y", "on"].map String.toList

/-- The words for false. -/
def falseWords : List Text := ["0", "false", "f", "no", "n", "off"].map String.toList

/-- The truth value of a word, in any case. -/
def bool? (word : Text) : Option Bool :=
  if trueWords.contains (word.map Char.toLower) then some true
  else if falseWords.contains (word.map Char.toLower) then some false
  else none

/-- The value of a variable read by `read`, or the value it has by default. -/
def readVariable {α : Type} (env : Environment) (name : Text) (default : α)
    (read : Text → Option α) : Except Text α :=
  match env.find? name with
  | none => .ok default
  | some word =>
    match read word with
    | some a => .ok a
    | none => .error ("Invalid value of ".toList ++ name)

/-- The values of the variables of an environment, the first wrong one being refused. -/
def validate : Validation := fun env => do
  let levelName ← readVariable env levelVariable "INFO".toList some
  let jsonLogs ← readVariable env jsonLogsVariable false bool?
  let language ← readVariable env languageVariable .javascript Language.ofName?
  let tolerant ← readVariable env tolerantVariable false bool?
  return ⟨levelName, jsonLogs, language, tolerant⟩

end Settings

end SelectorCode
