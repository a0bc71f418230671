import SelectorCode.Settings.Basic

/-!
# The settings store

Settings are read once: the first success is kept until the store is cleared, whatever happens to the environment in
between. A failure is not kept.

## Main Definitions

* `SettingsStore`: an environment and the settings kept.
* `SettingsStore.Step`: what may happen to a store.
* `SettingsStore.step`, `SettingsStore.run`: the store after it, and the answers given.

## Design Notes

A store reads its environment with a validation that is fixed for it, and never looks at how it works.
-/

namespace SelectorCode

/-- An environment, and the settings that were read from it or an earlier one, with the same validation. -/
structure SettingsStore (validation : Settings.Validation) where
  environment : Environment
  kept : Option Settings

namespace SettingsStore

/-- A store on an environment, with nothing kept. -/
def opened (validation : Settings.Validation) (env : Environment) : SettingsStore validation :=
  ⟨env, none⟩

/-- No variables and nothing kept. -/
def empty : SettingsStore Settings.validate := opened Settings.validate []

/-- What may happen to a store. -/
inductive Step where
  | set (name value : Text)
  | unset (name : Text)
  | clear
  | get
deriving DecidableEq, Repr

variable {validation : Settings.Validation}

/-- The settings kept, or those of the environment, which are kept from now on. -/
def get (s : SettingsStore validation) :
    Except Settings.Error Settings × SettingsStore validation :=
  match s.kept with
  | some settings => (.ok settings, s)
  | none =>
    match Settings.read validation s.environment with
    | .ok settings => (.ok settings, { s with kept := some settings })
    | .error e => (.error e, s)

/-- The store after a step, and the answer if the step asks for the settings. -/
def step (s : SettingsStore validation) :
    Step → Option (Except Settings.Error Settings) × SettingsStore validation
  | .set name value => (none, { s with environment := s.environment.set name value })
  | .unset name => (none, { s with environment := s.environment.unset name })
  | .clear => (none, { s with kept := none })
  | .get => (some s.get.1, s.get.2)

/-- The answers to a list of steps. -/
def run (s : SettingsStore validation) :
    List Step → List (Option (Except Settings.Error Settings))
  | [] => []
  | x :: xs => (s.step x).1 :: run (s.step x).2 xs

end SettingsStore

end SelectorCode
