import SelectorCode.CommandLine.Run

/-!
# The arguments of a request

Every request with selectors can be made: its options, two hyphens, and the selectors behind them, which are taken as
they are, even if they look like options. All arguments that are read as the same request have the same outcome, so these
stand for all.

## Main Definitions

* `Effect.option`: the long option with an effect.
* `Request.arguments`: the options of a request, two hyphens, and its selectors.

## Main Statements

* `parseFrom_flags`, `parseFrom_language`: options are read one after the other.
* `Request.ofArguments_arguments`: the arguments of a request are read as the request.
* `runWith_eq_runWith_arguments`: arguments that are read as a request have the outcome of its own arguments.
-/

namespace SelectorCode.CommandLine

variable {a b : Arguments} {e : Effect} {name : Text} {rest rest' : List Text} {r : Request}

/-! ### Options -/

/-- Reading goes on behind an option. -/
theorem parseFrom_option (hoption : isOption name = true) (hne : name ≠ "--".toList)
    (hread : readOption a name rest = .ok (b, rest')) :
    a.parseFrom (name :: rest) = b.parseFrom rest' := by
  rw [Arguments.parseFrom, if_neg hne, if_pos hoption]
  split
  next h => cases hread.symm.trans h
  next p h =>
    cases hread.symm.trans h
    rfl

/-- The long option with an effect. -/
def Effect.option : Effect → Text
  | language => "--lang".toList
  | allLanguages => "--all-languages".toList
  | inFrame => "--frame".toList
  | tolerant true => "--tolerant".toList
  | tolerant false => "--strict".toList

/-- A long option is known by its name. -/
theorem longOption?_option (e : Effect) :
    longOption? e.option = some e ∧ isOption e.option = true ∧
      splitValue e.option = (e.option, none) := by
  cases e with
  | tolerant b => cases b <;> decide
  | _ => decide

/-- A long option that takes no value is a flag. -/
theorem parseFrom_flag (h : e ≠ .language) :
    a.parseFrom (e.option :: rest) = (a.withFlag e).parseFrom rest := by
  obtain ⟨hlong, hoption, hvalue⟩ := longOption?_option e
  have hne : e.option ≠ "--".toList := by
    intro heq
    rw [heq] at hlong
    cases hlong
  have hread : readOption a e.option rest = .ok (a.withFlag e, rest) := by
    rw [readOption, hvalue]
    simp only [hlong]
    cases e with
    | language => exact absurd rfl h
    | _ => rfl
  exact parseFrom_option hoption hne hread

/-- Flags are read one after the other. -/
theorem parseFrom_flags {flags : List Effect} (h : .language ∉ flags) :
    a.parseFrom (flags.map Effect.option ++ rest) =
      (flags.foldl Arguments.withFlag a).parseFrom rest := by
  induction flags generalizing a with
  | nil => rfl
  | cons e flags ih =>
    rw [List.mem_cons, not_or] at h
    rw [List.map_cons, List.cons_append, parseFrom_flag (Ne.symm h.1), ih h.2]
    rfl

/-- The language is the argument behind its option. -/
theorem parseFrom_language (value : Text) :
    a.parseFrom (Effect.language.option :: value :: rest) = (a.withLanguage value).parseFrom rest :=
  parseFrom_option rfl (by decide) rfl

/-- Everything behind two hyphens is a selector. -/
theorem parseFrom_selectors (selectors : List Text) :
    a.parseFrom ("--".toList :: selectors) = .ok (a.withSelectors selectors) := by
  rw [Arguments.parseFrom, if_pos rfl]

/-! ### Requests -/

/-- The option that names a language. -/
def languageOption : Option Language → List Text
  | none => []
  | some l => [Effect.language.option, l.name]

/-- The flags of a request. -/
def Request.flags (r : Request) : List Effect :=
  (if r.allLanguages then [.allLanguages] else []) ++ (if r.inFrame then [.inFrame] else []) ++
    (r.tolerant.map Effect.tolerant).toList

/-- The options of a request, two hyphens, and its selectors. -/
def Request.arguments (r : Request) : List Text :=
  languageOption r.language ++ (r.flags.map Effect.option ++ "--".toList :: r.selectors)

theorem language_not_mem_flags (r : Request) : .language ∉ r.flags := by
  obtain ⟨selectors, language, allLanguages, inFrame, tolerant⟩ := r
  cases allLanguages <;> cases inFrame <;> cases tolerant <;> simp [Request.flags]

/-- What the flags of a request turn on is what the request says. -/
theorem foldl_flags (r : Request) (language : Option Text) :
    r.flags.foldl Arguments.withFlag ⟨[], language, false, false, none⟩ =
      ⟨[], language, r.allLanguages, r.inFrame, r.tolerant⟩ := by
  obtain ⟨selectors, l, allLanguages, inFrame, tolerant⟩ := r
  cases allLanguages <;> cases inFrame <;> cases tolerant <;> rfl

/-- The name of a language denotes it. -/
theorem ofName?_name (l : Language) : Language.ofName? l.name = some l := by
  cases l <;> decide

/-- **Every request with selectors can be made.** Its arguments are read as the request. -/
theorem Request.ofArguments_arguments (h : r.selectors ≠ []) :
    Request.ofArguments r.arguments = .ok r := by
  have hlanguage : Arguments.empty.parseFrom r.arguments =
      Arguments.parseFrom ⟨[], r.language.map Language.name, false, false, none⟩
        (r.flags.map Effect.option ++ "--".toList :: r.selectors) := by
    rw [Request.arguments]
    cases r.language with
    | none => rfl
    | some l => exact parseFrom_language l.name
  have hparse : Arguments.empty.parseFrom r.arguments =
      .ok ⟨r.selectors, r.language.map Language.name, r.allLanguages, r.inFrame, r.tolerant⟩ := by
    rw [hlanguage, parseFrom_flags (language_not_mem_flags r), foldl_flags, parseFrom_selectors]
    rfl
  have hname : Arguments.language? ⟨r.selectors, r.language.map Language.name, r.allLanguages,
      r.inFrame, r.tolerant⟩ = .ok r.language := by
    cases hl : r.language with
    | none => rfl
    | some l => simp only [Arguments.language?, Option.map_some, ofName?_name]
  have hnonempty : r.selectors.isEmpty = false := by simpa using h
  simp only [Request.ofArguments, hparse, bind, Except.bind, hname, hnonempty]
  rfl

/-- Without selectors there is no request. -/
theorem selectors_ne_nil_of_ofArguments {arguments : List Text}
    (h : Request.ofArguments arguments = .ok r) : r.selectors ≠ [] := by
  unfold Request.ofArguments at h
  cases hparse : Arguments.empty.parseFrom arguments with
  | error e =>
    rw [hparse] at h
    cases h
  | ok a =>
    cases hlanguage : a.language? with
    | error e =>
      simp only [hparse, hlanguage, bind, Except.bind] at h
      cases h
    | ok l =>
      simp only [hparse, hlanguage, bind, Except.bind] at h
      split at h
      · cases h
      next hselectors =>
        cases h
        simpa using hselectors

/-! ### Outcomes -/

variable {console : Console} {validation : Settings.Validation} {env : Environment}
  {settings : Settings} {arguments : List Text}

/-- Arguments that are read as a request have the outcome of its own arguments. -/
theorem runWith_eq_runWith_arguments (h : Request.ofArguments arguments = .ok r) :
    runWith console validation env arguments = runWith console validation env r.arguments := by
  rw [runWith, runWith, h, Request.ofArguments_arguments (selectors_ne_nil_of_ofArguments h)]

end SelectorCode.CommandLine
