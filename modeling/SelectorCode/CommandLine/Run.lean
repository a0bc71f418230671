import SelectorCode.CommandLine.Arguments
import SelectorCode.CommandLine.Terminal
import SelectorCode.Locator.Expression
import SelectorCode.Settings.Basic

/-!
# Running the command

The command prints one line for each selector and language, in this order. It stops at the first selector that has no
code, unless it is asked to be tolerant, and at the first line that cannot be written.

## Main Definitions

* `LogRecord`: what the command logs.
* `Outcome`: everything the command leaves behind.
* `Job`: a selector and a language, with what the line for them begins with.
* `Job.line`, `Job.tolerantLine`: the line that shows a text for a job, and the one of a tolerant run.
* `Console`: where the lines are written.
* `runJob`: the line of a job, or why there is none.
* `runJobs`: the jobs up to the first one whose line is not written.
* `runWith`: the command, with a console and a validation of its environment.
* `run`: the command that leaves control sequences out of its lines.

## Design Notes

Usage is checked before the settings are read, and the settings are read before anything is printed. Only mistakes in
a selector end in a message; any other failure is passed on as it is.

How lines are written is not the business of the command. A console may change them or refuse them, for reasons that the
text does not show. All that is asked of it is that plain text be written as it is.
-/

namespace SelectorCode.CommandLine

/-- A record of the log. -/
inductive LogRecord where
  /-- A selector without code has ended the command. -/
  | failed (language : Language) (selector : Text)
  /-- A selector without code was printed as it is. -/
  | fallback (language : Language) (selector message : Text)
deriving DecidableEq, Repr

/-- The level of a record. -/
def LogRecord.level : LogRecord → LogLevel
  | failed _ _ => .warning
  | fallback _ _ _ => .debug

/-- A failure that is passed on. -/
structure Failure where
  kind : ErrorKind
  message : Text
deriving DecidableEq, Repr

/-- Everything the command leaves behind. -/
structure Outcome where
  exitCode : Nat
  stdout : Text
  stderr : Text
  records : List LogRecord
  failure : Option Failure
deriving DecidableEq, Repr

/-- A selector to be printed in a language, after the name of the language when there are several. -/
structure Job where
  selector : Text
  language : Language
  labelled : Bool
deriving DecidableEq, Repr

namespace Job

/-- The line that shows a text for a job. -/
def line (j : Job) (t : Text) : Text :=
  (if j.labelled then j.language.name ++ ": ".toList else []) ++ t ++ ['\n']

/-- The line of a job in a tolerant run: its code, or the selector where there is none. -/
def tolerantLine (inFrame : Bool) (j : Job) : Text :=
  j.line (asLocatorOrSelector j.language inFrame j.selector).text

/-- What a tolerant run logs for a job. -/
def tolerantRecords (inFrame : Bool) (j : Job) : List LogRecord :=
  match (asLocatorOrSelector j.language inFrame j.selector).failure with
  | none => []
  | some e => [.fallback j.language j.selector e.message]

end Job

/-- Where the command writes. The line of a job may be refused. It is told by the job as well as by its text, since half of
a pair, which cannot be written, reads like the character U+FFFD, which can. -/
structure Console where
  /-- What is written for the line of a job, or why nothing is. -/
  line : Job → Text → Except Failure Text
  /-- What is written for a message. -/
  message : Text → Text
  line_of_isPlain : ∀ {j : Job} {t : Text}, IsPlain t → line j t = .ok t
  message_of_isPlain : ∀ {t : Text}, IsPlain t → message t = t

/-- The console that leaves out control sequences and refuses nothing. -/
def Console.stripping : Console where
  line _ t := .ok (stripped t)
  message := stripped
  line_of_isPlain h := congrArg Except.ok (stripped_eq_self h)
  message_of_isPlain := stripped_eq_self

/-- The jobs of a request, selector by selector, when `language` is the language by default. -/
def jobs (request : Request) (language : Language) : List Job :=
  request.selectors.flatMap fun s =>
    if request.allLanguages then Language.all.map fun l => ⟨s, l, true⟩
    else [⟨s, request.language.getD language, false⟩]

/-- What is printed and logged for a job. -/
structure Printed where
  line : Text
  records : List LogRecord
deriving DecidableEq, Repr

/-- What is printed for a job, or why nothing is. -/
def runJob (tolerant inFrame : Bool) (j : Job) : Except Locator.Error Printed :=
  if tolerant then .ok ⟨j.tolerantLine inFrame, j.tolerantRecords inFrame⟩
  else (asLocator j.language inFrame j.selector).map fun t => ⟨j.line t, []⟩

/-- Why a run of jobs stops before its end. -/
inductive Stop where
  /-- There is no code for a job. -/
  | noCode (j : Job) (e : Locator.Error)
  /-- The line of a job cannot be written. -/
  | refused (f : Failure)
deriving DecidableEq, Repr

/-- What is written and logged for a list of jobs, and what ended it. -/
structure Progress where
  written : Text
  records : List LogRecord
  stopped : Option Stop
deriving DecidableEq, Repr

/-- Runs jobs up to the first one whose line is not written. -/
def runJobs (console : Console) (tolerant inFrame : Bool) : List Job → Progress
  | [] => ⟨[], [], none⟩
  | j :: js =>
    match runJob tolerant inFrame j with
    | .error e => ⟨[], [], some (.noCode j e)⟩
    | .ok p =>
      match console.line j p.line with
      | .error f => ⟨[], p.records, some (.refused f)⟩
      | .ok line =>
        let rest := runJobs console tolerant inFrame js
        ⟨line ++ rest.written, p.records ++ rest.records, rest.stopped⟩

/-- The error message of the command. -/
def errorText (message : Text) : Text :=
  "Error: ".toList ++ message ++ ['\n']

/-- The reminder of the usage. -/
def usageText : Text :=
  "Usage: cli [OPTIONS] SELECTORS...\nTry 'cli --help' for help.\n\n".toList

/-- The outcome of arguments that are refused. -/
def usageOutcome (console : Console) (e : UsageError) : Outcome :=
  ⟨2, [], console.message ((if e.showsUsage then usageText else []) ++ errorText e.message), [], none⟩

/-- The outcome of a run of jobs, before the log is filtered. -/
def Progress.outcome (console : Console) (p : Progress) : Outcome :=
  match p.stopped with
  | none => ⟨0, p.written, [], p.records, none⟩
  | some (.refused f) => ⟨1, p.written, [], p.records, some f⟩
  | some (.noCode j e) =>
    if e.kind = .invalidSelector then
      ⟨1, p.written, console.message (errorText e.message),
        p.records ++ [.failed j.language j.selector], none⟩
    else ⟨1, p.written, [], p.records, some ⟨e.kind, e.message⟩⟩

/-- The outcome with the log records that are grave enough. -/
def Outcome.filtered (o : Outcome) (level : LogLevel) : Outcome :=
  { o with records := o.records.filter fun r => level.threshold ≤ r.level.weight }

/-- The outcome of a request under given settings. -/
def runRequest (console : Console) (settings : Settings) (request : Request) : Outcome :=
  ((runJobs console (request.tolerant.getD settings.tolerant) request.inFrame
    (jobs request settings.language)).outcome console).filtered settings.level

/-- The outcome of the command, whose settings are read with a validation. -/
def runWith (console : Console) (validation : Settings.Validation) (env : Environment)
    (arguments : List Text) : Outcome :=
  match Request.ofArguments arguments with
  | .error e => usageOutcome console e
  | .ok request =>
    match Settings.read validation env with
    | .error e => ⟨1, [], [], [], some ⟨e.kind, e.message⟩⟩
    | .ok settings => runRequest console settings request

/-- The outcome of the command where control sequences are left out. -/
def run (env : Environment) (arguments : List Text) : Outcome :=
  runWith .stripping Settings.validate env arguments

end SelectorCode.CommandLine
