import SelectorCode.CommandLine.Run

/-!
# The command

Prints the locator code for each selector given as an argument.

## Main Definitions

* `main`: reads the environment, runs the command, and prints what it leaves behind.
-/

namespace SelectorCode

/-- The variables that the command looks up. -/
def variableNames : List String :=
  ["LOCATORGEN_LOG_LEVEL", "LOCATORGEN_JSON_LOGS", "LOCATORGEN_DEFAULT_LANGUAGE",
    "LOCATORGEN_TOLERANT"]

/-- The variables that are set. -/
def readEnvironment : IO Environment := do
  let found ← variableNames.mapM fun name => do
    return (← IO.getEnv name).map fun value => (name.toList, value.toList)
  return found.filterMap id

/-- A log record as one line of JSON. -/
def recordLine : CommandLine.LogRecord → Text
  | .failed l s =>
    "\x7b\"event\": \"locator_failed\", \"language\": ".toList ++ Text.literal .double l.name ++
      ", \"level\": \"warning\", \"selector\": ".toList ++ Text.literal .double s ++ "\x7d".toList
  | .fallback l s m =>
    "\x7b\"error\": ".toList ++ Text.literal .double m ++
      ", \"event\": \"locator_fallback\", \"language\": ".toList ++ Text.literal .double l.name ++
      ", \"level\": \"debug\", \"selector\": ".toList ++ Text.literal .double s ++ "\x7d".toList

end SelectorCode

/-- Runs the command and ends with its exit code. -/
def main (arguments : List String) : IO UInt32 := do
  let outcome :=
    SelectorCode.CommandLine.run (← SelectorCode.readEnvironment) (arguments.map String.toList)
  let err ← IO.getStderr
  IO.print (String.ofList outcome.stdout)
  for record in outcome.records do
    err.putStrLn (String.ofList (SelectorCode.recordLine record))
  err.putStr (String.ofList outcome.stderr)
  match outcome.failure with
  | some f => err.putStrLn (String.ofList f.message)
  | none => pure ()
  return outcome.exitCode.toUInt32
