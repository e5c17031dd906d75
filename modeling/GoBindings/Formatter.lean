import GoBindings.CommandLine
import GoBindings.FilePath

/-!
# Formatting of written files

A formatter runs a command over each Go file that was written. It works only between entering and
leaving; without a command, for files of other kinds and for files without the Go extension it does
nothing. What the command does is given by its outcome.
-/

namespace GoBindings

/-- How a command ended. -/
inductive CommandOutcome where
  /-- It ran, with an exit code and what it wrote to its error output. -/
  | exited (code : Int) (stderr : String)
  /-- It could not be run. -/
  | notRun (reason : String)
  /-- It took too long. -/
  | timedOut
  deriving DecidableEq, Repr

/-- Why a file is not formatted. -/
inductive FormatError where
  /-- The formatter was not entered. -/
  | notEntered
  /-- The command could not be run. -/
  | notRun (path reason : String)
  /-- The command took too long. -/
  | timedOut (path : String)
  /-- The command ended with a code that is not zero. -/
  | failed (path : String) (code : Int) (stderr : String)
  deriving DecidableEq, Repr

/-- The wording of the failure. -/
def FormatError.message : FormatError → String
  | .notEntered => "GoFormatter must be used as a context manager"
  | .notRun path reason => "Formatting " ++ path ++ " failed: " ++ reason
  | .timedOut path => "Formatting " ++ path ++ " failed"
  | .failed path code stderr =>
    "Formatting " ++ path ++ " (exit " ++ toString code ++ "): " ++ Text.trim Unicode.isBlank stderr

/-- The kinds of files that are formatted. -/
def formattedKinds : List String := ["supporting-file", "model-test", "model", "api-test", "api"]

/-- A formatter with what it has done so far. -/
structure Formatter where
  /-- The words of the command; none if there is no command. -/
  command : List String
  /-- The seconds that the command may take. -/
  timeout : Int := 120
  /-- The files that were formatted, in order. -/
  processed : List FilePath := []
  /-- Whether the formatter was entered. -/
  isActive : Bool := false

namespace Formatter

/-- The formatter with a command line; an empty one is no command. -/
def ofCommand (command : String) (timeout : Int := 120) :
    Except CommandLine.WordsError Formatter := do
  let words ← CommandLine.words command
  return { command := words, timeout }

/-- Whether there is a command. -/
def isEnabled (formatter : Formatter) : Bool := !formatter.command.isEmpty

/-- The formatter ready to work. -/
def enter (formatter : Formatter) : Formatter := { formatter with isActive := true }

/-- The formatter after its work. -/
def leave (formatter : Formatter) : Formatter := { formatter with isActive := false }

/-- The words that are run over a file, if it is to be formatted. -/
def invocation? (formatter : Formatter) (path : FilePath) (kind : String) :
    Option (List String) :=
  if formatter.isActive && formatter.isEnabled && formattedKinds.contains kind &&
      path.extension == ".go" then
    some (formatter.command ++ [path.toText])
  else none

/-- One file formatted with a command of known behaviour: whether the command ran, and the formatter
afterwards. -/
def process (formatter : Formatter) (path : FilePath) (kind : String)
    (run : List String → CommandOutcome) : Except FormatError (Bool × Formatter) :=
  if !formatter.isActive then .error .notEntered
  else
    match formatter.invocation? path kind with
    | none => .ok (false, formatter)
    | some words =>
      match run words with
      | .notRun reason => .error (.notRun path.toText reason)
      | .timedOut => .error (.timedOut path.toText)
      | .exited code stderr =>
        if code = 0 then
          .ok (true, { formatter with processed := formatter.processed ++ [path] })
        else .error (.failed path.toText code stderr)

end Formatter

end GoBindings
