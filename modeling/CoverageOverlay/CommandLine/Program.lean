-- SUMMARY: What the program writes and how it ends, for a command line in a file system.
import CoverageOverlay.CommandLine.Help
import CoverageOverlay.Log.Filter

/-!
# The program

The program ends with 0, or with 1 if its command stopped, or with 2 if the
command line cannot be understood. Messages, the events that the log filter
allows among them, go to the standard error output; a diagnostic comes after
the events.
-/

namespace CoverageOverlay.CommandLine

/-- How the program ends and what it wrote. -/
structure Ending where
  code : Nat
  /-- The bytes on the standard output. -/
  stdout : List UInt8
  /-- The text on the standard error output. -/
  stderr : Text
deriving DecidableEq, Repr, Inhabited

/-- The name of the program and its version. -/
def versionText : Text := "covlay 0.1.0\n".toList

/-- What is said about a command line that cannot be understood. -/
def usageText : Text :=
  "Usage: covlay [OPTIONS] <COMMAND>\n\nFor more information, try '--help'.\n".toList

/-- The specification of the log filter: the given one wins over the flag for debug messages. -/
def filterSpec (verbose : Bool) (given : Option Text) : Text :=
  given.getD (if verbose then "debug".toList else "warn".toList)

/-- The ending after a command. -/
def endingOf (verbose : Bool) (spec : Option Text) (run : Logged Output) : Ending :=
  let (filter, warnings) := Log.Filter.parse (filterSpec verbose spec)
  let messages := warnings ++ filter.shown run.events ++ run.value.stderr
  match run.value.result with
  | .ok () => ⟨0, run.value.stdout, messages⟩
  | .error e => ⟨1, run.value.stdout, messages ++ e.shown⟩

/-- Run the program with a command line and a specification of the log filter. -/
def execute [Toml.Explains] (files : Files) (arguments : List Text) (spec : Option Text) : Ending :=
  match read arguments with
  | none => ⟨2, [], usageText⟩
  | some (.help topic) => ⟨0, Utf8.encode topic.text.toList, []⟩
  | some .version => ⟨0, Utf8.encode versionText, []⟩
  | some (.run verbose command) => endingOf verbose spec (command.run files)

end CoverageOverlay.CommandLine
