-- SUMMARY: Command lines into requests.
import CoverageOverlay.Command

/-!
# Arguments

Arguments are read from left to right. Options may stand before and after the
subcommand and between its operands; after a double dash everything is an
operand. The first argument that cannot be understood ends the reading, and so
does a request for help or for the version.
-/

namespace CoverageOverlay.CommandLine

/-- The subcommands. -/
inductive Subcommand
  | list
  | draw
  | states
  | summary
  | watch
deriving DecidableEq, Repr, Inhabited

namespace Subcommand

/-- The word for a subcommand. -/
def name : Subcommand → String
  | list => "list"
  | draw => "show"
  | states => "states"
  | summary => "summary"
  | watch => "watch"

/-- Every subcommand. -/
def all : List Subcommand := [list, draw, states, summary, watch]

/-- The subcommand that a word stands for. -/
def ofName? (word : Text) : Option Subcommand :=
  all.find? (·.name.toList = word)

/-- Whether a subcommand has an operand. -/
def takesOperand : Subcommand → Bool
  | states => false
  | _ => true

/-- Whether a subcommand has the option for the form of a listing. -/
def takesFormat : Subcommand → Bool
  | list | summary => true
  | _ => false

/-- Whether a subcommand has the option for plain markup. -/
def takesPlain : Subcommand → Bool
  | draw | watch => true
  | _ => false

end Subcommand

/-! ## Requests -/

/-- What can be explained. -/
inductive Topic
  | program
  /-- The subcommand for help. -/
  | help
  /-- A subcommand, at length or in short. -/
  | subcommand (s : Subcommand) (long : Bool)
deriving DecidableEq, Repr, Inhabited

/-- What a command line asks for. -/
inductive Request
  /-- Run a command, with or without debug messages. -/
  | run (verbose : Bool) (command : Command)
  /-- Explain the command line. -/
  | help (topic : Topic)
  /-- Name the version. -/
  | version
deriving DecidableEq, Repr, Inhabited

/-! ## Options -/

/-- The options that were read. -/
structure Options where
  /-- Whether debug messages are asked for. -/
  verbose : Bool
  operand : Option Text
  format : Option Format
  /-- Whether plain markup is asked for. -/
  plain : Bool
deriving DecidableEq, Repr, Inhabited

/-- No option was read yet. -/
def Options.none : Options := ⟨false, .none, .none, false⟩

/-- The state of the reading after an argument. -/
inductive Progress
  /-- Go on. -/
  | more (options : Options)
  /-- The request is known. -/
  | done (request : Request)
  /-- The argument cannot be understood. -/
  | wrong

/-- Ask for debug messages, which can be done once at each level. -/
def Options.setVerbose (o : Options) : Progress :=
  if o.verbose then .wrong else .more { o with verbose := true }

/-- The form with a name. -/
def formatOf? (word : Text) : Option Format :=
  if word = "json".toList then some .json
  else if word = "text".toList then some .text
  else none

/-- Choose the form of a listing. -/
def Options.setFormat (o : Options) (word : Text) : Progress :=
  match o.format, formatOf? word with
  | .none, some format => .more { o with format := some format }
  | _, _ => .wrong

/-- Ask for plain markup. -/
def Options.setPlain (o : Options) : Progress :=
  if o.plain then .wrong else .more { o with plain := true }

/-- Read a cluster of one-letter options, before or after a subcommand. -/
def shortOptions (subcommand? : Option Subcommand) : Options → Text → Progress
  | o, [] => .more o
  | o, c :: rest =>
    if c = 'v' then
      match o.setVerbose with
      | .more o => shortOptions subcommand? o rest
      | ended => ended
    else if c = 'h' then .done (.help (subcommand?.elim .program (.subcommand · false)))
    else if c = 'V' ∧ subcommand?.isNone then .done .version
    else .wrong

/-- Whether an argument begins like an option. A single dash is an operand. -/
def looksLikeOption (argument : Text) : Bool :=
  argument.head? = some '-' && argument ≠ ['-']

/-- Take an operand, which must not be empty. -/
def Options.setOperand (o : Options) (subcommand : Subcommand) (word : Text) : Progress :=
  if word = [] ∨ !subcommand.takesOperand ∨ o.operand.isSome then .wrong
  else .more { o with operand := some word }

/-! ## Subcommands -/

/-- The command that a subcommand and its options ask for. -/
def commandOf? (subcommand : Subcommand) (o : Options) : Option Command :=
  let format := o.format.getD .text
  match subcommand, o.operand with
  | .list, some file => some (.list ⟨file⟩ format)
  | .draw, some file => some (.draw ⟨file⟩ o.plain)
  | .states, _ => some .states
  | .summary, directory => some (.summary ⟨directory.getD ['.']⟩ format)
  | .watch, some file => some (.watch ⟨file⟩ o.plain)
  | _, .none => .none

/-- Read the arguments after a subcommand. With `operandsOnly`, a double dash came before. -/
def readSubcommand (verbose : Bool) (subcommand : Subcommand) :
    (operandsOnly : Bool) → Options → List Text → Option Request
  | _, o, [] => (commandOf? subcommand o).map (.run (verbose || o.verbose))
  | true, o, argument :: rest =>
    match o.setOperand subcommand argument with
    | .more o => readSubcommand verbose subcommand true o rest
    | .done request => some request
    | .wrong => none
  | false, o, argument :: rest =>
    if argument = "--".toList then readSubcommand verbose subcommand true o rest
    else if argument = "--format".toList ∧ subcommand.takesFormat then
      match rest with
      | [] => none
      | word :: rest =>
        if looksLikeOption word then none
        else
          match o.setFormat word with
          | .more o => readSubcommand verbose subcommand false o rest
          | .done request => some request
          | .wrong => none
    else
      let progress :=
        if argument = "--verbose".toList then o.setVerbose
        else if argument = "--help".toList then .done (.help (.subcommand subcommand true))
        else if argument = "--plain".toList ∧ subcommand.takesPlain then o.setPlain
        else if Text.startsWith argument "--format=".toList ∧ subcommand.takesFormat then
          o.setFormat (argument.drop "--format=".length)
        else if Text.startsWith argument "--".toList then .wrong
        else if looksLikeOption argument then shortOptions (some subcommand) o argument.tail
        else o.setOperand subcommand argument
      match progress with
      | .more o => readSubcommand verbose subcommand false o rest
      | .done request => some request
      | .wrong => none

/-! ## Whole command lines -/

/-- Read the arguments of the help subcommand, which names at most one subcommand or itself. -/
def readHelp : List Text → Option Request
  | [] => some (.help .program)
  | [word] =>
    if word = "help".toList then some (.help .help)
    else (Subcommand.ofName? word).map fun s => .help (.subcommand s true)
  | _ => none

/-- Read a command line from some argument on. -/
def readFrom (o : Options) : List Text → Option Request
  | [] => none
  | argument :: rest =>
    match Subcommand.ofName? argument with
    | some subcommand => readSubcommand o.verbose subcommand false .none rest
    | none =>
      if argument = "help".toList then readHelp rest
      else
        let progress :=
          if argument = "--verbose".toList then o.setVerbose
          else if argument = "--help".toList then .done (.help .program)
          else if argument = "--version".toList then .done .version
          else if Text.startsWith argument "--".toList then .wrong
          else if looksLikeOption argument then shortOptions none o argument.tail
          else .wrong
        match progress with
        | .more o => readFrom o rest
        | .done request => some request
        | .wrong => none

/-- The request of a command line, if it can be understood. -/
def read (arguments : List Text) : Option Request :=
  readFrom .none arguments

end CoverageOverlay.CommandLine
