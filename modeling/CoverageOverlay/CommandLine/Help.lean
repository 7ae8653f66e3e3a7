-- SUMMARY: The texts that explain the command line.
import CoverageOverlay.CommandLine.Arguments

/-!
# Help

A help text says what a command does and how it is written, and lists its
operands and options. The short form gives each item one line. The long form,
which only commands with a choice between explained values have, gives each
item a paragraph and explains the values.
-/

namespace CoverageOverlay.CommandLine

/-! ## Items -/

/-- Something that can be written after a command. -/
structure Item where
  /-- How it is written. -/
  form : String
  meaning : String
  /-- What holds if it is not written. -/
  fallback : Option String
  /-- The values it can have, with their meanings. -/
  values : List (String × String)
deriving DecidableEq, Repr, Inhabited

namespace Item

/-- An item that has no fallback and no list of values. -/
def plain (form meaning : String) : Item := ⟨form, meaning, none, []⟩

/-- What holds if an item is not written, in brackets. -/
def fallbackNote (i : Item) : Option String :=
  i.fallback.map fun f => "[default: " ++ f ++ "]"

/-- The line of an item in the short form, whose first column has a width. -/
def shortLine (width : Nat) (i : Item) : String :=
  let padding := String.ofList (List.replicate (width - i.form.length) ' ')
  let values :=
    if i.values.isEmpty then []
    else ["[possible values: " ++ ", ".intercalate (i.values.map Prod.fst) ++ "]"]
  "  " ++ i.form ++ padding ++ "  "
    ++ " ".intercalate (i.meaning :: i.fallbackNote.toList ++ values) ++ "\n"

/-- How far the paragraphs of the long form are indented. -/
def indent : String := "          "

/-- The paragraph of an item in the long form. -/
def paragraph (i : Item) : String :=
  let values := i.values.map fun (name, meaning) => indent ++ "- " ++ name ++ ": " ++ meaning ++ "\n"
  let list := if values.isEmpty then "" else "\n" ++ indent ++ "Possible values:\n" ++ String.join values
  let note :=
    match i.fallbackNote with
    | some note => indent ++ "\n" ++ indent ++ note ++ "\n"
    | none => ""
  "  " ++ i.form ++ "\n" ++ indent ++ i.meaning ++ "\n" ++ list ++ note

/-- Items under a heading. -/
def listing (heading : String) (long : Bool) (items : List Item) : String :=
  let width := (items.map (·.form.length)).foldl max 0
  "\n" ++ heading ++ ":\n"
    ++ if long then "\n".intercalate (items.map paragraph)
      else String.join (items.map (shortLine width))

end Item

/-! ## Commands -/

namespace Subcommand

/-- What a command does. -/
def about : Subcommand → String
  | list => "Print the resolved annotations for a document"
  | draw => "Print a document with its coverage applied"
  | states => "Print every coverage state with its code, style token, and label"
  | summary => "Summarize every document under a directory that has coverage records"
  | watch => "Re-apply coverage whenever the document or its records change"

/-- The operand of a command. -/
def operand? : Subcommand → Option Item
  | list => some (.plain "<FILE>" "Document whose coverage records to resolve")
  | draw | watch => some (.plain "<FILE>" "Document to annotate")
  | states => none
  | summary => some ⟨"[DIR]", "Directory to walk", some ".", []⟩

/-- The option for the form of a listing. -/
def formatItem : Item :=
  ⟨"    --format <FORMAT>", "Output format", some "text",
    [("json", "Pretty-printed JSON"), ("text", "One line per item")]⟩

/-- The option for plain markup. -/
def plainItem : Item :=
  .plain "    --plain" "Mark runs as \x60\x7bstyle text\x7d\x60 instead of using colors"

/-- The option for debug messages. -/
def verboseItem : Item :=
  .plain "-v, --verbose" "Log debug detail (skipped lines, dropped ranges) to stderr"

/-- The help text of a command. -/
def help (s : Subcommand) (long : Bool) : String :=
  let hasLong := s.takesFormat
  let long := long && hasLong
  let more :=
    if !hasLong then "" else if long then " (see a summary with '-h')" else " (see more with '--help')"
  let options :=
    (if s.takesFormat then [formatItem] else []) ++ (if s.takesPlain then [plainItem] else [])
      ++ [verboseItem, .plain "-h, --help" ("Print help" ++ more)]
  let operand := s.operand?.toList
  s.about ++ "\n\nUsage: covlay " ++ " ".intercalate (s.name :: "[OPTIONS]" :: operand.map Item.form)
    ++ "\n" ++ (if operand.isEmpty then "" else Item.listing "Arguments" long operand)
    ++ Item.listing "Options" long options

end Subcommand

/-- What the subcommand for help does. -/
def helpAbout : String := "Print this message or the help of the given subcommand(s)"

/-- The help text of the subcommand for help. -/
def helpOfHelp : String :=
  helpAbout ++ "\n\nUsage: covlay help [COMMAND]...\n"
    ++ Item.listing "Arguments" false [.plain "[COMMAND]..." "Print help for the subcommand(s)"]

/-- The help text of the program. -/
def helpOfProgram : String :=
  let commands := Subcommand.all.map fun s => Item.plain s.name s.about
  "Overlay coverage records onto source documents\n\nUsage: covlay [OPTIONS] <COMMAND>\n"
    ++ Item.listing "Commands" false (commands ++ [.plain "help" helpAbout])
    ++ Item.listing "Options" false
      [Subcommand.verboseItem, .plain "-h, --help" "Print help",
        .plain "-V, --version" "Print version"]

/-- The text that a topic asks for. -/
def Topic.text : Topic → String
  | program => helpOfProgram
  | help => helpOfHelp
  | subcommand s long => s.help long

end CoverageOverlay.CommandLine
