-- SUMMARY: Which settings texts are valid, what they mean, and what is wrong with the others.
import CoverageOverlay.Decimal.Shortest
import CoverageOverlay.Settings
import CoverageOverlay.Text.Quoted
import CoverageOverlay.Toml.Excerpt
import CoverageOverlay.Toml.Parser

/-!
# The schema of settings

Four keys are known: `composition`, `exclude`, `include` and `suffix`. Entries
are read in their order, and the first thing that is wrong is reported together
with the place where it stands.
-/

namespace CoverageOverlay.Settings

open Toml

/-! ## What can be wrong -/

/-- What is wrong with an entry. -/
inductive Mistake
  /-- The key means nothing. -/
  | unknownKey (name : Text)
  /-- No composition has the name. -/
  | unknownComposition (name : Text)
  /-- A value is of the wrong kind. -/
  | wrongKind (found : Text) (expected : String)
  /-- A composition is given neither by a name nor by a table. -/
  | noComposition
  /-- A table that should name one composition is empty. -/
  | noElement
  /-- A table that should name one composition has several entries. -/
  | severalElements
  /-- The name of a composition stands for something that is not empty. -/
  | notEmpty (wanted : String)
  /-- The name of a composition stands for something that cannot be empty. -/
  | notTable (found : String)
deriving DecidableEq, Repr

/-- Names between backquotes, parted by a text. -/
def listed (separator : String) (names : List String) : String :=
  separator.intercalate (names.map fun name => "`" ++ name ++ "`")

/-- The keys that are known. -/
def keys : List String := ["composition", "exclude", "include", "suffix"]

/-- The words for a mistake. -/
def Mistake.message : Mistake → Text
  | unknownKey name =>
    "unknown field `".toList ++ name ++ "`, expected one of ".toList
      ++ (listed ", " keys).toList
  | unknownComposition name =>
    "unknown variant `".toList ++ name ++ "`, expected ".toList
      ++ (listed " or " (Composition.all.map Composition.name)).toList
  | wrongKind found expected =>
    "invalid type: ".toList ++ found ++ ", expected ".toList ++ expected.toList
  | noComposition => "wanted string or table".toList
  | noElement => "wanted exactly 1 element, found 0 elements".toList
  | severalElements => "wanted exactly 1 element, more than 1 element".toList
  | notEmpty wanted => "expected empty ".toList ++ wanted.toList
  | notTable found => "expected table, found ".toList ++ found.toList

/-- A mistake and, if it is known, where it stands. -/
structure Misplaced where
  mistake : Mistake
  span : Option Span

/-- The value of a node in the words of a message. -/
def described : Node → Text
  | .string s _ => "string ".toList ++ (Text.quoted s).toList
  | .integer n _ => "integer `".toList ++ (toString n).toList ++ "`".toList
  | .float x _ => "floating point `".toList ++ x.text ++ "`".toList
  | .boolean b _ =>
    "boolean `".toList ++ (if b then "true" else "false").toList ++ "`".toList
  | .array .. | .tables _ => "sequence".toList
  | .datetime _ | .inline .. | .table .. => "map".toList

/-! ## Reading values -/

/-- A string. -/
def readString : Node → Except Misplaced Text
  | .string s _ => .ok s
  | node => .error ⟨.wrongKind (described node) "a string", node.span?⟩

/-- A list of strings. -/
def readStrings : Node → Except Misplaced (List Text)
  | .array items _ => items.mapM readString
  | .tables elements => elements.mapM readString
  | node => .error ⟨.wrongKind (described node) "a sequence", node.span?⟩

/-- The composition with a name. -/
def readName (name : Text) (span : Option Span) : Except Misplaced Composition :=
  match Composition.all.find? (·.name.toList = name) with
  | some c => .ok c
  | none => .error ⟨.unknownComposition name, span⟩

/-- Check that the name of a composition stands for something empty. -/
def checkEmpty : Node → Except Misplaced Unit
  | .tables elements => .error ⟨.notEmpty "array", (Node.tables elements).span?⟩
  | .array [] _ | .inline [] _ | .table _ [] _ => .ok ()
  | .array items span => .error ⟨.notEmpty "table", (Node.array items span).span?⟩
  | .inline entries span => .error ⟨.notEmpty "table", (Node.inline entries span).span?⟩
  | .table origin entries span => .error ⟨.notEmpty "table", (Node.table origin entries span).span?⟩
  | .string _ span => .error ⟨.notTable "string", span⟩
  | .integer _ span => .error ⟨.notTable "integer", span⟩
  | .float _ span => .error ⟨.notTable "float", span⟩
  | .boolean _ span => .error ⟨.notTable "boolean", span⟩
  | .datetime span => .error ⟨.notTable "datetime", span⟩

/-- The composition that the only entry of a table names. -/
def readElement (entries : Entries) (span : Option Span) : Except Misplaced Composition :=
  match entries with
  | [] => .error ⟨.noElement, span⟩
  | [(key, node)] =>
    match readName key.name (some key.span) with
    | .error wrong => .error wrong
    | .ok c => (checkEmpty node).map fun _ => c
  | _ => .error ⟨.severalElements, span⟩

/-- A composition, by its name or by a table with its name. -/
def readComposition (node : Node) : Except Misplaced Composition :=
  match node with
  | .string s span => readName s (some span)
  | .inline entries span => readElement entries (some span)
  | .table _ entries span => readElement entries span
  | _ => .error ⟨.noComposition, node.span?⟩

/-! ## Reading settings -/

/-- Settings with the entry of one key. -/
def readEntry (s : Settings) (key : Key) (node : Node) : Except Misplaced Settings :=
  if key.name = "composition".toList then
    (readComposition node).map fun composition => { s with composition }
  else if key.name = "exclude".toList then
    (readStrings node).map fun excluded => { s with excluded }
  else if key.name = "include".toList then
    (readStrings node).map fun included => { s with included }
  else if key.name = "suffix".toList then
    (readString node).map fun suffix => { s with suffix }
  else .error ⟨.unknownKey key.name, some key.span⟩

/-- A mistake without a place stands at its value, or else at its key. -/
def Misplaced.spanIn (wrong : Misplaced) (key : Key) (node : Node) : Span :=
  ((wrong.span.orElse fun _ => node.span?)).getD key.span

/-- Settings with the entries of the top table, in order. -/
def readEntries (s : Settings) : Entries → Except (Mistake × Span) Settings
  | [] => .ok s
  | (key, node) :: rest =>
    match s.readEntry key node with
    | .error wrong => .error (wrong.mistake, wrong.spanIn key node)
    | .ok s => readEntries s rest

/-- The settings that a text gives, or an explanation of what is wrong with it. -/
def parse [Explains] (t : Text) : Except Text Settings :=
  match Toml.parse? t with
  | none => .error (Explains.illFormed t)
  | some entries =>
    (readEntries standard entries).mapError fun (mistake, span) =>
      Toml.explain t span mistake.message

end CoverageOverlay.Settings
