-- SUMMARY: Settings texts, line by line, into the entries of their top table.
import CoverageOverlay.Toml.Value

/-!
# Settings texts

A text is a sequence of entries and headers, one a line. It is read in two
steps: the lines, then the tables that they build. A table joins the table
around it when it is complete, at the next header or at the end of the text.
-/

namespace CoverageOverlay.Toml

/-! ## Lines -/

/-- What a line can say. -/
inductive Statement
  /-- A value for a key. -/
  | entry (path : List Key) (node : Node)
  /-- A table begins. -/
  | header (path : List Key) (span : Span)
  /-- One more of the tables that share a header begins. -/
  | sharedHeader (path : List Key) (span : Span)

/-- A header, or an entry, with the rest of its line. -/
def statement? (t : Text) : Option (Statement × Text) :=
  match t with
  | '[' :: '[' :: rest =>
    match keyPath? (nestingLimit - 1) rest with
    | some (path, ']' :: ']' :: rest) =>
      (lineRest? rest).map fun after => (.sharedHeader path (spanTo t rest), after)
    | _ => none
  | '[' :: rest =>
    match keyPath? (nestingLimit - 1) rest with
    | some (path, ']' :: rest) =>
      (lineRest? rest).map fun after => (.header path (spanTo t rest), after)
    | _ => none
  | _ =>
    match assignment? t with
    | none => none
    | some (path, rest) =>
      match value? rest with
      | none => none
      | some (node, rest) => (lineRest? rest).map fun after => (.entry path node, after)

/-- The statements of a text after those found, last first. -/
def statementsFrom? : (fuel : Nat) → List Statement → Text → Option (List Statement)
  | 0, _, _ => none
  | fuel + 1, found, t =>
    match skipBlanks t with
    | [] => some found.reverse
    | '#' :: rest => (lineRest? ('#' :: rest)).bind (statementsFrom? fuel found)
    | t =>
      match newline? t with
      | some rest => statementsFrom? fuel found rest
      | none =>
        (statement? t).bind fun (statement, rest) => statementsFrom? fuel (statement :: found) rest

/-- The statements of a text, which may begin with a byte order mark. Every line has a character. -/
def statements? (t : Text) : Option (List Statement) :=
  let t := if t.head? = some '\uFEFF' then t.tail else t
  statementsFrom? (t.length + 1) [] t

/-! ## Tables -/

/-- The tables that are complete, and the one that is being filled. -/
structure Draft where
  /-- The entries of the top table, once it is complete. -/
  top : Entries
  /-- The keys that lead to the table that is being filled. -/
  path : List Key
  /-- Whether that table shares its header. -/
  shared : Bool
  /-- The entries of that table. -/
  entries : Entries
  /-- Where that table is written. -/
  span : Option Span

namespace Draft

/-- Nothing but the top table, empty. -/
def start : Draft := ⟨[], [], false, [], none⟩

/-- Put a complete table among the tables that share its header. -/
def addShared? (key : Key) (table : Node) (entries : Entries) : Option Entries :=
  match entries.find? key.name with
  | some (.tables elements) => some (entries.replace key.name (.tables (elements ++ [table])))
  | _ => none

/-- Complete the table that is being filled. -/
def close? (d : Draft) : Option Entries :=
  match d.path.getLast? with
  | none => some d.entries
  | some key =>
    let table := Node.table .header d.entries d.span
    let add := if d.shared then addShared? key table else fun entries => entries.add? key table
    Entries.changeAt? add d.path.dropLast d.top

/-- Begin a table with a header of its own. It may have been implied before, and then goes on. -/
def openTable? (top : Entries) (path : List Key) (span : Span) : Option Draft :=
  path.getLast?.bind fun key =>
    let parents := path.dropLast
    let entries? : Option Entries :=
      match (Entries.reach parents top).find? key.name with
      | none => some []
      | some (.table .implied inner _) => some inner
      | some _ => none
    match entries?, Entries.changeAt? (fun es => some (es.erase key.name)) parents top with
    | some entries, some top => some ⟨top, path, false, entries, some span⟩
    | _, _ => none

/-- Begin one more of the tables that share a header. -/
def openShared? (top : Entries) (path : List Key) (span : Span) : Option Draft :=
  path.getLast?.bind fun key =>
    let reserve (entries : Entries) : Option Entries :=
      match entries.find? key.name with
      | none => some (entries ++ [(key, .tables [])])
      | some (.tables _) => some entries
      | some _ => none
    (Entries.changeAt? reserve path.dropLast top).map fun top => ⟨top, path, true, [], some span⟩

/-- Add an entry to the table that is being filled; the table then reaches to the end of its value. -/
def addEntry? (d : Draft) (path : List Key) (node : Node) : Option Draft :=
  path.getLast?.bind fun key =>
    (d.entries.addDotted? key node path.dropLast).map fun entries =>
      let span :=
        match d.span, node.span? with
        | some table, some value => some ⟨table.left, value.after⟩
        | _, _ => d.span
      { d with entries, span }

/-- Take one statement. -/
def take? (d : Draft) : Statement → Option Draft
  | .entry path node => d.addEntry? path node
  | .header path span => d.close?.bind fun top => openTable? top path span
  | .sharedHeader path span => d.close?.bind fun top => openShared? top path span

end Draft

/-- The entries of the top table of a text, if the text is well-formed. -/
def parse? (t : Text) : Option Entries :=
  (statements? t).bind fun statements => (statements.foldlM Draft.take? .start).bind Draft.close?

end CoverageOverlay.Toml
