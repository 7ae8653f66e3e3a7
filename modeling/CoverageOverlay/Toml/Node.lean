-- SUMMARY: Tables and values of a settings text, with the places where they stand, and how tables grow.
import CoverageOverlay.Decimal.Double
import CoverageOverlay.Text.Basic

/-!
# Tables and values

The entries of a table keep the order in which they were added. A table can be
named by a header, be implied by the header of a table inside it, or be implied
by a key with dots; these three grow in different ways, and nothing is ever
defined twice.
-/

namespace CoverageOverlay.Toml

/-! ## Nodes -/

/-- A part of a text, by the number of characters that follow its start and its end. -/
structure Span where
  /-- The number of characters from the first one of the part to the end of the text. -/
  left : Nat
  /-- The number of characters after the part. -/
  after : Nat
deriving DecidableEq, Repr, Inhabited

/-- A key with its place. -/
structure Key where
  /-- The key itself, without quotes and escapes. -/
  name : Text
  span : Span
deriving DecidableEq, Repr, Inhabited

/-- What made a table. -/
inductive Origin
  /-- A header of its own. -/
  | header
  /-- The header of a table inside it. -/
  | implied
  /-- A key with dots. -/
  | dotted
deriving DecidableEq, Repr, Inhabited

/-- What a key can stand for. -/
inductive Node
  | string (value : Text) (span : Span)
  | integer (value : Int) (span : Span)
  | float (value : Double) (span : Span)
  | boolean (value : Bool) (span : Span)
  | datetime (span : Span)
  | array (items : List Node) (span : Span)
  /-- A table between braces. -/
  | inline (entries : List (Key × Node)) (span : Span)
  /-- A table that is spread over lines; only one with a header has a place. -/
  | table (origin : Origin) (entries : List (Key × Node)) (span : Option Span)
  /-- The tables that share a header of double brackets. -/
  | tables (elements : List Node)
deriving Inhabited

/-- The entries of a table, in order. -/
abbrev Entries := List (Key × Node)

/-- Where a node is written, if it is written in one place. -/
def Node.span? : Node → Option Span
  | string _ span | integer _ span | float _ span | boolean _ span | datetime span
  | array _ span | inline _ span => some span
  | table _ _ span => span
  | tables elements =>
    match elements.head?, elements.getLast? with
    | some (.table _ _ (some first)), some (.table _ _ (some last)) => some ⟨first.left, last.after⟩
    | _, _ => none

/-! ## Entries -/

namespace Entries

/-- The node of a key. -/
def find? (entries : Entries) (name : Text) : Option Node :=
  (List.find? (fun entry => entry.1.name = name) entries).map (·.2)

/-- The entries without a key. -/
def erase (entries : Entries) (name : Text) : Entries :=
  entries.filter (·.1.name ≠ name)

/-- The entries with another node for a key that is there. -/
def replace (entries : Entries) (name : Text) (node : Node) : Entries :=
  entries.map fun entry => if entry.1.name = name then (entry.1, node) else entry

/-- Add an entry under a key that is not there yet. -/
def add? (entries : Entries) (key : Key) (node : Node) : Option Entries :=
  if (entries.find? key.name).isSome then none else some (entries ++ [(key, node)])

/-- Change the last table of those that share a header. -/
def changeLast? (change : Entries → Option Entries) (elements : List Node) : Option Node :=
  match elements.getLast? with
  | some (.table origin inner span) =>
    (change inner).map fun inner => .tables (elements.dropLast ++ [.table origin inner span])
  | _ => none

/-- Add an entry under the last key, inside tables that the keys before it lead to. Such a table must not
have a header, and the innermost one must have been made by dots. -/
def addDotted? (key : Key) (node : Node) : List Key → Entries → Option Entries
  | [], entries => entries.add? key node
  | step :: path, entries =>
    match entries.find? step.name with
    | none =>
      (addDotted? key node path []).map fun inner =>
        entries ++ [(step, .table .dotted inner none)]
    | some (.table origin inner span) =>
      if origin = .header ∨ (path = [] ∧ origin ≠ .dotted) then none
      else
        (addDotted? key node path inner).map fun inner =>
          entries.replace step.name (.table origin inner span)
    | some (.tables elements) =>
      if path = [] then none
      else (changeLast? (addDotted? key node path) elements).map (entries.replace step.name)
    | some _ => none

/-- Change the table that a header's keys lead to; tables on the way are implied where they are missing,
and of tables that share a header the last one is meant. -/
def changeAt? (change : Entries → Option Entries) : List Key → Entries → Option Entries
  | [], entries => change entries
  | step :: path, entries =>
    match entries.find? step.name with
    | none =>
      (changeAt? change path []).map fun inner =>
        entries ++ [(step, .table .implied inner none)]
    | some (.table origin inner span) =>
      (changeAt? change path inner).map fun inner =>
        entries.replace step.name (.table origin inner span)
    | some (.tables elements) =>
      (changeLast? (changeAt? change path) elements).map (entries.replace step.name)
    | some _ => none

/-- The entries of the table that a header's keys lead to; none are in a table that is missing. -/
def reach : List Key → Entries → Entries
  | [], entries => entries
  | step :: path, entries =>
    match entries.find? step.name with
    | some (.table _ inner _) => reach path inner
    | some (.tables elements) =>
      match elements.getLast? with
      | some (.table _ inner _) => reach path inner
      | _ => []
    | _ => []

end Entries

end CoverageOverlay.Toml
