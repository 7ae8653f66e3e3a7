-- SUMMARY: The records of a text as a sequence that is read one line at a time.
import CoverageOverlay.Record.Line
import CoverageOverlay.Text.Lines

/-!
# Sequences of records

A line gives at most one record. The records of a text are those of its lines,
in order. They can be pulled one at a time: a pull reads lines up to the next
record and leaves the text after that line, and no line is read before it is
needed.
-/

namespace CoverageOverlay.Record

/-- The readings of the lines of a text, each with the events of its line. -/
def readings (t : Text) : List (Logged (Option Record)) :=
  (Text.lines t).map parseLine

/-- The next record and the text after its line, if a line of the text gives one. -/
def pull? (t : Text) : Logged (Option (Record × Text)) :=
  match _hline : Text.nextLine? t with
  | none => pure none
  | some (line, rest) => do
    match ← parseLine line with
    | some r => return some (r, rest)
    | none => pull? rest
termination_by t.length
decreasing_by exact Text.length_lt_of_nextLine? _hline

/-- The records that `count` pulls give, and the text that they leave. -/
def pull (t : Text) : Nat → Logged (List Record × Text)
  | 0 => pure ([], t)
  | count + 1 => do
    match ← pull? t with
    | none => return ([], [])
    | some (r, rest) => (fun (records, left) => (r :: records, left)) <$> pull rest count

/-- All records of a text. -/
def parse (t : Text) : Logged (List Record) :=
  match _hline : Text.nextLine? t with
  | none => pure []
  | some (line, rest) => do
    match ← parseLine line with
    | some r => (r :: ·) <$> parse rest
    | none => parse rest
termination_by t.length
decreasing_by all_goals exact Text.length_lt_of_nextLine? _hline

end CoverageOverlay.Record
