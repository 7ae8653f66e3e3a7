-- SUMMARY: Finding the record of one line among everything else that the line holds.
import CoverageOverlay.Log.Logged
import CoverageOverlay.Numeral
import CoverageOverlay.Text.Blank

/-!
# The record of a line

A candidate is a run of the letters A to Z, a colon, the flag `T` or `NIL`, a
comma, a run of digits, a comma, and a run of digits. The runs are as long as
they can be, so a candidate begins at the first letter of its run and
candidates never overlap. Text around a candidate does not matter.

The record of a line is its first candidate both of whose numbers are 64-bit
numbers. Candidates with wider numbers are passed over, each with an event.
-/

namespace CoverageOverlay

/-! ## Candidates -/

/-- A place in a line that has the form of a record, with its two runs of digits. -/
structure Candidate where
  kind : Text
  /-- Whether the flag is `T`. -/
  executed : Bool
  start : Text
  length : Text
deriving DecidableEq, Repr, Inhabited

namespace Candidate

/-- Whether a character can be part of a tag. -/
def isTag (c : Char) : Bool :=
  'A' ≤ c && c ≤ 'Z'

/-- The candidate whose tag and flag were read and whose numbers follow in `t`. -/
def ofNumbers? (kind : Text) (executed : Bool) (t : Text) : Option Candidate :=
  let start := t.takeWhile Numeral.isDigit
  match t.dropWhile Numeral.isDigit with
  | ',' :: rest =>
    let length := rest.takeWhile Numeral.isDigit
    if start = [] ∨ length = [] then none else some ⟨kind, executed, start, length⟩
  | _ => none

/-- The candidate that begins with the run of letters at the head of `t`. -/
def ofHead? (t : Text) : Option Candidate :=
  let kind := t.takeWhile isTag
  match t.dropWhile isTag with
  | ':' :: 'T' :: ',' :: rest => ofNumbers? kind true rest
  | ':' :: 'N' :: 'I' :: 'L' :: ',' :: rest => ofNumbers? kind false rest
  | _ => none

/-- The record of a candidate, if its numbers are not too wide. -/
def record? (c : Candidate) : Option Record := do
  let start ← Numeral.word? c.start
  let length ← Numeral.word? c.length
  return ⟨c.kind, c.executed, start, length⟩

/-- The candidates in `t`. With `inRun`, a letter comes directly before `t`. -/
def allFrom (inRun : Bool) : Text → List Candidate
  | [] => []
  | c :: rest =>
    if isTag c && !inRun then
      match ofHead? (c :: rest) with
      | some found => found :: allFrom true rest
      | none => allFrom true rest
    else allFrom (isTag c) rest

/-- The candidates of a line, in order. -/
def all (line : Text) : List Candidate :=
  allFrom false line

/-- The first usable record of some candidates of a line; the candidates before it leave an event each. -/
def firstRecord (line : Text) : List Candidate → Logged (Option Record)
  | [] => pure none
  | c :: rest =>
    match c.record? with
    | some r => pure (some r)
    | none => do
      Logged.report (.offsetsTooWide line)
      firstRecord line rest

@[simp] theorem firstRecord_value (line : Text) (cs : List Candidate) :
    (firstRecord line cs).value = cs.findSome? record? := by
  induction cs with
  | nil => rfl
  | cons c rest ih => cases h : c.record? <;> simp [firstRecord, h, ih]

@[simp] theorem firstRecord_events (line : Text) (cs : List Candidate) :
    (firstRecord line cs).events =
      (cs.takeWhile fun c => c.record?.isNone).map fun _ => .offsetsTooWide line := by
  induction cs with
  | nil => rfl
  | cons c rest ih => cases h : c.record? <;> simp [firstRecord, h, ih]

end Candidate

/-! ## Lines -/

namespace Record

/-- The record of a line. A line without one leaves an event unless it is blank. -/
def parseLine (line : Text) : Logged (Option Record) := do
  let found ← Candidate.firstRecord line (Candidate.all line)
  if found.isNone && !Text.isBlank line then
    Logged.report (.noRecord line)
  return found

theorem parseLine_value (line : Text) :
    (parseLine line).value = (Candidate.all line).findSome? Candidate.record? := by
  simp only [parseLine, Logged.bind_value, Candidate.firstRecord_value]
  split <;> rfl

end Record

end CoverageOverlay
