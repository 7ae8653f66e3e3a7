-- SUMMARY: Readers of patterns: steps along a cursor that can find a fault.
import CoverageOverlay.Regex.Tree

/-!
# Readers

A reader takes characters from a cursor and keeps the names of the groups that
it met. It stops at the first fault.
-/

namespace CoverageOverlay.Regex

/-- What readers share. -/
structure Reading where
  cursor : Cursor
  /-- The names of groups so far, with their places. -/
  names : List (Text × Span)
deriving DecidableEq, Repr, Inhabited

/-- A reader of part of a pattern. -/
abbrev Reader := StateT Reading (Except Fault)

namespace Reader

/-- The cursor. -/
def cursor : Reader Cursor := return (← get).cursor

/-- Go on at a cursor. -/
def moveTo (c : Cursor) : Reader Unit := modify fun r => { r with cursor := c }

/-- Stop with a fault. -/
def fail (span : Span) (cause : Cause) : Reader α := throw ⟨cause, span⟩

/-- The next character. -/
def peek? : Reader (Option Char) := return (← cursor).rest.head?

/-- Whether the text is at its end. -/
def atEnd : Reader Bool := return (← cursor).rest.isEmpty

/-- The place of the cursor. -/
def position : Reader Position := return (← cursor).position

/-- The empty part at the cursor. -/
def here : Reader Span := return .point (← position)

/-- The part of the next character. -/
def charSpan : Reader Span := return (← cursor).charSpan

/-- The part from a place to the cursor. -/
def spanFrom (start : Position) : Reader Span := return (← cursor).spanFrom start

/-- Go past the next character. -/
def next : Reader Unit := do moveTo (← cursor).next

/-- Go past what is skipped. -/
def skip : Reader Unit := do moveTo (← cursor).skip

/-- Go past the next character and what is skipped then. -/
def advance : Reader Unit := do moveTo (← cursor).advance

/-- Go past a word if it comes next, and say whether it did. -/
def accept (word : Text) : Reader Bool := do
  match (← cursor).dropWord? word with
  | some c => moveTo c; return true
  | none => return false

/-- Read the characters that come next and are in a class; what is skipped may stand between them. -/
def takeWhile (inClass : Char → Bool) : Reader (List (Char × Span)) := do
  let (taken, stop) := (← cursor).takeWhile inClass
  moveTo stop
  return taken

/-- The next character; without one, a fault that concerns the part from a place to the end. -/
def peekFrom (start : Position) (cause : Cause) : Reader Char := do
  match ← peek? with
  | some c => return c
  | none => fail (← spanFrom start) cause

/-- The next character; without one, a fault that concerns the end. -/
def peek (cause : Cause) : Reader Char := do peekFrom (← position) cause

end Reader

end CoverageOverlay.Regex
