-- SUMMARY: Reading whole patterns: repetitions, groups and branches.
import CoverageOverlay.Regex.Bracket
import CoverageOverlay.Regex.Group

/-!
# Reading patterns

A pattern consists of branches with bars between them, a branch of parts. A part
can be followed by signs that say how often it is repeated. Flags for the rest
of a group count as a part that cannot be repeated.
-/

namespace CoverageOverlay.Regex

/-- The part of a pattern from the last opened group on, as far as it was read. -/
structure Draft where
  /-- Where the branches begin. -/
  first : Position
  /-- The branches that are complete, the last first. -/
  branches : List Tree
  /-- Where the branch begins that is being read. -/
  start : Position
  /-- The parts of the branch, the last first. -/
  parts : List Tree
deriving Repr, Inhabited

namespace Draft

/-- The draft at the beginning of a group. -/
def fresh (p : Position) : Draft := ⟨p, [], p, []⟩

/-- One part more. -/
def push (d : Draft) (t : Tree) : Draft := { d with parts := t :: d.parts }

/-- The branch that is being read, which ends at a place. -/
def branch (d : Draft) (stop : Position) : Tree :=
  match d.parts with
  | [] => .empty
  | [t] => t
  | parts => .sequence ⟨d.start, stop⟩ parts.reverse

/-- What was read since the beginning of the group, which ends at a place. -/
def close (d : Draft) (stop : Position) : Tree :=
  if d.branches.isEmpty then d.branch stop
  else .branches ⟨d.first, stop⟩ (d.branch stop :: d.branches).reverse

end Draft

namespace Reader

/-! ## Repetitions -/

/-- The greatest number that a repetition can have. -/
def maxCount : Nat := 0xFFFFFFFF

/-- Read a number with white space around it, or say why there is none. -/
def count : Reader (Except Fault Nat) := do
  let before ← cursor
  let blanks := before.rest.takeWhile Text.isBlankChar
  moveTo ((before.dropWord? blanks).getD before)
  let start ← position
  let digits ← takeWhile Numeral.isDigit
  let span ← spanFrom start
  let _ ← takeWhile Text.isBlankChar
  let value := Numeral.value (digits.map Prod.fst)
  if digits.isEmpty then return .error ⟨.countEmpty, span⟩
  else if value > maxCount then return .error ⟨.decimalInvalid, span⟩
  else return .ok value

/-- The last part of a draft, which a sign repeats, and the draft without it. -/
def repeated (d : Draft) : Reader (Tree × Draft) := do
  match d.parts with
  | [] | .empty :: _ | .flags _ :: _ => fail (← here) .repetitionMissing
  | t :: rest => return (t, { d with parts := rest })

/-- Repeat the last part as often as a single sign says. -/
def signRepetition (d : Draft) (least : Nat) (most : Option Nat) : Reader Draft := do
  let (t, d) ← repeated d
  next
  if (← peek?) = some '?' then next
  return d.push (.repetition (← spanFrom t.span.start) least most t)

/-- Read the numbers of a repetition up to the closing brace. -/
def counts (start : Position) : Reader (Nat × Option Nat) := do
  let least ← count
  let c ← peekFrom start .countUnclosed
  if c = ',' then
    advance
    let c ← peekFrom start .countUnclosed
    let least ← least
    if c = '}' then return (least, none)
    else
      let most ← (← count)
      return (least, some most)
  else
    let least ← least
    return (least, some least)

/-- Repeat the last part as often as numbers between braces say. -/
def countedRepetition (d : Draft) : Reader Draft := do
  let start ← position
  let (t, d) ← repeated d
  advance
  let _ ← peekFrom start .countUnclosed
  let (least, most) ← counts start
  if (← peek?) ≠ some '}' then fail (← spanFrom start) .countUnclosed
  advance
  if (← peek?) = some '?' then next
  let span ← spanFrom start
  if most.any (· < least) then fail span .countsInvalid
  return d.push (.repetition ⟨t.span.start, span.stop⟩ least most t)

/-! ## Patterns -/

/-- Read a part that is neither a group nor a set. -/
def primitive (c : Char) : Reader Tree := do
  if c = '\\' then escape
  else
    let span ← charSpan
    next
    if c = '.' then return .dot span
    else if c = '^' then return .assertion span .lineStart
    else if c = '$' then return .assertion span .lineEnd
    else return .literal ⟨span, c, false⟩

/-- Skip white space and comments from here on, or no longer. -/
def setSpaced (spaced : Bool) : Reader Unit := do
  moveTo { ← cursor with spaced }

/-- Read the rest of the pattern or of the group that a parenthesis opened. The fuel is at least the
number of characters that are left. -/
def treeFrom (group : Option Span) (d : Draft) : Nat → Reader Tree
  | 0 => return d.close (← position)
  | fuel + 1 => do
    skip
    match ← peek? with
    | none =>
      match group with
      | some parenthesis => fail parenthesis .groupUnclosed
      | none => return d.close (← position)
    | some '(' =>
      let around := (← cursor).spaced
      match ← opening with
      | .flags flags =>
        setSpaced ((flags.state? .spaced).getD around)
        treeFrom group (d.push (.flags flags)) fuel
      | .group parenthesis captures flags =>
        setSpaced ((flags.state? .spaced).getD around)
        let sub ← treeFrom (some parenthesis) (.fresh (← position)) fuel
        setSpaced around
        let span ← spanFrom parenthesis.start
        treeFrom group (d.push (.group span captures flags sub)) fuel
    | some ')' =>
      if group.isNone then fail (← charSpan) .groupUnopened
      let stop ← position
      next
      return d.close stop
    | some '|' =>
      let stop ← position
      next
      let start ← position
      treeFrom group { d with branches := d.branch stop :: d.branches, start, parts := [] } fuel
    | some '[' => treeFrom group (d.push (← bracket)) fuel
    | some '?' => treeFrom group (← signRepetition d 0 (some 1)) fuel
    | some '*' => treeFrom group (← signRepetition d 0 none) fuel
    | some '+' => treeFrom group (← signRepetition d 1 none) fuel
    | some '{' => treeFrom group (← countedRepetition d) fuel
    | some c => treeFrom group (d.push (← primitive c)) fuel

end Reader

/-- The tree of a pattern. -/
def Tree.parse (t : Text) : Except Fault Tree := do
  let (tree, _) ← (Reader.treeFrom none (.fresh .start) (t.length + 1)).run ⟨.ofText t, []⟩
  return tree

end CoverageOverlay.Regex
