-- SUMMARY: Reading sets of characters between brackets.
import CoverageOverlay.Regex.Escape

/-!
# Brackets

Between brackets stand characters, ranges, classes and further brackets; two
signs between them take the characters of both sides, of the left side only, or
of one side only. The operators have one rank and group to the left. A closing
bracket that comes first and hyphens before everything else stand for
themselves.
-/

namespace CoverageOverlay.Regex

/-- The members of a set so far, the last first. -/
structure Members where
  span : Span
  items : List SetTree
deriving Repr, Inhabited

namespace Members

/-- No members, at a place. -/
def none (span : Span) : Members := ⟨span, []⟩

/-- One member more. -/
def push (m : Members) (item : SetTree) : Members :=
  let start := if m.items.isEmpty then item.span.start else m.span.start
  ⟨⟨start, item.span.stop⟩, item :: m.items⟩

/-- The set of the members. -/
def toSet (m : Members) : SetTree :=
  match m.items with
  | [] => .empty m.span
  | [item] => item
  | items => .union m.span items.reverse

end Members

/-- The left side of an operator and the operator. -/
abbrev Pending := Option (SetTree × SetOperator)

/-- A set with what stands before it. -/
def Pending.close (pending : Pending) (right : SetTree) : SetTree :=
  match pending with
  | none => right
  | some (left, operator) => .combined ⟨left.span.start, right.span.stop⟩ operator left right

namespace Reader

/-! ## Members -/

/-- Read a class with a name between colons, if one comes next. -/
def asciiClass? : Reader (Option SetTree) := do
  let start ← cursor
  let found : Option (AsciiClass × Bool × Cursor) := do
    let inner ← start.dropWord? ['[', ':']
    let (negated, inner) :=
      match inner.dropWord? ['^'] with
      | some inner => (true, inner)
      | none => (false, inner)
    let name := inner.rest.takeWhile (· ≠ ':')
    let stop ← (← inner.dropWord? name).dropWord? [':', ']']
    return (← AsciiClass.ofName? name, negated, stop)
  match found with
  | some (kind, negated, stop) =>
    moveTo stop
    return some (.ascii (← spanFrom start.position) kind negated)
  | none => return none

/-- Read a member that can bound a range. -/
def member : Reader Tree := do
  let c ← peek .bracketUnclosed
  if c = '\\' then escape
  else
    let span ← charSpan
    next
    return .literal ⟨span, c, false⟩

/-- A member by itself. -/
def lone : Tree → Reader SetTree
  | .literal l => return .literal l
  | .letter span kind negated => return .letter span kind negated
  | .property span query negated => return .property span query negated
  | t => fail t.span .bracketEscapeInvalid

/-- A member as a bound of a range. -/
def bound : Tree → Reader Literal
  | .literal l => return l
  | t => fail t.span .rangeBoundInvalid

/-- Stop at the end: the bracket is not closed. -/
def untilClosed (opening : Span) : Reader Unit := do
  if ← atEnd then fail opening .bracketUnclosed

/-- Read a range or a member by itself. -/
def range (opening : Span) : Reader SetTree := do
  let first ← member
  skip
  untilClosed opening
  let second? := (← cursor).secondPart?
  if (← peek?) ≠ some '-' ∨ second? = some ']' ∨ second? = some '-' then lone first
  else
    advance
    untilClosed opening
    let last ← member
    let span : Span := ⟨first.span.start, last.span.stop⟩
    let least ← bound first
    let greatest ← bound last
    if least.char ≤ greatest.char then return .range span least greatest
    else fail span .rangeInvalid

/-! ## Brackets -/

/-- Read an operator, if one comes next. -/
def operator? : Reader (Option SetOperator) := do
  if ← accept ['&', '&'] then return some .intersection
  else if ← accept ['-', '-'] then return some .difference
  else if ← accept ['~', '~'] then return some .symmetricDifference
  else return none

/-- Read an opening bracket with what stands for itself directly after it: the part of both, whether
the set is negated, and its first members. -/
def openBracket : Reader (Span × Bool × Members) := do
  let start ← position
  advance
  let negated := (← peekFrom start .bracketUnclosed) = '^'
  if negated then
    advance
    let _ ← peekFrom start .bracketUnclosed
  let before ← here
  let hyphens ← takeWhile (· = '-')
  let members := hyphens.foldl (fun m (c, span) => m.push (.literal ⟨span, c, false⟩)) (.none before)
  if !hyphens.isEmpty ∧ (← atEnd) then fail (.point start) .bracketUnclosed
  if hyphens.isEmpty ∧ (← peek?) = some ']' then
    let members := members.push (.literal ⟨← charSpan, ']', false⟩)
    advance
    let _ ← peekFrom start .bracketUnclosed
    return (← spanFrom start, negated, members)
  else return (← spanFrom start, negated, members)

/-- Read the members of a set up to its closing bracket. The fuel is at least the number of characters
that are left. -/
def membersFrom (opening : Span) (pending : Pending) (members : Members) : Nat → Reader SetTree
  | 0 => fail opening .bracketUnclosed
  | fuel + 1 => do
    skip
    untilClosed opening
    if (← peek?) = some '[' then
      match ← asciiClass? with
      | some item => membersFrom opening pending (members.push item) fuel
      | none =>
        let (nested, negated, first) ← openBracket
        let inner ← membersFrom nested none first fuel
        let item := SetTree.bracket (← spanFrom nested.start) negated inner
        membersFrom opening pending (members.push item) fuel
    else if (← peek?) = some ']' then
      next
      return pending.close members.toSet
    else
      match ← operator? with
      | some operator =>
        let left := pending.close members.toSet
        membersFrom opening (some (left, operator)) (.none (← here)) fuel
      | none => membersFrom opening pending (members.push (← range opening)) fuel

/-- Read a set in brackets; the cursor is before the opening bracket. -/
def bracket : Reader Tree := do
  let (opening, negated, members) ← openBracket
  let inner ← membersFrom opening none members ((← cursor).rest.length + 1)
  return .bracket (← spanFrom opening.start) negated inner

end Reader

end CoverageOverlay.Regex
