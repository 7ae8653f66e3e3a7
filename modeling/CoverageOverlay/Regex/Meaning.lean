-- SUMMARY: From trees to patterns: flags, classes and what they refuse.
import CoverageOverlay.Regex.Pattern
import CoverageOverlay.Regex.Tree
import CoverageOverlay.Unicode.Folding
import CoverageOverlay.Unicode.Property

/-!
# Meaning of trees

The meaning of a part depends on the flags before it. Flags hold to the end of
the group in which they stand, across its branches. Without the flag for
Unicode, classes are sets of bytes; one with a byte above 7F could match what is
not UTF-8 and is refused. Where case does not count, a set takes in the other
case of its characters before it is negated.
-/

namespace CoverageOverlay.Regex

/-! ## Modes -/

/-- The flags that count. -/
structure Modes where
  ignoreCase : Bool
  multiLine : Bool
  dotAll : Bool
  unicode : Bool
  crlf : Bool
deriving DecidableEq, Repr, Inhabited

namespace Modes

/-- The modes at the beginning of a pattern. -/
def default : Modes := ⟨false, false, false, true, false⟩

/-- The modes after some flags. -/
def apply (m : Modes) (flags : Flags) : Modes where
  ignoreCase := (flags.state? .ignoreCase).getD m.ignoreCase
  multiLine := (flags.state? .multiLine).getD m.multiLine
  dotAll := (flags.state? .dotAll).getD m.dotAll
  unicode := (flags.state? .unicode).getD m.unicode
  crlf := (flags.state? .crlf).getD m.crlf

/-- A set, with the other case of its characters where case does not count. -/
def fold (m : Modes) (s : CharSet) : CharSet :=
  if !m.ignoreCase then s
  else if m.unicode then Unicode.Folding.fold s
  else Unicode.Folding.foldAscii s

/-- The set itself or, if it is negated, everything else. -/
def negate (m : Modes) (negated : Bool) (s : CharSet) : CharSet :=
  if !negated then s
  else if m.unicode then s.complement
  else s.complementTo 0xFF

/-- A set that is written in a place, unless it holds bytes above 7F. -/
def allow (m : Modes) (span : Span) (s : CharSet) : Except Fault CharSet :=
  if !m.unicode && !s.isAscii then .error ⟨.invalidBytes, span⟩ else .ok s

/-- The meaning of a class with some characters. -/
def close (m : Modes) (span : Span) (negated : Bool) (s : CharSet) : Except Fault CharSet :=
  m.allow span (m.negate negated (m.fold s))

/-! ## Classes -/

/-- The characters of a class with one letter. -/
def letters (m : Modes) (kind : LetterClass) : CharSet :=
  if m.unicode then
    match kind with
    | .digit => Unicode.Property.digits
    | .space => Unicode.Property.spaces
    | .word => Unicode.Property.words
  else
    match kind with
    | .digit => ⟨AsciiClass.digit.ranges⟩
    | .space => ⟨AsciiClass.space.ranges⟩
    | .word => ⟨AsciiClass.word.ranges⟩

/-- The meaning of a class with one letter. Such a class has both cases of its characters. -/
def letterClass (m : Modes) (span : Span) (kind : LetterClass) (negated : Bool) :
    Except Fault CharSet :=
  m.allow span (m.negate negated (m.letters kind))

/-- The meaning of a property. -/
def property (m : Modes) (span : Span) (query : Query) (negated : Bool) : Except Fault CharSet := do
  if !m.unicode then throw ⟨.propertyNotAllowed, span⟩
  let found :=
    match query with
    | .name name => Unicode.Property.ofName name
    | .value name value => Unicode.Property.ofValue name value
  match found with
  | .ok s => m.close span negated s
  | .error .property => throw ⟨.propertyNotFound, span⟩
  | .error .value => throw ⟨.propertyValueNotFound, span⟩

/-- The character of a literal in a set. -/
def member (m : Modes) (l : Literal) : Except Fault Char :=
  if m.unicode || l.char.toNat < 0x80 then .ok l.char
  else .error ⟨if l.isByte then .invalidBytes else .propertyNotAllowed, l.span⟩

/-- The combination of two sets. -/
def combine (m : Modes) (operator : SetOperator) (left right : CharSet) : CharSet :=
  match operator with
  | .intersection => (m.fold left).inter (m.fold right)
  | .difference => (m.fold left).diff (m.fold right)
  | .symmetricDifference => (m.fold left).symmDiff (m.fold right)

mutual

/-- The characters of a set in brackets. -/
def setOf (m : Modes) : SetTree → Except Fault CharSet
  | .empty _ => .ok .empty
  | .literal l => return .single (← m.member l)
  | .range _ first last => return ⟨[((← m.member first).toNat, (← m.member last).toNat)]⟩
  | .ascii span kind negated => m.close span negated ⟨kind.ranges⟩
  | .letter span kind negated => m.letterClass span kind negated
  | .property span query negated => m.property span query negated
  | .bracket span negated inner => do m.close span negated (← m.setOf inner)
  | .union _ parts => m.unionOf parts
  | .combined _ operator left right => do
    let left ← m.setOf left
    let right ← m.setOf right
    return m.combine operator left right

/-- The characters of some sets together. -/
def unionOf (m : Modes) : List SetTree → Except Fault CharSet
  | [] => .ok .empty
  | part :: rest => do
    let s ← m.setOf part
    return s.union (← m.unionOf rest)

end

/-! ## Leaves -/

/-- The meaning of a literal outside of sets. -/
def literal (m : Modes) (l : Literal) : Except Fault CharSet :=
  if !m.unicode && l.isByte && l.char.toNat > 0x7F then .error ⟨.invalidBytes, l.span⟩
  else if !m.unicode && l.char.toNat > 0x7F then .ok (.single l.char)
  else .ok (m.fold (.single l.char))

/-- The meaning of a dot. -/
def dot (m : Modes) (span : Span) : Except Fault CharSet :=
  if !m.unicode then .error ⟨.invalidBytes, span⟩
  else if m.dotAll then .ok .all
  else if m.crlf then .ok (CharSet.complement ⟨[(0x0A, 0x0A), (0x0D, 0x0D)]⟩)
  else .ok (CharSet.single '\n').complement

/-- The meaning of a condition. -/
def condition (m : Modes) (kind : Assertion) : Look :=
  match kind with
  | .lineStart => if !m.multiLine then .textStart else if m.crlf then .crlfStart else .lineStart
  | .lineEnd => if !m.multiLine then .textEnd else if m.crlf then .crlfEnd else .lineEnd
  | .textStart => .textStart
  | .textEnd => .textEnd
  | .boundary => .boundary (m.letters .word)
  | .notBoundary => .notBoundary (m.letters .word)
  | .wordStart => .wordStart (m.letters .word)
  | .wordEnd => .wordEnd (m.letters .word)
  | .wordStartHalf => .wordStartHalf (m.letters .word)
  | .wordEndHalf => .wordEndHalf (m.letters .word)

end Modes

/-! ## Trees -/

mutual

/-- The meaning of a tree, and the modes after it. -/
def Tree.meaning (m : Modes) : Tree → Except Fault (Pattern × Modes)
  | .empty => .ok (.empty, m)
  | .flags changes => .ok (.empty, m.apply changes)
  | .literal l => return (.chars (← m.literal l), m)
  | .dot span => return (.chars (← m.dot span), m)
  | .assertion _ kind => .ok (.look (m.condition kind), m)
  | .letter span kind negated => return (.chars (← m.letterClass span kind negated), m)
  | .property span query negated => return (.chars (← m.property span query negated), m)
  | .bracket span negated inner => do
    return (.chars (← m.close span negated (← m.setOf inner)), m)
  | .repetition _ least most sub => do
    let (p, m) ← sub.meaning m
    return (.repeated least most p, m)
  | .group _ captures changes sub => do
    let (p, _) ← sub.meaning (m.apply changes)
    return (if captures then .captured p else p, m)
  | .branches _ parts => Tree.meaningOfBranches m parts
  | .sequence _ parts => Tree.meaningOfSequence m parts

/-- The meaning of branches. -/
def Tree.meaningOfBranches (m : Modes) : List Tree → Except Fault (Pattern × Modes)
  | [] => .ok (.empty, m)
  | [t] => t.meaning m
  | t :: u :: rest => do
    let (p, m) ← t.meaning m
    let (q, m) ← Tree.meaningOfBranches m (u :: rest)
    return (.either p q, m)

/-- The meaning of the parts of a branch. -/
def Tree.meaningOfSequence (m : Modes) : List Tree → Except Fault (Pattern × Modes)
  | [] => .ok (.empty, m)
  | t :: rest => do
    let (p, m) ← t.meaning m
    let (q, m) ← Tree.meaningOfSequence m rest
    return (.seq p q, m)

end

end CoverageOverlay.Regex
