-- SUMMARY: What patterns mean: which parts of a text match, and searching for one that does.
import CoverageOverlay.CharSet

/-!
# Patterns

A pattern matches stretches of a text. Whether it matches at a place can depend
on the characters before and after the place. A search goes through the text
once: it keeps what would still have to follow for a match that began at the
place or before it, and it ends where nothing has to follow.

What has to follow after a character is found by taking the character off the
front of a pattern, in every way in which the pattern can begin with it.
-/

namespace CoverageOverlay.Regex

/-! ## Conditions on places -/

/-- A condition on a place in a text. Those about words know which characters words consist of. -/
inductive Look
  | textStart
  | textEnd
  | lineStart
  | lineEnd
  /-- A carriage return, a line feed, or both together end a line. -/
  | crlfStart
  | crlfEnd
  | boundary (word : CharSet)
  | notBoundary (word : CharSet)
  | wordStart (word : CharSet)
  | wordEnd (word : CharSet)
  /-- No word goes on before the place. -/
  | wordStartHalf (word : CharSet)
  /-- No word goes on after the place. -/
  | wordEndHalf (word : CharSet)
deriving DecidableEq, Repr, Inhabited

/-- Whether a condition holds between two characters; at the ends of the text one is missing. -/
def Look.holds (before after : Option Char) : Look → Bool
  | textStart => before.isNone
  | textEnd => after.isNone
  | lineStart => before.isNone || before = some '\n'
  | lineEnd => after.isNone || after = some '\n'
  | crlfStart =>
    before.isNone || before = some '\n' || (before = some '\r' && after ≠ some '\n')
  | crlfEnd => after.isNone || after = some '\r' || (after = some '\n' && before ≠ some '\r')
  | boundary word => before.any word.contains != after.any word.contains
  | notBoundary word => before.any word.contains == after.any word.contains
  | wordStart word => !before.any word.contains && after.any word.contains
  | wordEnd word => before.any word.contains && !after.any word.contains
  | wordStartHalf word => !before.any word.contains
  | wordEndHalf word => !after.any word.contains

/-! ## Patterns -/

/-- A pattern. -/
inductive Pattern
  /-- The empty text. -/
  | empty
  /-- One character of a set. -/
  | chars (set : CharSet)
  /-- The empty text at a place where a condition holds. -/
  | look (condition : Look)
  /-- One pattern after another. -/
  | seq (first second : Pattern)
  /-- Either pattern. -/
  | either (left right : Pattern)
  /-- A pattern some number of times. -/
  | repeated (least : Nat) (most : Option Nat) (p : Pattern)
  /-- A pattern whose match is kept. -/
  | captured (p : Pattern)
deriving DecidableEq, Repr, Inhabited

namespace Pattern

/-- Whether a pattern matches the empty text between two characters. -/
def matchesEmpty (before after : Option Char) : Pattern → Bool
  | empty => true
  | chars _ => false
  | look condition => condition.holds before after
  | seq p q => p.matchesEmpty before after && q.matchesEmpty before after
  | either p q => p.matchesEmpty before after || q.matchesEmpty before after
  | repeated least _ p => least = 0 || p.matchesEmpty before after
  | captured p => p.matchesEmpty before after

/-- What has to follow the first pattern, and then the second. -/
def andThen (q : Pattern) : Pattern → Pattern
  | empty => q
  | p => seq p q

/-- What can have to follow once a pattern has begun with the character `c` after `before`. A
repetition whose pattern matches the empty text here can skip as many turns as it has to take. -/
def after (before : Option Char) (c : Char) : Pattern → List Pattern
  | empty | look _ => []
  | chars set => if set.contains c then [empty] else []
  | seq p q =>
    let inFirst := (p.after before c).map (andThen q)
    if p.matchesEmpty before (some c) then inFirst ++ q.after before c else inFirst
  | either p q => p.after before c ++ q.after before c
  | repeated least most p =>
    if most = some 0 then []
    else
      let least := if p.matchesEmpty before (some c) then 0 else least - 1
      let rest :=
        if most = some 1 then empty else repeated least (most.map (· - 1)) p
      (p.after before c).map (andThen rest)
  | captured p => p.after before c

/-- Whether a match begins in the text after `before`, or one of the given patterns matches a beginning
of it. -/
def foundFrom (p : Pattern) (started : List Pattern) (before : Option Char) : Text → Bool
  | [] => (p :: started).any (·.matchesEmpty before none)
  | c :: rest =>
    (p :: started).any (·.matchesEmpty before (some c))
      || foundFrom p ((p :: started).flatMap (·.after before c)).eraseDups (some c) rest

/-- Whether a pattern matches some part of a text. -/
def occursIn (p : Pattern) (t : Text) : Bool :=
  p.foundFrom [] none t

end Pattern

end CoverageOverlay.Regex
