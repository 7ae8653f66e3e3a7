-- SUMMARY: How large a pattern is when every repetition is written out, and the limit on it.
import CoverageOverlay.Regex.Pattern

/-!
# Size

The size of a pattern is the room in bytes that an automaton for it takes: a
state takes 32, each way out of a state that has a list of them 4 or, if it is
taken on a range of bytes, 8 more. Every turn that a repetition has to take and
every one that it may take has states of its own.

There are two automata, one for reading a text forward and one for reading it
backward, and the limit holds for both. A set of characters becomes a tree of
the bytes of their UTF-8 forms. Forward, equal subtrees are shared; backward,
only the way from the root to a subtree is, and every way to the end starts at
a common state.
-/

namespace CoverageOverlay.Regex

/-! ## Sets -/

/-- One range of bytes on the way down a tree: the first and last byte, and what the ranges below it
hold. Without ranges below, everything does. -/
structure Edge where
  first : Nat
  last : Nat
  below : List (Nat × Nat)
deriving DecidableEq, Repr, Inhabited

/-- Add an edge in front of the edges after it. Two parts of one byte become one edge. -/
def Edge.onto (e : Edge) : List Edge → List Edge
  | [] => [e]
  | f :: rest =>
    if e.first = f.first ∧ e.last = f.last then ⟨e.first, e.last, e.below ++ f.below⟩ :: rest
    else e :: f :: rest

/-- The edges for one range of numbers, whose last digits count to `unit`. -/
def edgesOf (unit : Nat) (range : Nat × Nat) : List Edge :=
  let (a, b) := range
  let (p, q) := (a / unit, b / unit)
  let startsFull := a % unit = 0
  let endsFull := b % unit = unit - 1
  if p = q then
    [⟨p, p, if startsFull ∧ endsFull then [] else [(a % unit, b % unit)]⟩]
  else
    let head : List Edge := if startsFull then [] else [⟨p, p, [(a % unit, unit - 1)]⟩]
    let tail : List Edge := if endsFull then [] else [⟨q, q, [(0, b % unit)]⟩]
    let low := if startsFull then p else p + 1
    let high := if endsFull then q + 1 else q
    let middle : List Edge := if low < high then [⟨low, high - 1, []⟩] else []
    head ++ middle ++ tail

/-- A subtree: the number of its ways out, and these ways, each followed by what is below it. -/
structure Subtree where
  ways : Nat
  form : List Nat
deriving DecidableEq, Repr, Inhabited

/-- The subtrees of the tree for some ranges of numbers with further bytes, the whole tree first. -/
def subtrees : (further : Nat) → List (Nat × Nat) → List Subtree
  | 0, ranges => [⟨ranges.length, ranges.flatMap fun (a, b) => [a, b]⟩]
  | further + 1, ranges =>
    let unit := Nat.pow 64 (further + 1)
    let edges := (ranges.flatMap (edgesOf unit)).foldr Edge.onto []
    let below := edges.map fun e =>
      subtrees further (if e.below = [] then [(0, unit - 1)] else e.below)
    let form := (edges.zip below).flatMap fun (e, trees) =>
      [e.first, e.last, trees.length] ++ (trees.headD default).form
    ⟨edges.length, form⟩ :: below.flatten

/-- The ranges of a set between two code points. -/
def rangesWithin (s : CharSet) (low high : Nat) : List (Nat × Nat) :=
  s.ranges.filterMap fun (a, b) =>
    let range := (max a low, min b high)
    if range.1 ≤ range.2 then some range else none

/-- The trees for the characters of a set whose UTF-8 forms have the same number of bytes. -/
def treesOf (s : CharSet) : List (List Subtree) :=
  let forms : List (Nat × Nat × Nat) :=
    [(0, 0, 0x7F), (1, 0x80, 0x7FF), (2, 0x800, 0xD7FF), (2, 0xE000, 0xFFFF),
     (3, 0x10000, CharSet.maxCode)]
  forms.filterMap fun (further, low, high) =>
    match rangesWithin s low high with
    | [] => none
    | ranges => some (subtrees further ranges)

/-- The number of ways out of some subtrees together. -/
def waysOf (trees : List Subtree) : Nat :=
  trees.foldl (fun ways t => ways + t.ways) 0

/-- The room for a state. -/
def stateSize : Nat := 32

/-- Which way a text is read. -/
inductive Direction
  | forward
  | backward
deriving DecidableEq, Repr, Inhabited

/-- The room for a set of ASCII characters. -/
def asciiSize (ranges : List (Nat × Nat)) : Nat :=
  2 * stateSize + if ranges.length = 1 then 0 else 8 * ranges.length

/-- The room for a set with characters outside of ASCII. Backward, the number of ways to the end is
the number of subtrees' ways less the ways that lead to a subtree. -/
def wideSize (s : CharSet) : Direction → Nat
  | .forward =>
    let trees := treesOf s
    let below := (trees.flatMap List.tail).eraseDups
    let root := waysOf (trees.filterMap List.head?)
    stateSize * (2 + below.length) + 8 * (root + waysOf below)
  | .backward =>
    let trees := treesOf s
    let ways := waysOf trees.flatten
    let inner := trees.foldl (fun inner t => inner + (t.length - 1)) 0
    stateSize * (2 + ways) + 4 * (ways - inner)

/-- The room for a set. -/
def setSize (d : Direction) (s : CharSet) : Nat :=
  match s.ranges with
  | [(a, b)] =>
    if a = b then stateSize * (Char.ofNat a).utf8Size
    else if s.isAscii then asciiSize s.ranges
    else wideSize s d
  | ranges => if s.isAscii then asciiSize ranges else wideSize s d

/-! ## Patterns -/

namespace Pattern

/-- Whether a pattern has several branches. -/
def isEither : Pattern → Bool
  | either .. => true
  | _ => false

/-- Whether a pattern can match the empty text somewhere. -/
def canBeEmpty : Pattern → Bool
  | empty | look _ => true
  | chars _ => false
  | seq p q => p.canBeEmpty && q.canBeEmpty
  | either p q => p.canBeEmpty || q.canBeEmpty
  | repeated least _ p => least = 0 || p.canBeEmpty
  | captured p => p.canBeEmpty

/-- The room for a choice between two ways. -/
def choiceSize : Nat := stateSize + 8

/-- The room for a pattern. Backward, no match is kept. -/
def size (d : Direction) : Pattern → Nat
  | empty => stateSize
  | chars set => setSize d set
  | look _ => stateSize
  | seq p q => if q = empty then p.size d else p.size d + q.size d
  | either p q => p.size d + q.size d + 4 + if q.isEither then 0 else 2 * stateSize + 4
  | repeated least most p =>
    match most with
    | none =>
      if least = 0 then
        if p.canBeEmpty then p.size d + 2 * choiceSize + stateSize else p.size d + choiceSize
      else least * p.size d + choiceSize
    | some most =>
      if least = most then if least = 0 then stateSize else least * p.size d
      else if least = 0 ∧ most = 1 then p.size d + choiceSize + stateSize
      else least * p.size d + stateSize + (most - least) * (p.size d + choiceSize)
  | captured p => p.size d + if d = .forward then 2 * stateSize else 0

/-- The room for what every automaton has. -/
def baseSize : Nat := 6 * stateSize + 8

/-- The greatest size that is allowed. -/
def maxSize : Nat := 10485760

/-- Whether a pattern is too large. -/
def isTooLarge (p : Pattern) : Bool :=
  p.size .forward + baseSize > maxSize || p.size .backward + baseSize > maxSize

end Pattern

end CoverageOverlay.Regex
