-- SUMMARY: The limit on how deep the parts of a pattern are nested.
import CoverageOverlay.Regex.Tree

/-!
# Nesting

Everything that has parts is one level deeper than what it is a part of. The
first part, in the order of the pattern, that lies deeper than the limit is a
fault.
-/

namespace CoverageOverlay.Regex

/-- The deepest level that is allowed. -/
def maxDepth : Nat := 250

/-- The level below one, for the part in a place. -/
def deeper (span : Span) (depth : Nat) : Except Fault Nat :=
  if depth < maxDepth then .ok (depth + 1) else .error ⟨.nestedTooDeep maxDepth, span⟩

mutual

/-- Check the depth of a set that lies on a level. -/
def SetTree.checkDepth (depth : Nat) : SetTree → Except Fault Unit
  | .bracket span _ inner => do inner.checkDepth (← deeper span depth)
  | .union span parts => do SetTree.checkDepths (← deeper span depth) parts
  | .combined span _ left right => do
    let depth ← deeper span depth
    left.checkDepth depth
    right.checkDepth depth
  | _ => .ok ()

/-- Check the depth of sets that lie on a level. -/
def SetTree.checkDepths (depth : Nat) : List SetTree → Except Fault Unit
  | [] => .ok ()
  | part :: rest => do
    part.checkDepth depth
    SetTree.checkDepths depth rest

end

mutual

/-- Check the depth of a tree that lies on a level. -/
def Tree.checkDepth (depth : Nat) : Tree → Except Fault Unit
  | .bracket span _ inner => do inner.checkDepth (← deeper span depth)
  | .repetition span _ _ sub => do sub.checkDepth (← deeper span depth)
  | .group span _ _ sub => do sub.checkDepth (← deeper span depth)
  | .branches span parts => do Tree.checkDepths (← deeper span depth) parts
  | .sequence span parts => do Tree.checkDepths (← deeper span depth) parts
  | _ => .ok ()

/-- Check the depth of trees that lie on a level. -/
def Tree.checkDepths (depth : Nat) : List Tree → Except Fault Unit
  | [] => .ok ()
  | part :: rest => do
    part.checkDepth depth
    Tree.checkDepths depth rest

end

end CoverageOverlay.Regex
