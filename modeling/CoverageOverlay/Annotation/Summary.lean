-- SUMMARY: How many annotations of each state a coverage set holds.
import CoverageOverlay.Annotation.Basic
import CoverageOverlay.Json

/-!
# Summaries

A summary counts the annotations of a set, all together and by state. States
come in their own order, and a state that does not occur has no entry.
-/

namespace CoverageOverlay

/-- The counts of a coverage set. -/
structure Summary where
  /-- The states that have an entry, in their order, each with its count. -/
  byState : List (State × Nat)
  /-- The number of annotations. -/
  total : Nat
deriving DecidableEq, Repr, Inhabited

namespace Summary

/-- The summary of no annotation. -/
def empty : Summary := ⟨[], 0⟩

/-- The entry of a state is changed by `f`, which is given the count so far, or is made by it; entries
keep the order of the states. -/
def update (s : State) (f : Nat → Nat) : List (State × Nat) → List (State × Nat)
  | [] => [(s, f 0)]
  | (t, n) :: rest =>
    if t = s then (s, f n) :: rest
    else if State.all.idxOf s < State.all.idxOf t then (s, f 0) :: (t, n) :: rest
    else (t, n) :: update s f rest

/-- The summary of a set, one annotation after the other. -/
def ofSet (set : CoverageSet) : Summary :=
  ⟨set.foldl (fun entries a => update a.state (· + 1) entries) [], set.length⟩

/-- The summary with given counts; of two counts of a state the later one holds. -/
def ofCounts (counts : List (State × Nat)) (total : Nat) : Summary :=
  ⟨counts.foldl (fun entries (s, n) => update s (fun _ => n) entries) [], total⟩

/-- The count of a state, zero if it has no entry. -/
def count (summary : Summary) (s : State) : Nat :=
  (summary.byState.lookup s).getD 0

/-- The structured form of a summary. -/
def toJson (summary : Summary) : Json :=
  .object [
    ("by_state", .object (summary.byState.map fun (s, n) => (s.name, .number n))),
    ("total", .number summary.total)]

end Summary

end CoverageOverlay
