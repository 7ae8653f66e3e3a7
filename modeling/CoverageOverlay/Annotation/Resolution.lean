-- SUMMARY: From records to annotations of a document of known length.
import CoverageOverlay.Annotation.Basic
import CoverageOverlay.Record.Sequence

/-!
# Resolution

A record of `length` characters from the zero-based position `start` covers the
one-based positions from `start + 1` up to, and without, `start + 1 + length`.
It is dropped if it covers nothing, if one of these positions or the position
after the document is not a 64-bit number, or if it reaches past the end of the
document. What is kept keeps its order and its duplicates.
-/

namespace CoverageOverlay

/-- The sum of two 64-bit numbers, if it is one. -/
def checkedAdd? (a b : UInt64) : Option UInt64 :=
  if a.toNat + b.toNat < UInt64.size then some (a + b) else none

theorem checkedAdd?_eq_some_iff {a b c : UInt64} :
    checkedAdd? a b = some c ↔ a.toNat + b.toNat = c.toNat := by
  unfold checkedAdd?
  constructor
  · intro h
    split at h
    · next hlt =>
      simp only [Option.some.injEq] at h
      subst h
      rw [UInt64.toNat_add, Nat.mod_eq_of_lt hlt]
    · simp at h
  · intro h
    have hlt : a.toNat + b.toNat < UInt64.size := h ▸ c.toNat_lt
    rw [if_pos hlt, Option.some.injEq]
    apply UInt64.toNat_inj.1
    rw [UInt64.toNat_add, Nat.mod_eq_of_lt hlt, h]

theorem checkedAdd?_eq_none_iff {a b : UInt64} :
    checkedAdd? a b = none ↔ UInt64.size ≤ a.toNat + b.toNat := by
  unfold checkedAdd?
  split <;> simp_all

/-! ## One record -/

namespace Record

/-- The difference between one-based and zero-based positions. -/
def shift : UInt64 := 1

/-- The one-based positions of a record: the first, and the one after the last. -/
def window? (r : Record) : Option (UInt64 × UInt64) :=
  (checkedAdd? r.start shift).bind fun start =>
    (checkedAdd? start r.length).map fun stop => (start, stop)

/-- The annotation of a record in a document of `documentLength` characters. -/
def resolve (r : Record) (documentLength : UInt64) : Except Rejection Annotation :=
  if r.length = 0 then .error .zeroLength
  else
    match r.window?, checkedAdd? documentLength shift with
    | some (start, stop), some limit =>
      if stop > limit then .error .pastEnd else .ok ⟨start, stop, .ofExecuted r.executed⟩
    | _, _ => .error .overflow

end Record

/-! ## Whole record files -/

namespace CoverageSet

/-- The annotations of some readings and the number of records that were dropped. -/
def collect (documentLength : UInt64) :
    List (Logged (Option Record)) → Logged (CoverageSet × Nat)
  | [] => pure ([], 0)
  | reading :: rest => do
    match ← reading with
    | none => collect documentLength rest
    | some r =>
      match r.resolve documentLength with
      | .ok a => (fun (set, lost) => (a :: set, lost)) <$> collect documentLength rest
      | .error why =>
        Logged.report (.dropped r why documentLength)
        (fun (set, lost) => (set, lost + 1)) <$> collect documentLength rest

/-- The annotations of some readings; a last event gives both counts. -/
def ofReadings (readings : List (Logged (Option Record))) (documentLength : UInt64) :
    Logged CoverageSet := do
  let (set, lost) ← collect documentLength readings
  Logged.report (.resolved set.length lost)
  return set

/-- The annotations of some records. -/
def ofRecords (records : List Record) (documentLength : UInt64) : Logged CoverageSet :=
  ofReadings (records.map fun r => pure (some r)) documentLength

/-- The annotations of a record file, whose lines are read as they are needed. -/
def ofText (coverage : Text) (documentLength : UInt64) : Logged CoverageSet :=
  ofReadings (Record.readings coverage) documentLength

end CoverageSet

end CoverageOverlay
