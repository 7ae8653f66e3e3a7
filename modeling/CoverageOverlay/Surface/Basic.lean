-- SUMMARY: A writable surface that may accept only a part of what is written.
import CoverageOverlay.Files.Fault

/-!
# Surfaces

A surface takes bytes in order. It may have room for a limited number of them:
of a write that does not fit, the part that fits is taken and the write fails.
Writing nothing never fails. A surface may also fail to flush.
-/

namespace CoverageOverlay

/-- A surface and what it took so far. -/
structure Surface where
  /-- The bytes taken, in order. -/
  taken : List UInt8
  /-- The number of bytes that there is room for, if that is limited. -/
  room : Option Nat
  /-- Whether flushing fails. -/
  flushFails : Bool
deriving DecidableEq, Repr, Inhabited

namespace Surface

/-- An untouched surface without limits. -/
def empty : Surface := ⟨[], none, false⟩

/-- The fault of a write that does not fit. -/
def goneFault : Fault := .other "surface gone"

/-- The fault of a flush that fails. -/
def flushFault : Fault := .other "flush failed"

/-- Write bytes, as many as there is room for. -/
def write (s : Surface) (bytes : List UInt8) : Except Fault Unit × Surface :=
  match s.room with
  | none => (.ok (), { s with taken := s.taken ++ bytes })
  | some room =>
    let after : Surface :=
      { s with taken := s.taken ++ bytes.take room, room := some (room - bytes.length) }
    if bytes.length ≤ room then (.ok (), after) else (.error goneFault, after)

/-- Flush what was written. -/
def flush (s : Surface) : Except Fault Unit :=
  if s.flushFails then .error flushFault else .ok ()

/-- The same surface with other limits. -/
def limit (s : Surface) (room : Option Nat) (flushFails : Bool) : Surface :=
  { s with room, flushFails }

end Surface

end CoverageOverlay
