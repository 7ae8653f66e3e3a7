-- SUMMARY: Annotations, the sets they come in, and the reasons for which a record yields none.
import CoverageOverlay.State
import CoverageOverlay.Record.Basic

/-!
# Annotations

An annotation is a record that fits its document: a range of one-based
character positions, the end excluded, with a state. A coverage set keeps the
order of the record file and every duplicate, so that whoever draws it can
choose how overlaps compose.
-/

namespace CoverageOverlay

/-- A range of positions with its coverage. -/
structure Annotation where
  /-- The one-based position of the first character. -/
  start : UInt64
  /-- The position after the last character. -/
  stop : UInt64
  state : State
deriving DecidableEq, Repr, Inhabited

/-- Annotations in the order of their records. -/
abbrev CoverageSet := List Annotation

/-- Why a record yields no annotation. -/
inductive Rejection
  /-- A position of the range is not a 64-bit number. -/
  | overflow
  /-- The range ends after the document does. -/
  | pastEnd
  /-- The range holds no character. -/
  | zeroLength
deriving DecidableEq, Repr, Inhabited

/-- The name of a reason in messages. -/
def Rejection.name : Rejection → String
  | overflow => "Overflow"
  | pastEnd => "PastEnd"
  | zeroLength => "ZeroLength"

end CoverageOverlay
