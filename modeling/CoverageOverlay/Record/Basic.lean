-- SUMMARY: Coverage records as they stand in a record file.
import CoverageOverlay.Text.Basic

/-!
# Coverage records

A record says of one range of a document whether it ran. Its position is
zero-based and counts characters; position and length are 64-bit numbers.
-/

namespace CoverageOverlay

/-- One record of a record file. -/
structure Record where
  /-- The upper-case tag that names what was recorded. -/
  kind : Text
  /-- Whether the range ran. -/
  executed : Bool
  /-- The zero-based position of the first character. -/
  start : UInt64
  /-- The number of characters. -/
  length : UInt64
deriving DecidableEq, Repr, Inhabited

end CoverageOverlay
