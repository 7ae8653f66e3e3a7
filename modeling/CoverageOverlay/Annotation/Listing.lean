-- SUMMARY: Records and coverage sets as text lines and as structured values.
import CoverageOverlay.Annotation.Basic
import CoverageOverlay.Json

/-!
# Listings

The text listing has one line for each annotation: its range, its style token
and its label, parted by tabulators. The structured listing holds the same
annotations in the same order.
-/

namespace CoverageOverlay

/-- The structured form of a record. -/
def Record.toJson (r : Record) : Json :=
  .object [
    ("executed", .boolean r.executed),
    ("kind", .string r.kind),
    ("length", .number r.length.toNat),
    ("start", .number r.start.toNat)]

namespace Annotation

/-- The structured form of the range of an annotation. -/
def rangeJson (a : Annotation) : Json :=
  .object [("start", .number a.start.toNat), ("end", .number a.stop.toNat)]

/-- The structured form of an annotation. -/
def toJson (a : Annotation) : Json :=
  .object [("range", a.rangeJson), ("state", .word a.state.name)]

/-- The line of an annotation in a text listing. -/
def listingLine (a : Annotation) : Text :=
  Numeral.ofNat a.start.toNat ++ ['.', '.'] ++ Numeral.ofNat a.stop.toNat
    ++ '\t' :: a.state.style.toList ++ '\t' :: a.state.label.toList ++ ['\n']

end Annotation

namespace CoverageSet

/-- The structured listing of a set. -/
def toJson (set : CoverageSet) : Json :=
  .array (set.map Annotation.toJson)

/-- The text listing of a set. -/
def listing (set : CoverageSet) : Text :=
  set.flatMap Annotation.listingLine

end CoverageSet

end CoverageOverlay
