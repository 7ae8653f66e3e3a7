-- SUMMARY: The characters that count as white space, and lines that hold nothing else.
import CoverageOverlay.Text.Basic

/-!
# Blank text

White space is the Unicode property `White_Space`: twenty-five characters.
Zero-width characters and the byte order mark do not have it.
-/

namespace CoverageOverlay.Text

/-- The ranges of the property `White_Space`, in order. -/
def blankRanges : List (Nat × Nat) :=
  [(0x09, 0x0D), (0x20, 0x20), (0x85, 0x85), (0xA0, 0xA0), (0x1680, 0x1680), (0x2000, 0x200A),
   (0x2028, 0x2029), (0x202F, 0x202F), (0x205F, 0x205F), (0x3000, 0x3000)]

/-- Whether a character is white space. -/
def isBlankChar (c : Char) : Bool :=
  blankRanges.any fun (first, last) => first ≤ c.toNat && c.toNat ≤ last

/-- Whether a text holds white space only. -/
def isBlank (t : Text) : Bool :=
  t.all isBlankChar

@[simp] theorem isBlank_nil : isBlank [] = true := rfl

end CoverageOverlay.Text
