-- SUMMARY: What shows a coverage set, and the store of decorations as the simplest case.
import CoverageOverlay.Annotation.Listing
import CoverageOverlay.Error

/-!
# Renderers

A renderer shows one coverage set at a time. Applying a set replaces whatever
was shown; clearing removes it. Both may fail, and both say what the renderer
is afterwards in either case.
-/

namespace CoverageOverlay

/-- A presentation that can show a set over a document. -/
class Renderer (ρ : Type) where
  /-- Replace whatever is shown by a set over a document. -/
  apply : ρ → Text → CoverageSet → Except Error Unit × ρ
  /-- Remove whatever is shown. -/
  clear : ρ → Except Error Unit × ρ

/-! ## Decorations -/

/-- An annotation with the style in which a host shows it. -/
structure Decoration where
  annotation : Annotation
  style : String
deriving DecidableEq, Repr, Inhabited

namespace Decoration

/-- The decoration of an annotation. -/
def ofRange (a : Annotation) : Decoration := ⟨a, a.state.style⟩

/-- The structured form of a decoration. -/
def toJson (d : Decoration) : Json :=
  .object [
    ("range", d.annotation.rangeJson),
    ("state", .word d.annotation.state.name),
    ("style", .word d.style)]

end Decoration

/-- The decorations that a host shows, in the order of their annotations. -/
structure DecorationLayer where
  decorations : List Decoration
deriving DecidableEq, Repr, Inhabited

namespace DecorationLayer

/-- The layer that shows nothing. -/
def empty : DecorationLayer := ⟨[]⟩

instance : Renderer DecorationLayer where
  apply _ _ set := (.ok (), ⟨set.map .ofRange⟩)
  clear _ := (.ok (), empty)

end DecorationLayer

end CoverageOverlay
