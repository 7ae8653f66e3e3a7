-- SUMMARY: The annotations that an apply hands to its renderer are painted whole, none of them cut off or left out.
import Mathlib.Data.List.Forall2
import CoverageOverlay.Proofs.Annotation.Joining
import CoverageOverlay.Proofs.Drawing.Reordering
import CoverageOverlay.Proofs.Overlay.Apply

/-!
# Annotations painted whole

Painting is ready for annotations that do not fit: one whose positions have no
index is left out, one that begins behind the document too, and one that ends
behind it is cut off. None of this happens to what an apply hands over. The
length that records are compared with is the number of characters of the very
text that is drawn, so every record that is kept lies within it, and its
annotation paints the characters of the record, all of them and no others.
-/

namespace CoverageOverlay

/-! ## Addresses -/

namespace Annotation

/-- Why an annotation is left out when cells are painted. -/
inductive Omission
  /-- One of its positions has no index. -/
  | noIndex
  /-- It begins behind the last cell or behind its own end. -/
  | noStretch
deriving DecidableEq, Repr

/-- The zero-based index of a position, if it can be written with `bits` bits. -/
def index? (bits : Nat) (position : UInt64) : Option Nat :=
  let i := position.toNat - 1
  if i < 2 ^ bits then some i else none

/-- The index of the first of `length` cells that an annotation paints and the index behind the last, or
why there are none. The end is cut off at the last cell. -/
def address (a : Annotation) (bits length : Nat) : Except Omission (Nat × Nat) :=
  match index? bits a.start, index? bits a.stop with
  | some first, some stop =>
    if first ≤ min stop length then .ok (first, min stop length) else .error .noStretch
  | _, _ => .error .noIndex

variable {a : Annotation} {length : Nat}

/-- With as many bits as a position has, every position has its index. -/
theorem index?_eq_some (position : UInt64) : index? 64 position = some (position.toNat - 1) := by
  have hlt := position.toNat_lt
  exact if_pos (by omega)

/-- Painting leaves out an annotation if and only if it has no address. -/
theorem toOption_address (a : Annotation) (length : Nat) :
    (a.address 64 length).toOption = a.stretch? length := by
  simp only [address, index?_eq_some, stretch?]
  split <;> rfl

end Annotation

/-! ## Records that fit -/

namespace Record

/-- An annotation paints the characters of a record, and these are characters of a document with `length`
characters. -/
structure PaintedWhole (length : Nat) (r : Record) (a : Annotation) : Prop where
  extent : a.extent = r.extent
  nonempty : 1 ≤ r.length.toNat
  inside : r.start.toNat + r.length.toNat ≤ length
  address : a.address 64 length = .ok (r.start.toNat, r.start.toNat + r.length.toNat)
  stretch : a.stretch? length = some (r.start.toNat, r.start.toNat + r.length.toNat)
  paintOn : ∀ (composition : Composition) (cells : List Cell), cells.length = length →
    ∀ i : Nat, (a.paintOn composition cells)[i]? =
      if r.Covers i then cells[i]?.map fun cell => cell.paint composition a.state else cells[i]?

variable {r : Record} {a : Annotation} {length : Nat}

theorem covers_iff_of_extent_eq (h : a.extent = r.extent) (i : Nat) : a.Covers i ↔ r.Covers i := by
  simp only [extent, Annotation.extent, Prod.mk.injEq] at h
  obtain ⟨hstart, hstop, -⟩ := h
  simp only [Covers, Annotation.Covers]
  omega

/-- The annotation of a record that ends within the document has an address, and its end is not cut off. -/
theorem address_of_inside (hinside : r.start.toNat + r.length.toNat ≤ length)
    (hextent : a.extent = r.extent) :
    a.address 64 length = .ok (r.start.toNat, r.start.toNat + r.length.toNat) := by
  simp only [extent, Annotation.extent, Prod.mk.injEq] at hextent
  obtain ⟨hstart, hstop, -⟩ := hextent
  have hfirst : a.start.toNat - 1 = r.start.toNat := by omega
  have hend : min (a.stop.toNat - 1) length = r.start.toNat + r.length.toNat := by omega
  simp [hfirst, hend, Annotation.address, Annotation.index?_eq_some]

theorem paintedWhole_of_fits (hfits : r.Fits length) (hextent : a.extent = r.extent) :
    r.PaintedWhole length a := by
  have haddress := address_of_inside hfits.inside hextent
  have hstretch : a.stretch? length = some (r.start.toNat, r.start.toNat + r.length.toNat) := by
    rw [← Annotation.toOption_address, haddress]
    rfl
  refine ⟨hextent, hfits.nonempty, hfits.inside, haddress, hstretch,
    fun composition cells hlength i => ?_⟩
  by_cases hi : i < cells.length
  · simp only [covers_iff_of_extent_eq hextent, List.getElem?_eq_getElem hi,
      Annotation.getElem?_paintOn hi]
    split <;> rfl
  · have hpainted : ¬i < (a.paintOn composition cells).length := by
      rw [not_lt, Annotation.length_paintOn]
      exact Nat.not_lt.1 hi
    rw [List.getElem?_eq_none (Nat.not_lt.1 hi), List.getElem?_eq_none (Nat.not_lt.1 hpainted)]
    simp

end Record

/-! ## Documents -/

namespace Document

/-- Whether a record fits a document does not depend on the length being a 64-bit number: where it is none,
no record fits. -/
theorem fits_lengthOf_iff {r : Record} {text : Text} :
    r.Fits (lengthOf text).toNat ↔ r.Fits text.length := by
  have hlength : (lengthOf text).toNat = min text.length (2 ^ 64 - 1) :=
    UInt64.toNat_ofNat_of_lt' (Nat.lt_of_le_of_lt (Nat.min_le_right _ _) (by decide))
  rw [hlength]
  constructor
  · rintro ⟨hnonempty, hinside, hdocument⟩
    exact ⟨hnonempty, by omega, by omega⟩
  · rintro ⟨hnonempty, hinside, hdocument⟩
    exact ⟨hnonempty, by omega, by omega⟩

end Document

namespace CoverageSet

/-- The annotations of a record file belong, one by one, to those of its records that fit. -/
theorem forall₂_ofText (coverage : Text) (n : UInt64) :
    List.Forall₂ (fun r a => r.Fits n.toNat ∧ r.extent = a.extent)
      ((Record.parse coverage).value.filter fun r => r.Fits n.toNat) (ofText coverage n).value := by
  have hextents := map_extent_ofRecords (Record.parse coverage).value n
  rw [← ofText_eq_ofRecords, ← List.forall₂_eq_eq_eq, List.forall₂_map_left_iff,
    List.forall₂_map_right_iff] at hextents
  refine (List.forall₂_and_left _ _).2 ⟨fun r hr => of_decide_eq_true (List.mem_filter.1 hr).2, ?_⟩
  exact hextents.flip.imp fun _ _ => Eq.symm

end CoverageSet

namespace Overlay

variable {ρ : Type} [Renderer ρ] {files : Files} {document : Path}

/-- An apply that reads its two files, whatever their bytes are, hands to its renderer the decoded document
together with annotations that belong, one by one, to the records that fit it. Each of them is painted
whole. -/
theorem apply_paintedWhole (o : Overlay ρ) {bytes coverage : List UInt8}
    (hdocument : files.read document = .ok bytes)
    (hcoverage :
      files.read (Document.coveragePathOf document o.settings.suffix) = .ok coverage) :
    let text := Utf8.decodeLossy bytes
    let records := (Record.parse (Utf8.decodeLossy coverage)).value
    let set := (CoverageSet.ofText (Utf8.decodeLossy coverage) (Document.lengthOf text)).value
    (o.apply files document).value =
        (match Renderer.apply o.renderer text set with
        | (.error e, renderer) => (.error e, { o with renderer })
        | (.ok (), renderer) => (.ok (.applied set.length), { o with renderer })) ∧
      List.Forall₂ (Record.PaintedWhole text.length)
        (records.filter fun r => r.Fits text.length) set := by
  intro text records set
  have hload : (Document.load files document o.settings.suffix).value =
      .ok ⟨text, Utf8.decodeLossy coverage,
        Document.coveragePathOf document o.settings.suffix⟩ := by
    simp only [Document.load, hdocument, hcoverage]
    rfl
  refine ⟨o.apply_covered hload, ?_⟩
  have hpaired := CoverageSet.forall₂_ofText (Utf8.decodeLossy coverage) (Document.lengthOf text)
  simp only [Document.fits_lengthOf_iff] at hpaired
  exact hpaired.imp fun r a h => Record.paintedWhole_of_fits h.1 h.2.symm

/-- A document of a letter with two bytes, a byte that is no UTF-8 and a letter of ASCII. One record covers
the last two characters, the next one ends a character later. -/
theorem apply_paintedWhole_bytes :
    let document : Path := .ofString "f"
    let bytes : List UInt8 := [0xC3, 0xA9, 0xFF, 0x61]
    let coverage : List UInt8 := Utf8.encode "A:T,1,2\nB:NIL,2,2".toList
    let files : Files :=
      .ofReads [(document, .ok bytes), (.ofString "f.cov", .ok coverage)] fun _ => []
    let o : Overlay DecorationLayer := ⟨.standard, .empty⟩
    files.read document = .ok bytes ∧
      files.read (Document.coveragePathOf document o.settings.suffix) = .ok coverage ∧
      Utf8.decodeLossy bytes = ['é', '\uFFFD', 'a'] ∧
      (o.apply files document).value =
        (.ok (.applied 1), ⟨.standard, ⟨[⟨⟨2, 4, .executed⟩, "coverage-executed"⟩]⟩⟩) ∧
      Record.PaintedWhole 3 ⟨['A'], true, 1, 2⟩ ⟨2, 4, .executed⟩ := by
  intro document bytes coverage files o
  have hdocument : files.read document = .ok bytes := by cbv
  have hcoverage : files.read (Document.coveragePathOf document o.settings.suffix) = .ok coverage := by
    cbv
  have htext : Utf8.decodeLossy bytes = ['é', '\uFFFD', 'a'] := by cbv
  have hlength : Document.lengthOf (Utf8.decodeLossy bytes) = 3 := by rw [htext]; decide
  have hrecordsText : Utf8.decodeLossy coverage = "A:T,1,2\nB:NIL,2,2".toList := by
    simp only [coverage]
    cbv
  have hset : (CoverageSet.ofText "A:T,1,2\nB:NIL,2,2".toList 3).value = [⟨2, 4, .executed⟩] := by
    cbv
  have hrecords : (Record.parse "A:T,1,2\nB:NIL,2,2".toList).value =
      [⟨['A'], true, 1, 2⟩, ⟨['B'], false, 2, 2⟩] := by cbv
  have hfits : ([⟨['A'], true, 1, 2⟩, ⟨['B'], false, 2, 2⟩] : List Record).filter (fun r => r.Fits 3) =
      [⟨['A'], true, 1, 2⟩] := by decide
  obtain ⟨happly, hpainted⟩ := apply_paintedWhole o hdocument hcoverage
  rw [hlength, hrecordsText, hset] at happly hpainted
  rw [hrecords, htext] at hpainted
  have hwhole : List.Forall₂ (Record.PaintedWhole 3) [⟨['A'], true, 1, 2⟩] [⟨2, 4, .executed⟩] :=
    hfits ▸ hpainted
  exact ⟨hdocument, hcoverage, htext, happly, (List.forall₂_cons.1 hwhole).1⟩

end Overlay

end CoverageOverlay
