-- SUMMARY: The frames that applies write on a terminal whose surface takes everything.
import CoverageOverlay.Proofs.Overlay.Apply
import CoverageOverlay.Proofs.Surface.Step

/-!
# Frames of an overlay

On a surface that takes everything, an apply that finds both files goes well
and writes exactly one frame: the document drawn with the annotations that were
found. An apply that does not find both writes nothing. So what an apply wrote
says what it found.
-/

namespace CoverageOverlay

/-! ## Terminals without limits -/

namespace Utf8

@[simp] theorem encode_eq_nil_iff {t : Text} : encode t = [] ↔ t = [] := by
  have hne (c : Char) : String.utf8EncodeChar c ≠ [] := by
    intro h
    have hlength := congrArg List.length h
    have hpos := c.utf8Size_pos
    simp only [String.length_utf8EncodeChar, List.length_nil] at hlength
    omega
  cases t <;> simp [encode, hne]

end Utf8

namespace Terminal

/-- The surface of the terminal takes everything, and flushing it never fails. -/
structure Unlimited (t : Terminal) : Prop where
  room : t.surface.room = none
  flushes : t.surface.flushFails = false

theorem unlimited_new (markup : Markup) (composition : Composition) :
    (new markup composition).Unlimited := ⟨rfl, rfl⟩

/-- A frame holds at least the line feed at its end. -/
theorem frame_ne_nil (composition : Composition) (markup : Markup) (document : Text)
    (set : CoverageSet) : frame composition markup document set ≠ [] := by
  intro h
  have hnil : set.draw document composition markup = [] ∧
      lineEnd (set.draw document composition markup) = [] := by
    simpa [frame] using h
  obtain ⟨hdrawn, hend⟩ := hnil
  simp [hdrawn, lineEnd] at hend

/-- The frame that stands between two states of a terminal: what it wrote, without what cleared the
screen, if it wrote anything. -/
def frameBetween? (before after : Terminal) : Option (List UInt8) :=
  let written := after.surface.taken.drop before.surface.taken.length
  if written = [] then none else some (written.drop before.clearing.length)

variable {t : Terminal}

@[simp] theorem frameBetween?_self : frameBetween? t t = none := by
  simp [frameBetween?]

/-- An apply without limits goes well. -/
theorem Unlimited.apply_eq (h : t.Unlimited) (document : Text) (set : CoverageSet) :
    t.apply document set =
      (.ok (), { t with
        surface := { t.surface with
          taken := t.surface.taken ++ (t.clearing ++ frame t.composition t.markup document set) }
        painted := true }) := by
  have hfits (n : Nat) : t.surface.Fits n := by simp [Surface.Fits, h.room]
  simp only [Terminal.apply_eq, if_pos (hfits _), Surface.flush, Surface.after, Surface.accepted,
    h.room, h.flushes]
  simp [hfits, Except.mapError]

/-- An apply without limits writes the frame of its document, which is found again. -/
theorem Unlimited.frameBetween?_apply (h : t.Unlimited) (document : Text) (set : CoverageSet) :
    frameBetween? t (t.apply document set).2 =
      some (frame t.composition t.markup document set) := by
  simp [h.apply_eq, frameBetween?, frame_ne_nil]

end Terminal

/-! ## Overlays on terminals without limits -/

namespace Overlay

/-- The frame that shows a document as its files are, if both can be read. -/
def rendering? (o : Overlay Terminal) (files : Files) (document : Path) : Option (List UInt8) :=
  (Document.load files document o.settings.suffix).value.toOption.map fun d =>
    Terminal.frame o.renderer.composition o.renderer.markup d.text d.annotations

variable {o : Overlay Terminal} {files files' : Files} {document : Path}

theorem rendering?_congr (hdocument : files'.read document = files.read document)
    (hcoverage : files'.read (Document.coveragePathOf document o.settings.suffix) =
      files.read (Document.coveragePathOf document o.settings.suffix)) :
    o.rendering? files' document = o.rendering? files document := by
  rw [rendering?, Document.load_value_congr hdocument hcoverage, rendering?]

theorem isSome_rendering?_iff :
    (o.rendering? files document).isSome = true ↔
      files.Readable document ∧
        files.Readable (Document.coveragePathOf document o.settings.suffix) := by
  rw [← Document.exists_load_iff, rendering?, Option.isSome_map]
  cases (Document.load files document o.settings.suffix).value <;> simp [Except.toOption]

/-- The overlay `o'` shows documents as `o` does, and its surface takes everything. -/
structure Continues (o o' : Overlay Terminal) : Prop where
  settings : o'.settings = o.settings
  composition : o'.renderer.composition = o.renderer.composition
  markup : o'.renderer.markup = o.renderer.markup
  unlimited : o'.renderer.Unlimited

variable {o' : Overlay Terminal}

theorem Continues.rendering?_eq (h : o.Continues o') (files : Files) (document : Path) :
    o'.rendering? files document = o.rendering? files document := by
  rw [rendering?, h.settings, h.composition, h.markup, rendering?]

theorem Continues.trans {o'' : Overlay Terminal} (h : o.Continues o') (h' : o'.Continues o'') :
    o.Continues o'' where
  settings := h'.settings.trans h.settings
  composition := h'.composition.trans h.composition
  markup := h'.markup.trans h.markup
  unlimited := h'.unlimited

/-- An apply that finds both files goes well, and the frame is written behind what clears the screen. -/
theorem apply_of_unlimited {d : Document} (h : o.renderer.Unlimited)
    (hload : (Document.load files document o.settings.suffix).value = .ok d) :
    (o.apply files document).value =
      (.ok (.applied d.annotations.length), { o with
        renderer := { o.renderer with
          surface := { o.renderer.surface with
            taken := o.renderer.surface.taken ++ (o.renderer.clearing ++
              Terminal.frame o.renderer.composition o.renderer.markup d.text d.annotations) }
          painted := true } }) := by
  have hshown : Renderer.apply o.renderer d.text d.annotations =
      o.renderer.apply d.text d.annotations := rfl
  rw [o.apply_covered hload, hshown, h.apply_eq]

/-- An apply writes the frame of the files that it finds, and nothing if it does not find both. After it
the overlay is as good as before. -/
theorem continues_apply (h : o.renderer.Unlimited) (files : Files) (document : Path) :
    o.Continues (o.apply files document).value.2 ∧
      Terminal.frameBetween? o.renderer (o.apply files document).value.2.renderer =
        o.rendering? files document := by
  by_cases hfiles : files.Readable document ∧
      files.Readable (Document.coveragePathOf document o.settings.suffix)
  · obtain ⟨d, hload⟩ := Document.exists_load_iff.2 hfiles
    have hwrote := h.frameBetween?_apply d.text d.annotations
    rw [h.apply_eq] at hwrote
    rw [apply_of_unlimited h hload]
    exact ⟨⟨rfl, rfl, rfl, ⟨h.room, h.flushes⟩⟩, by simp [hwrote, rendering?, hload, Except.toOption]⟩
  · have hnone : o.rendering? files document = none := by
      rw [← Option.not_isSome_iff_eq_none, isSome_rendering?_iff]
      exact hfiles
    rw [o.apply_of_not_readable hfiles]
    exact ⟨⟨rfl, rfl, rfl, h⟩, by rw [Terminal.frameBetween?_self, hnone]⟩

end Overlay

end CoverageOverlay
