-- SUMMARY: The text listing of a set read back: one line for each annotation, and three fields in every line.
import CoverageOverlay.Annotation.Listing
import CoverageOverlay.Proofs.Annotation.Counts
import CoverageOverlay.Proofs.Text.Lines
import CoverageOverlay.Proofs.Text.Written

/-!
# Reading a listing

No field of a line holds a tabulator or a line feed, so cutting a listing into
lines and the lines at their tabulators gives back the fields of the
annotations. The second field names the state: different states have different
style tokens.
-/

namespace CoverageOverlay

theorem State.style_inj {s s' : State} : s.style = s'.style ↔ s = s' := by
  have hall : ∀ s ∈ all, ∀ s' ∈ all, s.style = s'.style ↔ s = s' := by decide
  exact hall s (mem_all s) s' (mem_all s')

namespace Annotation

/-- The fields of an annotation in a listing: its range, its style token and its label. -/
def fields (a : Annotation) : List Text :=
  [Numeral.ofNat a.start.toNat ++ '.' :: '.' :: Numeral.ofNat a.stop.toNat,
    a.state.style.toList, a.state.label.toList]

/-- The line of an annotation without its end. -/
def line (a : Annotation) : Text :=
  ['\t'].intercalate a.fields

theorem listingLine_eq (a : Annotation) : a.listingLine = a.line ++ ['\n'] := by
  simp [listingLine, line, fields, List.intercalate, List.intersperse]

theorem not_mem_fields {c : Char} (hc : c = '\t' ∨ c = '\n' ∨ c = '\r') (a : Annotation) :
    ∀ field ∈ a.fields, c ∉ field := by
  have hdigits (n : Nat) : c ∉ Numeral.ofNat n := by
    intro hmem
    have hdigit := Numeral.isDigit_of_mem_ofNat hmem
    rcases hc with rfl | rfl | rfl <;> exact absurd hdigit (by decide)
  have hwords : ∀ s ∈ State.all, c ∉ s.style.toList ∧ c ∉ s.label.toList := by
    rcases hc with rfl | rfl | rfl <;> decide
  have hdot : c ≠ '.' := by rcases hc with rfl | rfl | rfl <;> decide
  simp [fields, hdigits, hwords a.state (State.mem_all a.state), hdot]

/-- A line gives its fields back. -/
theorem splitOn_line (a : Annotation) : a.line.splitOn '\t' = a.fields :=
  List.splitOn_intercalate '\t' (not_mem_fields (.inl rfl) a) (by simp [fields])

theorem not_mem_line {c : Char} (hc : c = '\n' ∨ c = '\r') (a : Annotation) : c ∉ a.line := by
  have hfields := not_mem_fields (.inr hc) a
  simp only [fields, List.forall_mem_cons] at hfields
  obtain ⟨hrange, hstyle, hlabel, -⟩ := hfields
  have htabulator : c ≠ '\t' := by rcases hc with rfl | rfl <;> decide
  simp only [line, fields, List.intercalate_cons_cons, List.intercalate_singleton, List.mem_append,
    List.mem_singleton, not_or] at hrange ⊢
  exact ⟨⟨hrange, htabulator⟩, ⟨hstyle, htabulator⟩, hlabel⟩

theorem dropReturn_line (a : Annotation) : Text.dropReturn a.line = a.line :=
  if_neg fun hlast => not_mem_line (.inr rfl) a (List.mem_of_getLast? hlast)

end Annotation

namespace CoverageSet

/-- The lines of a listing are those of the annotations, in their order. -/
theorem lines_listing (set : CoverageSet) : Text.lines set.listing = set.map Annotation.line := by
  induction set with
  | nil => rw [listing, List.flatMap_nil, Text.lines_nil, List.map_nil]
  | cons a set ih =>
    rw [listing, List.flatMap_cons, ← listing, a.listingLine_eq, List.append_assoc,
      List.singleton_append, Text.lines_append_feed (a.not_mem_line (.inl rfl)), a.dropReturn_line, ih,
      List.map_cons]

end CoverageSet

end CoverageOverlay
