-- SUMMARY: The top table of a settings text has no key twice.
import CoverageOverlay.Toml.Parser
import Mathlib.Data.List.Nodup

/-!
# Keys that are given once

A table grows by keys that it does not have, and by changes of what its keys
stand for. So no key of the top table is ever there twice, whatever headers and
dotted keys the text goes through, and what a key stands for in a well-formed
text is never in doubt.
-/

namespace CoverageOverlay.Toml

/-! ## Growing tables -/

namespace Entries

/-- No two entries have one name. -/
def Distinct (entries : Entries) : Prop :=
  (entries.map (·.1.name)).Nodup

variable {entries grown : Entries} {key : Key} {node : Node} {name : Text} {path : List Key}

theorem distinct_cons_iff {e : Key × Node} :
    Distinct (e :: entries) ↔ (∀ e' ∈ entries, e'.1.name ≠ e.1.name) ∧ entries.Distinct := by
  simp [Distinct]

theorem find?_eq_none_iff : entries.find? name = none ↔ ∀ e ∈ entries, e.1.name ≠ name := by
  simp [find?]

/-- Another node for a key makes no difference to the names. -/
theorem Distinct.replace (h : entries.Distinct) (name : Text) (node : Node) :
    (entries.replace name node).Distinct := by
  have hnames : (entries.replace name node).map (·.1.name) = entries.map (·.1.name) := by
    rw [Entries.replace, List.map_map]
    refine List.map_congr_left fun e _ => ?_
    simp only [Function.comp_apply]
    split <;> rfl
  rwa [Distinct, hnames]

theorem Distinct.concat (h : entries.Distinct) (hnew : entries.find? key.name = none) (node : Node) :
    Distinct (entries ++ [(key, node)]) := by
  rw [Distinct, List.map_append, List.map_singleton, List.nodup_append]
  refine ⟨h, List.nodup_singleton _, ?_⟩
  rintro _ hname _ hkey rfl
  obtain ⟨e, he, hsame⟩ := List.mem_map.1 hname
  exact find?_eq_none_iff.1 hnew e he (hsame.trans (List.mem_singleton.1 hkey))

theorem Distinct.erase (h : entries.Distinct) (name : Text) : (entries.erase name).Distinct :=
  List.Nodup.sublist (List.filter_sublist.map _) h

theorem Distinct.add? (h : entries.Distinct) (hadd : entries.add? key node = some grown) :
    grown.Distinct := by
  unfold Entries.add? at hadd
  split at hadd
  · cases hadd
  · next hnew =>
    cases hadd
    exact h.concat (by simpa using hnew) node

theorem Distinct.addDotted? (h : entries.Distinct)
    (hadd : addDotted? key node path entries = some grown) : grown.Distinct := by
  cases path with
  | nil =>
    rw [Entries.addDotted?] at hadd
    exact h.add? hadd
  | cons step path =>
    rw [Entries.addDotted?] at hadd
    split at hadd
    · next hnew =>
      obtain ⟨inner, -, rfl⟩ := Option.map_eq_some_iff.1 hadd
      exact h.concat hnew _
    · split at hadd
      · cases hadd
      · obtain ⟨inner, -, rfl⟩ := Option.map_eq_some_iff.1 hadd
        exact h.replace _ _
    · split at hadd
      · cases hadd
      · obtain ⟨tables, -, rfl⟩ := Option.map_eq_some_iff.1 hadd
        exact h.replace _ _
    · cases hadd

/-- A change inside a table leaves the names of the table alone; only a change of the table itself does
not. -/
theorem Distinct.changeAt? {change : Entries → Option Entries} (h : entries.Distinct)
    (hchange : ∀ changed, change entries = some changed → changed.Distinct)
    (hat : Entries.changeAt? change path entries = some grown) : grown.Distinct := by
  cases path with
  | nil =>
    rw [Entries.changeAt?] at hat
    exact hchange grown hat
  | cons step path =>
    rw [Entries.changeAt?] at hat
    split at hat
    · next hnew =>
      obtain ⟨inner, -, rfl⟩ := Option.map_eq_some_iff.1 hat
      exact h.concat hnew _
    · obtain ⟨inner, -, rfl⟩ := Option.map_eq_some_iff.1 hat
      exact h.replace _ _
    · obtain ⟨tables, -, rfl⟩ := Option.map_eq_some_iff.1 hat
      exact h.replace _ _
    · cases hat

end Entries

/-! ## Drafts -/

namespace Draft

open Entries (Distinct)

/-- The top table has no key twice, be it complete or the table that is being filled. -/
structure Clean (d : Draft) : Prop where
  top : Distinct d.top
  entries : d.path = [] → Distinct d.entries

variable {d next : Draft} {entries : Entries} {path : List Key} {span : Span}

theorem clean_start : start.Clean := ⟨List.nodup_nil, fun _ => List.nodup_nil⟩

theorem Clean.close? (h : d.Clean) (hclose : d.close? = some entries) : Distinct entries := by
  unfold Draft.close? at hclose
  split at hclose
  · next hpath =>
    cases hclose
    exact h.entries (List.getLast?_eq_none_iff.1 hpath)
  · refine h.top.changeAt? (fun changed hchanged => ?_) hclose
    split at hchanged
    · unfold addShared? at hchanged
      split at hchanged
      · cases hchanged
        exact h.top.replace _ _
      · cases hchanged
    · exact h.top.add? hchanged

theorem clean_openTable? (h : Distinct entries) (hopen : openTable? entries path span = some next) :
    next.Clean := by
  obtain ⟨key, hkey, hnext⟩ := Option.bind_eq_some_iff.1 hopen
  dsimp only at hnext
  split at hnext
  · next hat =>
    cases hnext
    refine ⟨h.changeAt? (fun changed hchanged => ?_) hat, fun hnil => ?_⟩
    · cases hchanged
      exact h.erase key.name
    · simp only at hnil
      simp [hnil] at hkey
  · cases hnext

theorem clean_openShared? (h : Distinct entries) (hopen : openShared? entries path span = some next) :
    next.Clean := by
  obtain ⟨key, hkey, hnext⟩ := Option.bind_eq_some_iff.1 hopen
  obtain ⟨top, hat, rfl⟩ := Option.map_eq_some_iff.1 hnext
  refine ⟨h.changeAt? (fun changed hchanged => ?_) hat, fun hnil => ?_⟩
  · split at hchanged
    · next hnew =>
      cases hchanged
      exact h.concat hnew _
    · cases hchanged
      exact h
    · cases hchanged
  · simp only at hnil
    simp [hnil] at hkey

theorem Clean.take? (h : d.Clean) {statement : Statement} (htake : d.take? statement = some next) :
    next.Clean := by
  cases statement with
  | entry path node =>
    obtain ⟨key, -, hnext⟩ := Option.bind_eq_some_iff.1 htake
    obtain ⟨entries, hadd, rfl⟩ := Option.map_eq_some_iff.1 hnext
    exact ⟨h.top, fun hnil => (h.entries hnil).addDotted? hadd⟩
  | header path span =>
    obtain ⟨top, hclose, hopen⟩ := Option.bind_eq_some_iff.1 htake
    exact clean_openTable? (h.close? hclose) hopen
  | sharedHeader path span =>
    obtain ⟨top, hclose, hopen⟩ := Option.bind_eq_some_iff.1 htake
    exact clean_openShared? (h.close? hclose) hopen

theorem Clean.foldlM (h : d.Clean) {statements : List Statement}
    (hrun : statements.foldlM Draft.take? d = some next) : next.Clean := by
  induction statements generalizing d with
  | nil =>
    cases hrun
    exact h
  | cons statement rest ih =>
    rw [List.foldlM_cons] at hrun
    obtain ⟨d', htake, hrest⟩ := Option.bind_eq_some_iff.1 hrun
    exact ih (h.take? htake) hrest

end Draft

/-- A well-formed text has no key twice in its top table. -/
theorem distinct_of_parse? {t : Text} {entries : Entries} (h : parse? t = some entries) :
    entries.Distinct := by
  obtain ⟨statements, -, hdraft⟩ := Option.bind_eq_some_iff.1 h
  obtain ⟨d, hrun, hclose⟩ := Option.bind_eq_some_iff.1 hdraft
  exact (Draft.clean_start.foldlM hrun).close? hclose

end CoverageOverlay.Toml
