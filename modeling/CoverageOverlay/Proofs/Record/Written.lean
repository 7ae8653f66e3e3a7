-- SUMMARY: Record files as they can be written, and that reading gives back the records that were written.
import CoverageOverlay.Proofs.Record.Sequence

/-!
# Written record files

A record is written on a line of its own. The spelling of its numbers is free
as to leading zeros. Before it any text can stand that has no record itself and
does not end with a letter of a tag, and behind it any text that does not begin
with a digit. Between these lines there can be others that have no record. What
stands on such a line, or before a record, need not be free of candidates: their
numbers can be too wide, or they can be unfinished.
-/

namespace CoverageOverlay

open Text (IsRun Stops)

/-- Some digits are a numeral of a number, with any leading zeros. -/
structure Numeral.Spells (digits : Text) (n : UInt64) : Prop extends IsRun isDigit digits where
  value_eq : value digits = n.toNat

namespace Record

/-- A line is written for a record, or has none. -/
inductive LineWrites : Option Record → Text → Prop
  | record {r : Record} {before start length after : Text} (hkind : IsRun Candidate.isTag r.kind)
    (hstart : Numeral.Spells start r.start) (hlength : Numeral.Spells length r.length)
    (hbefore : (parseLine before).value = none)
    (hfirst : ∀ x ∈ before.getLast?, Candidate.isTag x = false)
    (hlast : Stops Numeral.isDigit after) (hfeed : '\n' ∉ before ++ after) :
    LineWrites (some r)
      (before ++ (Candidate.spelling ⟨r.kind, r.executed, start, length⟩ ++ after))
  | other {line : Text} (hnone : (parseLine line).value = none) (hfeed : '\n' ∉ line) :
    LineWrites none line

/-- A text is written for some records, line by line. Lines end with a line feed, before which there can
be a carriage return; the last one can do without. -/
inductive FileWrites : List Record → Text → Prop
  | nil : FileWrites [] []
  | last {entry : Option Record} {line : Text} (hline : LineWrites entry line) :
    FileWrites entry.toList line
  | cons {entry : Option Record} {line final t : Text} {records : List Record}
    (hline : LineWrites entry line) (hfinal : final = ['\n'] ∨ final = ['\r', '\n'])
    (ht : FileWrites records t) : FileWrites (entry.toList ++ records) (line ++ final ++ t)

variable {entry : Option Record} {records : List Record} {line t after : Text} {c : Candidate}

/-! ## Lines -/

/-- A candidate at the head of a text is the first one that a scan finds. -/
theorem exists_all_eq_cons (h : c.Heads t after) (hkind : c.kind ≠ []) :
    ∃ later, Candidate.all t = c :: later := by
  have hne : t ≠ [] := by
    rw [h.text_eq]
    exact List.append_ne_nil_of_left_ne_nil c.spelling_ne_nil after
  obtain ⟨x, rest, rfl⟩ := List.exists_cons_of_ne_nil hne
  have hhere : Candidate.here? false (x :: rest) = some c := by
    rw [Candidate.here?_false, Candidate.head?_ways.2 ⟨h, hkind⟩]
    rfl
  refine ⟨Candidate.allFrom (Candidate.isTag x) rest, ?_⟩
  simp [Candidate.all, Candidate.allFrom_cons, hhere]

theorem LineWrites.feed_not_mem (h : LineWrites entry line) : '\n' ∉ line := by
  cases h with
  | @record r before start length after hkind hstart hlength _ _ hlast hfeed =>
    have hheads : Candidate.Heads ⟨r.kind, r.executed, start, length⟩
        (Candidate.spelling ⟨r.kind, r.executed, start, length⟩ ++ after) after :=
      ⟨rfl, hkind.all, hstart.toIsRun, hlength.toIsRun, hlast⟩
    have hspelling : '\n' ∉ Candidate.spelling ⟨r.kind, r.executed, start, length⟩ := by
      intro hmem
      have hforeign : Candidate.isForeign '\n' = true := by decide
      simp [hheads.not_isForeign '\n' hmem] at hforeign
    simp only [List.mem_append, not_or] at hfeed ⊢
    exact ⟨hfeed.1, hspelling, hfeed.2⟩
  | other _ hfeed => exact hfeed

/-- The record of a line is the one that it is written for. -/
theorem LineWrites.parseLine_eq (h : LineWrites entry line) : (parseLine line).value = entry := by
  cases h with
  | @record r before start length after hkind hstart hlength hbefore hfirst hlast _ =>
    let c : Candidate := ⟨r.kind, r.executed, start, length⟩
    have hheads : c.Heads (c.spelling ++ after) after :=
      ⟨rfl, hkind.all, hstart.toIsRun, hlength.toIsRun, hlast⟩
    have hrecord : c.record? = some r :=
      Candidate.record?_eq_some_iff.2 ⟨rfl, rfl, hstart.value_eq.symm, hlength.value_eq.symm⟩
    obtain ⟨later, hlater⟩ := exists_all_eq_cons hheads hkind.ne_nil
    have hall : Candidate.all (before ++ (c.spelling ++ after)) =
        Candidate.all before ++ c :: later := by
      rw [← hlater, Candidate.all, c.spelling_append]
      exact Candidate.allFrom_append_tag hkind hfirst
    rw [parseLine_value] at hbefore
    rw [parseLine_value, hall, List.findSome?_append, hbefore]
    simp [hrecord]
  | other hnone _ => exact hnone

/-! ## Files -/

/-- Reading gives back the records that a text is written for. -/
theorem parse_of_fileWrites (h : FileWrites records t) : (parse t).value = records := by
  induction h with
  | nil => rw [parse_value, Text.lines_nil, List.filterMap_nil]
  | @last entry line hline => rw [parse_of_no_feed hline.feed_not_mem, hline.parseLine_eq]
  | @cons entry line final t records hline hfinal _ ih =>
    have hfeed : '\n' ∉ line := hline.feed_not_mem
    rcases hfinal with rfl | rfl
    · rw [List.append_assoc, List.singleton_append, parse_append_feed hfeed, hline.parseLine_eq, ih]
    · have hreturn : '\n' ∉ line ++ ['\r'] := by simpa using hfeed
      have htext : line ++ ['\r', '\n'] ++ t = (line ++ ['\r']) ++ '\n' :: t := by simp
      rw [htext, parse_append_feed hreturn, ← parseLine_dropReturn, Text.dropReturn_append_return,
        hline.parseLine_eq, ih]

/-- A record behind an unfinished candidate and before a whole one, a line without record, and a record
behind a candidate whose length is too wide. -/
theorem parse_of_fileWrites_noise :
    let records : List Record :=
      [⟨['B'], true, 7, 3⟩, ⟨['I', 'F'], false, 0, 18446744073709551615⟩]
    let first : Text := "A:T,1,B:T,007,3 A:T,0,1".toList
    let last : Text := "A:T,0,18446744073709551616 IF:NIL,00,18446744073709551615".toList
    let t : Text := first ++ ['\r', '\n'] ++ ("nothing".toList ++ ['\n'] ++ last)
    FileWrites records t ∧ (parse t).value = records := by
  intro records first last t
  have hfirst : LineWrites (some ⟨['B'], true, 7, 3⟩) first :=
    @LineWrites.record ⟨['B'], true, 7, 3⟩ "A:T,1,".toList "007".toList "3".toList
      " A:T,0,1".toList (by decide) ⟨by decide, by decide⟩ ⟨by decide, by decide⟩ (by decide)
      (by simp [Candidate.isTag]) (by decide) (by decide)
  have hlast : LineWrites (some ⟨['I', 'F'], false, 0, 18446744073709551615⟩) last :=
    @LineWrites.record ⟨['I', 'F'], false, 0, 18446744073709551615⟩
      "A:T,0,18446744073709551616 ".toList "00".toList "18446744073709551615".toList []
      (by decide) ⟨by decide, by decide⟩ ⟨by decide, by decide⟩ (by decide)
      (by simp [Candidate.isTag]) (by decide) (by decide)
  have hother : LineWrites none "nothing".toList := .other (by decide) (by decide)
  have ht : FileWrites records t :=
    .cons hfirst (.inr rfl) (.cons hother (.inl rfl) (.last hlast))
  exact ⟨ht, parse_of_fileWrites ht⟩

end Record

end CoverageOverlay
