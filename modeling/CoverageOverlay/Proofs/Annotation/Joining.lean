-- SUMMARY: The records, annotations and summaries of two record files put together, and line ends of either kind.
import Mathlib
import CoverageOverlay.Proofs.Annotation.Counts
import CoverageOverlay.Proofs.Annotation.Resolution
import CoverageOverlay.Proofs.Record.Sequence

/-!
# Record files put together

Two record files with a line feed between them are read as one after the other.
Their lines are not quite the lines of both: where the first file ends with a
carriage return, the line feed takes it away, and where it ends with a line
feed, or is empty, there is an empty line more. Neither makes a difference to
records. For the same reason it makes none which of the line ends of a file
have a carriage return.
-/

namespace CoverageOverlay

namespace Text

/-- The second text is the first one, in which some of the line feeds have lost the carriage return
before them. -/
inductive LosesReturns : Text → Text → Prop
  | nil : LosesReturns [] []
  | keep {t u : Text} (c : Char) (h : LosesReturns t u) : LosesReturns (c :: t) (c :: u)
  | lose {t u : Text} (h : LosesReturns t u) : LosesReturns ('\r' :: '\n' :: t) ('\n' :: u)

theorem LosesReturns.append_left {t u : Text} (h : LosesReturns t u) (before : Text) :
    LosesReturns (before ++ t) (before ++ u) := by
  induction before with
  | nil => exact h
  | cons c before ih => exact .keep c ih

theorem losesReturns_refl (t : Text) : LosesReturns t t := by
  simpa using LosesReturns.nil.append_left t

end Text

/-! ## Records -/

namespace Record

variable {a b t u : Text}

theorem parse_append (a b : Text) :
    (parse (a ++ '\n' :: b)).value = (parse a).value ++ (parse b).value := by
  induction a using Text.inductionOnLines with
  | last a ha => rw [parse_append_feed ha, parse_of_no_feed ha]
  | line line rest hline ih =>
    rw [List.append_assoc, List.cons_append, parse_append_feed hline, parse_append_feed hline, ih,
      List.append_assoc]

/-- Behind the same beginning of a line, the carriage returns of later line ends do not matter. -/
theorem parse_append_of_losesReturns (h : Text.LosesReturns t u) (before : Text)
    (hbefore : '\n' ∉ before) : (parse (before ++ t)).value = (parse (before ++ u)).value := by
  induction h generalizing before with
  | nil => rfl
  | @keep t u c _ ih =>
    by_cases hc : c = '\n'
    · have hrest : (parse t).value = (parse u).value := ih [] (List.not_mem_nil)
      rw [hc, parse_append_feed hbefore, parse_append_feed hbefore, hrest]
    · rw [List.append_cons before c t, List.append_cons before c u]
      exact ih (before ++ [c]) (by simp [hbefore, Ne.symm hc])
  | @lose t u _ ih =>
    have hreturn : '\n' ∉ before ++ ['\r'] := by simpa using hbefore
    have hrest : (parse t).value = (parse u).value := ih [] (List.not_mem_nil)
    rw [List.append_cons, parse_append_feed hreturn, parse_append_feed hbefore, hrest,
      ← parseLine_dropReturn, Text.dropReturn_append_return]

end Record

/-! ## Annotations -/

namespace CoverageSet

variable {a b t : Text} {n : UInt64}

/-- The annotations of a record file are those of its records. -/
theorem ofText_eq_ofRecords (coverage : Text) (n : UInt64) :
    (ofText coverage n).value = (ofRecords (Record.parse coverage).value n).value := by
  rw [ofText, ofReadings_value, ofRecords_value, Record.filterMap_readings]

theorem ofText_append (a b : Text) (n : UInt64) :
    (ofText (a ++ '\n' :: b) n).value = (ofText a n).value ++ (ofText b n).value := by
  simp only [ofText_eq_ofRecords, ofRecords_value, Record.parse_append, List.filterMap_append]

/-- Two record files with a line feed between them have the records of the first and then those of the
second, and so it is with their annotations; their summaries add up. The records of a file stay the same
whichever of its line ends lose their carriage return. -/
theorem ofText_joined (a b : Text) (n : UInt64) :
    (Record.parse (a ++ '\n' :: b)).value = (Record.parse a).value ++ (Record.parse b).value ∧
      (ofText (a ++ '\n' :: b) n).value = (ofText a n).value ++ (ofText b n).value ∧
      Summary.ofSet (ofText (a ++ '\n' :: b) n).value =
        (Summary.ofSet (ofText a n).value).add (Summary.ofSet (ofText b n).value) ∧
      ∀ t, Text.LosesReturns a t → (Record.parse t).value = (Record.parse a).value := by
  refine ⟨Record.parse_append a b, ofText_append a b n, ?_, fun t ht => ?_⟩
  · rw [ofText_append, Summary.ofSet_append]
  · exact (Record.parse_append_of_losesReturns ht [] List.not_mem_nil).symm

/-- The first file ends with a carriage return, which the line feed between the files takes away. Its
first line end loses its carriage return, and its second one keeps it. -/
theorem ofText_joined_returns :
    let rest : Text := "\r\nB:NIL,1,1\r".toList
    let a : Text := "A:T,0,2".toList ++ '\r' :: '\n' :: rest
    let b : Text := "\nC:T,3,1".toList
    let t : Text := "A:T,0,2".toList ++ '\n' :: rest
    Text.LosesReturns a t ∧ (Record.parse t).value = (Record.parse a).value ∧
      (ofText (a ++ '\n' :: b) 4).value =
        [⟨1, 3, .executed⟩, ⟨2, 3, .notExecuted⟩, ⟨4, 5, .executed⟩] ∧
      Summary.ofSet (ofText (a ++ '\n' :: b) 4).value =
        ⟨[(.executed, 2), (.notExecuted, 1)], 3⟩ := by
  intro rest a b t
  have ht : Text.LosesReturns a t :=
    (Text.LosesReturns.lose (Text.losesReturns_refl rest)).append_left "A:T,0,2".toList
  obtain ⟨-, hset, hsummary, hreturns⟩ := ofText_joined a b 4
  have ha : (ofText a 4).value = [⟨1, 3, .executed⟩, ⟨2, 3, .notExecuted⟩] := by
    simp only [a, rest]
    cbv
  have hb : (ofText b 4).value = [⟨4, 5, .executed⟩] := by
    simp only [b]
    cbv
  rw [ha, hb] at hset hsummary
  exact ⟨ht, hreturns t ht, hset, hsummary.trans (by decide)⟩

end CoverageSet

end CoverageOverlay
