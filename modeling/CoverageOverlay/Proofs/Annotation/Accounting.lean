-- SUMMARY: Nothing of a record file is dropped in silence: the log of its resolution accounts for every line.
import Mathlib
import CoverageOverlay.Proofs.Annotation.Resolution
import CoverageOverlay.Proofs.Log.Printed
import CoverageOverlay.Proofs.Record.Occurrence

/-!
# The log of a resolution

Every line of a record file comes to one of four ends: it is blank, it has no
record, its record is dropped, or its record becomes an annotation. The two in
the middle leave an event, and so does every candidate that was passed over on
the way. As the log goes through the lines in order and ends with both counts,
the lines that are not blank can be counted from it.
-/

namespace CoverageOverlay

/-! ## Candidates that are passed over -/

/-- The occurrences of candidates in a line that come before every one whose numbers fit, from left to
right. -/
structure PassedOver (line : Text) (passed : List Occurrence) : Prop where
  mem_iff : ∀ p, p ∈ passed ↔
    p.In line ∧ ∀ q : Occurrence, q.In line → q.candidate.Fits → p.before.length < q.before.length
  ordered : passed.Pairwise fun p q => p.before.length < q.before.length

/-- In an increasing list, what is taken before the first element without a property are the elements
below all those without it. -/
theorem mem_takeWhile_iff_of_increasing {α : Type} {p : α → Bool} {key : α → Nat} {l : List α}
    {a : α} (hl : l.Pairwise fun a b => key a < key b) :
    a ∈ l.takeWhile p ↔ a ∈ l ∧ ∀ b ∈ l, p b = false → key a < key b := by
  induction l with
  | nil => simp
  | cons x l ih =>
    obtain ⟨hx, hl⟩ := List.pairwise_cons.1 hl
    cases hp : p x with
    | false =>
      simp only [List.takeWhile_cons, hp, Bool.false_eq_true, if_false, List.not_mem_nil, false_iff,
        not_and]
      intro ha hall
      have hlt := hall x List.mem_cons_self hp
      rcases List.mem_cons.1 ha with rfl | ha
      · exact Nat.lt_irrefl _ hlt
      · exact Nat.lt_asymm hlt (hx a ha)
    | true =>
      rw [List.takeWhile_cons, if_pos hp, List.mem_cons, List.mem_cons, ih hl, List.forall_mem_cons]
      constructor
      · rintro (rfl | ⟨ha, hall⟩)
        · exact ⟨.inl rfl, by simp [hp], fun b hb _ => hx b hb⟩
        · exact ⟨.inr ha, by simp [hp], hall⟩
      · rintro ⟨rfl | ha, -, hall⟩
        · exact .inl rfl
        · exact .inr ⟨ha, hall⟩

theorem exists_passedOver (line : Text) :
    ∃ passed, PassedOver line passed ∧
      ((Candidate.all line).takeWhile fun c => c.record?.isNone) = passed.map Occurrence.candidate := by
  obtain ⟨occurrences, hall, hmem, hordered⟩ := Occurrence.exists_occurrences line
  refine ⟨occurrences.takeWhile fun p => p.candidate.record?.isNone, ⟨fun p => ?_, ?_⟩, ?_⟩
  · rw [mem_takeWhile_iff_of_increasing hordered]
    simp only [hmem, ← Candidate.isSome_record?_iff, Option.isNone_eq_false_iff]
  · exact hordered.sublist (List.takeWhile_sublist _)
  · rw [← hall, List.takeWhile_map]
    rfl

/-! ## One line -/

namespace Log.Event

/-- The event says that a record yields no annotation. -/
def isDropped : Event → Bool
  | dropped .. => true
  | _ => false

/-- The event says that a line has no record. -/
def isNoRecord : Event → Bool
  | noRecord _ => true
  | _ => false

end Log.Event

namespace Record

/-- The event of a record, if it yields no annotation of a document of `n` characters. -/
def refusal (n : UInt64) (r : Record) : List Log.Event :=
  match r.resolve n with
  | .ok _ => []
  | .error why => [.dropped r why n]

/-- The last event of a line, if it has one: the line has no record although it is not blank, or its record
is dropped. -/
def lastEvent (n : UInt64) (line : Text) : List Log.Event :=
  match (parseLine line).value with
  | none => if Text.isBlank line then [] else [.noRecord line]
  | some r => refusal n r

variable {line : Text} {n : UInt64} {r : Record}

theorem isTag_of_isBlankChar {c : Char} (h : Text.isBlankChar c = true) : Candidate.isTag c = false := by
  have hrange : c.toNat < 'A'.toNat ∨ 'Z'.toNat < c.toNat := by
    have hA : 'A'.toNat = 65 := rfl
    have hZ : 'Z'.toNat = 90 := rfl
    simp only [Text.isBlankChar, Text.blankRanges, List.any_cons, List.any_nil, Bool.or_eq_true,
      Bool.and_eq_true, decide_eq_true_eq, Bool.false_eq_true, or_false] at h
    omega
  simp only [Candidate.isTag, Char.le_def, UInt32.le_iff_toNat_le, Bool.and_eq_false_iff,
    decide_eq_false_iff_not, Nat.not_le]
  exact hrange

theorem allFrom_of_isBlank (h : Text.isBlank line = true) (inRun : Bool) :
    Candidate.allFrom inRun line = [] := by
  induction line generalizing inRun with
  | nil => rfl
  | cons c rest ih =>
    obtain ⟨hc, hrest⟩ : Text.isBlankChar c = true ∧ Text.isBlank rest = true := by
      simpa [Text.isBlank] using h
    rw [Candidate.allFrom, isTag_of_isBlankChar hc]
    exact ih hrest false

/-- A line with a record is not blank. -/
theorem not_isBlank_of_parseLine (h : (parseLine line).value = some r) :
    Text.isBlank line = false := by
  cases hblank : Text.isBlank line with
  | false => rfl
  | true =>
    rw [parseLine_value, Candidate.all, allFrom_of_isBlank hblank] at h
    simp at h

theorem parseLine_events (line : Text) :
    (parseLine line).events =
      ((Candidate.all line).takeWhile fun c => c.record?.isNone).map (fun _ => .offsetsTooWide line) ++
        if (parseLine line).value.isNone && !Text.isBlank line then [.noRecord line] else [] := by
  rw [parseLine_value]
  simp only [parseLine, Logged.bind_events, Candidate.firstRecord_events,
    Candidate.firstRecord_value]
  split <;> simp

/-- The events of reading a line and of resolving its record. -/
theorem events_line (n : UInt64) (line : Text) :
    (parseLine line).events ++ (parseLine line).value.elim [] (refusal n) =
      ((Candidate.all line).takeWhile fun c => c.record?.isNone).map (fun _ => .offsetsTooWide line) ++
        lastEvent n line := by
  rw [parseLine_events, List.append_assoc, lastEvent]
  cases (parseLine line).value with
  | none => cases Text.isBlank line <;> simp
  | some r => simp

/-- The events of a line that do not speak of candidates passed over are those of its end. -/
theorem countP_events_line (n : UInt64) (line : Text) {p : Log.Event → Bool}
    (hp : p (.offsetsTooWide line) = false) :
    ((parseLine line).events ++ (parseLine line).value.elim [] (refusal n)).countP p =
      (lastEvent n line).countP p := by
  rw [events_line, List.countP_append, List.countP_map, List.countP_eq_zero.2 (by simp [hp]),
    Nat.zero_add]

theorem length_refusal (n : UInt64) (line : Text) :
    ((parseLine line).value.elim [] (refusal n)).length =
      (lastEvent n line).countP Log.Event.isDropped := by
  rw [lastEvent]
  cases (parseLine line).value with
  | none => cases Text.isBlank line <;> rfl
  | some r =>
    simp only [refusal, Option.elim_some]
    cases r.resolve n <;> rfl

/-- The annotation of a record, if there is a record and it has one. -/
def kept (n : UInt64) (r? : Option Record) : List Annotation :=
  (r?.bind fun r => (r.resolve n).toOption).toList

/-- A line that is not blank has its record kept, or one of two events says why it has not. -/
theorem count_lastEvent (n : UInt64) (line : Text) :
    (kept n (parseLine line).value).length + (lastEvent n line).countP Log.Event.isDropped +
        (lastEvent n line).countP Log.Event.isNoRecord =
      if !Text.isBlank line then 1 else 0 := by
  cases hvalue : (parseLine line).value with
  | none =>
    rw [lastEvent, hvalue]
    cases Text.isBlank line <;> rfl
  | some r =>
    rw [lastEvent, hvalue, not_isBlank_of_parseLine hvalue]
    simp only [kept, refusal, Option.bind_some]
    cases r.resolve n <;> rfl

theorem isTag_of_parseLine (h : (parseLine line).value = some r) :
    ∀ c ∈ r.kind, Candidate.isTag c = true := by
  rw [parseLine_value] at h
  obtain ⟨candidate, hmem, hrecord⟩ := List.exists_of_findSome?_eq_some h
  obtain ⟨occurrences, hall, hin, -⟩ := Occurrence.exists_occurrences line
  obtain ⟨p, hp, rfl⟩ := List.mem_map.1 (hall ▸ hmem)
  rw [(Candidate.record?_eq_some_iff.1 hrecord).kind]
  exact ((hin p).1 hp).kind.2

theorem ofResolution_of_mem_lastEvent {e : Log.Event} (h : e ∈ lastEvent n line) :
    e.OfResolution := by
  unfold lastEvent at h
  split at h
  · split at h
    · cases h
    · obtain rfl := List.mem_singleton.1 h
      exact .noRecord line
  · next r hparse =>
    unfold refusal at h
    split at h
    · cases h
    · obtain rfl := List.mem_singleton.1 h
      exact .dropped (isTag_of_parseLine hparse) _ n

end Record

/-! ## All lines -/

namespace CoverageSet

open Record (refusal kept lastEvent)

variable {lines : List Text}

/-- A reading adds its annotation to the set, or to the number of the records that were dropped, and its
events to the log. -/
theorem collect_cons (n : UInt64) (reading : Logged (Option Record))
    (rest : List (Logged (Option Record))) :
    collect n (reading :: rest) =
      ⟨(kept n reading.value ++ (collect n rest).value.1,
          (reading.value.elim [] (refusal n)).length + (collect n rest).value.2),
        reading.events ++ reading.value.elim [] (refusal n) ++ (collect n rest).events⟩ := by
  obtain ⟨value, events⟩ := reading
  cases value with
  | none => ext1 <;> simp [collect, kept]
  | some r =>
    cases hresolve : r.resolve n <;>
      ext1 <;> simp [collect, kept, refusal, hresolve, Except.toOption, Nat.add_comm]

/-- The log accounts for the lines one after the other. -/
theorem collect_events (n : UInt64) (lines : List Text) :
    (collect n (lines.map Record.parseLine)).events =
      lines.flatMap fun line =>
        (Record.parseLine line).events ++ (Record.parseLine line).value.elim [] (refusal n) := by
  induction lines with
  | nil => rfl
  | cons line rest ih => rw [List.map_cons, collect_cons, ih, List.flatMap_cons]

/-- The number of dropped records is the number of events that say so. -/
theorem collect_lost (n : UInt64) (lines : List Text) :
    (collect n (lines.map Record.parseLine)).value.2 =
      (collect n (lines.map Record.parseLine)).events.countP Log.Event.isDropped := by
  induction lines with
  | nil => rfl
  | cons line rest ih =>
    rw [List.map_cons, collect_cons, List.countP_append, Record.countP_events_line n line rfl,
      Record.length_refusal, ih]

/-- Every line that is not blank is kept, dropped or without a record. -/
theorem countP_not_isBlank (n : UInt64) (lines : List Text) :
    let run := collect n (lines.map Record.parseLine)
    (lines.countP fun line => !Text.isBlank line) =
      run.value.1.length + run.events.countP Log.Event.isDropped +
        run.events.countP Log.Event.isNoRecord := by
  induction lines with
  | nil => rfl
  | cons line rest ih =>
    have hline := Record.count_lastEvent n line
    have hdropped := Record.countP_events_line n line (p := Log.Event.isDropped) rfl
    have hskipped := Record.countP_events_line n line (p := Log.Event.isNoRecord) rfl
    simp only [List.map_cons, collect_cons, List.countP_append, List.length_append,
      List.countP_cons] at ih hdropped hskipped ⊢
    omega

theorem ofText_events (coverage : Text) (n : UInt64) :
    let collected := collect n ((Text.lines coverage).map Record.parseLine)
    (ofText coverage n).events =
      collected.events ++ [.resolved collected.value.1.length collected.value.2] := rfl

theorem ofResolution_of_mem_events {coverage : Text} {n : UInt64} {e : Log.Event}
    (h : e ∈ (ofText coverage n).events) : e.OfResolution := by
  rw [ofText_events, collect_events, List.mem_append, List.mem_singleton, List.mem_flatMap] at h
  rcases h with ⟨line, -, hline⟩ | rfl
  · rw [Record.events_line, List.mem_append] at hline
    rcases hline with hpassed | hlast
    · obtain ⟨_, -, rfl⟩ := List.mem_map.1 hpassed
      exact .offsetsTooWide line
    · exact Record.ofResolution_of_mem_lastEvent hlast
  · exact .resolved _ _

/-- With debug messages on, every such event is shown. -/
theorem allows_debug {e : Log.Event} (h : e.level = .debug) :
    (Log.Filter.parse "debug".toList).1.allows e = true := by
  have hfilter : (Log.Filter.parse "debug".toList).1 = ⟨[⟨[], false, Log.Level.debug.rank⟩], none⟩ := by
    cbv
  rw [hfilter]
  simp [Log.Filter.allows, h]

/-- The log of a resolution goes through the lines in order. For each it has an event for every candidate
that was passed over, then one if the line has no record and is not blank, or if its record is dropped;
and last one with both counts. So each line that is not blank is kept, dropped or said to have no record.
With debug messages on, all of this is printed, word for word. -/
theorem ofText_accounted (coverage : Text) (n : UInt64) :
    let run := ofText coverage n
    let lines := Text.lines coverage
    let lost := run.events.countP Log.Event.isDropped
    ∃ passed : Text → List Occurrence, (∀ line, PassedOver line (passed line)) ∧
      run.events =
        (lines.flatMap fun line =>
          (passed line).map (fun _ => .offsetsTooWide line) ++ lastEvent n line) ++
          [.resolved run.value.length lost] ∧
      (lines.countP fun line => !Text.isBlank line) =
        run.value.length + lost + run.events.countP Log.Event.isNoRecord ∧
      (Log.Filter.parse "debug".toList).1.shown run.events = run.events.flatMap Log.Event.printed := by
  intro run lines lost
  have hlost : lost = (collect n (lines.map Record.parseLine)).value.2 := by
    rw [collect_lost]
    simp [lost, run, lines, ofText_events, Log.Event.isDropped]
  have hskipped : run.events.countP Log.Event.isNoRecord =
      (collect n (lines.map Record.parseLine)).events.countP Log.Event.isNoRecord := by
    simp [run, lines, ofText_events, Log.Event.isNoRecord]
  obtain ⟨passed, hpassed⟩ := Classical.axiomOfChoice exists_passedOver
  have hlines : (collect n (lines.map Record.parseLine)).events = lines.flatMap fun line =>
      (passed line).map (fun _ => .offsetsTooWide line) ++ lastEvent n line := by
    rw [collect_events]
    congr 1
    funext line
    rw [Record.events_line, (hpassed line).2, List.map_map]
    rfl
  refine ⟨passed, fun line => (hpassed line).1, ?_, ?_, ?_⟩
  · rw [ofText_events, hlines, hlost]
    rfl
  · rw [hskipped, hlost, collect_lost]
    exact countP_not_isBlank n lines
  · have hresolution : ∀ e ∈ run.events, e.OfResolution := fun e he => ofResolution_of_mem_events he
    rw [Log.Filter.shown, List.filter_eq_self.2 fun e he => allows_debug (hresolution e he).level]
    exact List.flatMap_congr fun e he => Log.Event.shown_eq_printed (hresolution e he)

/-- A record file of four lines: in the first a record stands behind a candidate with too wide a number, the
second has no record, the third is blank, and the record of the last ends behind the document. -/
def scrap : Text :=
  "x A:T,99999999999999999999,1 B:NIL,0,2\nnothing here\n\nC:T,0,9\n".toList

theorem ofText_accounted_scrap :
    let run := ofText scrap 5
    run.value = [⟨1, 3, .notExecuted⟩] ∧
      (Log.Filter.parse "debug".toList).1.shown run.events =
        ("[DEBUG covlay::parser] skipping record with out-of-range offsets: "
          ++ "\"x A:T,99999999999999999999,1 B:NIL,0,2\"\n"
          ++ "[DEBUG covlay::parser] skipping line without a coverage record: \"nothing here\"\n"
          ++ "[DEBUG covlay::resolver] dropping C:0,9 (PastEnd, document length 5)\n"
          ++ "[DEBUG covlay::resolver] resolved 1 annotations, dropped 1\n").toList ∧
      ((Text.lines scrap).countP fun line => !Text.isBlank line) = 1 + 1 + 1 := by
  intro run
  obtain ⟨passed, -, -, hcount, hshown⟩ := ofText_accounted scrap 5
  have hevents : run.events = [.offsetsTooWide "x A:T,99999999999999999999,1 B:NIL,0,2".toList,
      .noRecord "nothing here".toList, .dropped ⟨['C'], true, 0, 9⟩ .pastEnd 5, .resolved 1 1] := by cbv
  have hvalue : run.value = [⟨1, 3, .notExecuted⟩] := by cbv
  -- Message by message, since the kernel is slow with long texts.
  have hpassed : Log.Event.printed (.offsetsTooWide "x A:T,99999999999999999999,1 B:NIL,0,2".toList) =
      "[DEBUG covlay::parser] skipping record with out-of-range offsets: ".toList ++
        "\"x A:T,99999999999999999999,1 B:NIL,0,2\"\n".toList := by decide +kernel
  have hskipped : Log.Event.printed (.noRecord "nothing here".toList) =
      "[DEBUG covlay::parser] skipping line without a coverage record: \"nothing here\"\n".toList := by
    decide +kernel
  have hdropped : Log.Event.printed (.dropped ⟨['C'], true, 0, 9⟩ .pastEnd 5) =
      "[DEBUG covlay::resolver] dropping C:0,9 (PastEnd, document length 5)\n".toList := by
    decide +kernel
  have hresolved : Log.Event.printed (.resolved 1 1) =
      "[DEBUG covlay::resolver] resolved 1 annotations, dropped 1\n".toList := by decide +kernel
  refine ⟨hvalue, ?_, ?_⟩
  · rw [hshown, hevents]
    simp only [List.flatMap_cons, List.flatMap_nil, hpassed, hskipped, hdropped, hresolved,
      String.toList_append, List.append_assoc, List.append_nil]
  · rw [hcount, hvalue, hevents]
    rfl

end CoverageSet

end CoverageOverlay
