-- SUMMARY: The records of a text as those of its lines, and the records of a text put together from lines.
import CoverageOverlay.Proofs.Record.Boundary
import CoverageOverlay.Record.Sequence

/-!
# Records of texts

The records of a text are the records of its lines. Where a text is cut at a
line feed, they are those of the line before it and those of the rest; whether
the line ends with a carriage return makes no difference. No candidate goes
across a line end, so a text that is read as a single line has the candidates
of its lines, and its record is the first one that its lines have.
-/

namespace CoverageOverlay.Record

variable {line t rest : Text}

theorem parse_value (t : Text) :
    (parse t).value = (Text.lines t).filterMap fun line => (parseLine line).value := by
  induction t using Text.inductionOnNextLine with
  | nil =>
    rw [parse, Text.lines_nil]
    rfl
  | line t line rest hline ih =>
    rw [parse, Text.lines_of_nextLine? hline, List.filterMap_cons]
    split
    · next hnone => simp [hline] at hnone
    · next line' rest' hsome =>
      rw [hline, Option.some.injEq, Prod.mk.injEq] at hsome
      obtain ⟨rfl, rfl⟩ := hsome
      rw [Logged.bind_value]
      cases hvalue : (parseLine line).value with
      | none => exact ih
      | some r => simpa using congrArg (r :: ·) ih

/-- The readings of a text hold its records. -/
theorem filterMap_readings (t : Text) : (readings t).filterMap (·.value) = (parse t).value := by
  rw [readings, List.filterMap_map, parse_value]
  rfl

/-- A carriage return at the end of a line does not change its record. -/
theorem parseLine_dropReturn (line : Text) :
    (parseLine (Text.dropReturn line)).value = (parseLine line).value := by
  rw [parseLine_value, parseLine_value, Candidate.all_dropReturn]

theorem parse_of_no_feed (ht : '\n' ∉ t) : (parse t).value = (parseLine t).value.toList := by
  rw [parse_value, Text.lines_of_no_feed ht]
  split
  · next hnil =>
    subst hnil
    rfl
  · cases hvalue : (parseLine t).value <;> simp [hvalue]

theorem parse_append_feed (hline : '\n' ∉ line) (rest : Text) :
    (parse (line ++ '\n' :: rest)).value = (parseLine line).value.toList ++ (parse rest).value := by
  rw [parse_value, Text.lines_append_feed hline, List.filterMap_cons, parseLine_dropReturn,
    ← parse_value]
  cases hvalue : (parseLine line).value <;> simp

/-! ## A text read as one line -/

theorem all_append_feed (line rest : Text) :
    Candidate.all (line ++ '\n' :: rest) = Candidate.all line ++ Candidate.all rest :=
  Candidate.allFrom_append_foreign (by decide) line rest

/-- The candidates of a text are those of its lines, line by line. -/
theorem all_eq_flatMap_lines (t : Text) :
    Candidate.all t = (Text.lines t).flatMap Candidate.all := by
  induction t using Text.inductionOnLines with
  | last t ht =>
    rw [Text.lines_of_no_feed ht]
    split
    · next hnil => rw [hnil]; rfl
    · simp
  | line line rest hline ih =>
    rw [all_append_feed, Text.lines_append_feed hline, List.flatMap_cons, Candidate.all_dropReturn, ih]

/-- Where a line feed stands in a text, the record before it is found first. -/
theorem parseLine_append_feed (line rest : Text) :
    (parseLine (line ++ '\n' :: rest)).value = (parseLine line).value.or (parseLine rest).value := by
  simp only [parseLine_value, all_append_feed, List.findSome?_append]

/-- A text that is read as if it were one line has the first one of its records. Its candidates are those
of its lines, in order, and none of them holds a line feed or a carriage return. -/
theorem parseLine_eq_head?_parse (t : Text) :
    (parseLine t).value = (parse t).value.head? ∧
      Candidate.all t = (Text.lines t).flatMap Candidate.all ∧
      ∀ p : Occurrence, p.In t → '\n' ∉ p.candidate.spelling ∧ '\r' ∉ p.candidate.spelling := by
  refine ⟨?_, all_eq_flatMap_lines t, fun p hp => ?_⟩
  · induction t using Text.inductionOnLines with
    | last t ht => rw [parse_of_no_feed ht, Option.head?_toList]
    | line line rest hline ih =>
      rw [parseLine_append_feed, parse_append_feed hline, List.head?_append, Option.head?_toList, ih]
  · have hheads : p.candidate.Heads (p.candidate.spelling ++ p.after) p.after :=
      ⟨rfl, hp.kind.all, hp.start, hp.length, hp.length_last⟩
    have habsent (x : Char) (hx : Candidate.isForeign x = true) : x ∉ p.candidate.spelling := by
      intro hmem
      simp [hheads.not_isForeign x hmem] at hx
    exact ⟨habsent '\n' (by decide), habsent '\r' (by decide)⟩

end CoverageOverlay.Record
