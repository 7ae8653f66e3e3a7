-- SUMMARY: The occurrences of candidates in a line, and that a scan of the line finds just these.
import Mathlib.Algebra.Group.Nat.Defs
import CoverageOverlay.Proofs.Text.Run
import CoverageOverlay.Record.Line

/-!
# Occurrences of candidates

A candidate occurs at a place of a line if the line reads there as the
candidate is spelled, and if neither its tag nor its length could be made
longer at that place. The scan of a line finds exactly the candidates that
occur in it, each occurrence once and from left to right, so the record of a
line can be told from the occurrences alone.
-/

namespace CoverageOverlay

open Text (IsRun Stops)

/-! ## Spelling -/

namespace Candidate

/-- The letters of a flag. -/
def flag : Bool → Text
  | true => ['T']
  | false => ['N', 'I', 'L']

/-- A candidate as it is written. -/
def spelling (c : Candidate) : Text :=
  c.kind ++ ':' :: flag c.executed ++ ',' :: c.start ++ ',' :: c.length

/-- The head of `t` reads as a candidate whose tag may be empty, and goes on with `after`. -/
structure Heads (c : Candidate) (t after : Text) : Prop where
  text_eq : t = c.spelling ++ after
  kind : ∀ x ∈ c.kind, isTag x = true
  start : IsRun Numeral.isDigit c.start
  length : IsRun Numeral.isDigit c.length
  stops : Stops Numeral.isDigit after

theorem spelling_append (c : Candidate) (after : Text) :
    c.spelling ++ after =
      c.kind ++ ':' :: (flag c.executed ++ ',' :: (c.start ++ ',' :: (c.length ++ after))) := by
  simp [spelling]

theorem spelling_ne_nil (c : Candidate) : c.spelling ≠ [] := by
  simp [spelling]

/-- The numbers of a candidate are read exactly where they are written. -/
theorem ofNumbers?_eq_some_iff {kind t : Text} {executed : Bool} {c : Candidate} :
    ofNumbers? kind executed t = some c ↔
      c.kind = kind ∧ c.executed = executed ∧
        IsRun Numeral.isDigit c.start ∧ IsRun Numeral.isDigit c.length ∧
        ∃ after, t = c.start ++ ',' :: (c.length ++ after) ∧ Stops Numeral.isDigit after := by
  constructor
  · intro h
    simp only [ofNumbers?] at h
    split at h
    · next rest hrest =>
      split at h
      · simp at h
      · next hne =>
        obtain ⟨ht, hstart, -⟩ := Text.span_eq_iff.1 ⟨rfl, hrest⟩
        obtain ⟨hr, hlength, hstops⟩ :=
          (Text.span_eq_iff (p := Numeral.isDigit) (t := rest)).1 ⟨rfl, rfl⟩
        simp only [Option.some.injEq] at h
        subst h
        exact ⟨rfl, rfl, ⟨fun h => hne (.inl h), hstart⟩, ⟨fun h => hne (.inr h), hlength⟩,
          rest.dropWhile Numeral.isDigit, hr ▸ ht, hstops⟩
    · simp at h
  · rintro ⟨rfl, rfl, hstart, hlength, after, rfl, hstops⟩
    have hcomma : Stops Numeral.isDigit (',' :: (c.length ++ after)) := by simp; decide
    simp only [ofNumbers?, Text.takeWhile_append_of_stops hstart.all hcomma,
      Text.dropWhile_append_of_stops hstart.all hcomma,
      Text.takeWhile_append_of_stops hlength.all hstops, hstart.ne_nil, hlength.ne_nil, or_self,
      if_false]

/-- Letters with a flag behind them and numbers behind the flag are a candidate. -/
theorem heads_of_ofNumbers? (executed : Bool) {t rest : Text} {c : Candidate}
    (htag : t.dropWhile isTag = ':' :: (flag executed ++ ',' :: rest))
    (hnumbers : ofNumbers? (t.takeWhile isTag) executed rest = some c) :
    ∃ after, c.Heads t after := by
  obtain ⟨hkind, rfl, hstart, hlength, after, rfl, hstops⟩ := ofNumbers?_eq_some_iff.1 hnumbers
  obtain ⟨ht, hletters, -⟩ := Text.span_eq_iff.1 ⟨hkind.symm, htag⟩
  exact ⟨after, ht.trans (spelling_append c after).symm, hletters, hstart, hlength, hstops⟩

theorem ofHead?_eq_some_iff {t : Text} {c : Candidate} :
    ofHead? t = some c ↔ ∃ after, c.Heads t after := by
  constructor
  · intro h
    simp only [ofHead?] at h
    split at h
    · next rest htag => exact heads_of_ofNumbers? true htag h
    · next rest htag => exact heads_of_ofNumbers? false htag h
    · simp at h
  · rintro ⟨after, rfl, hkind, hstart, hlength, hstops⟩
    have hcolon : Stops isTag
        (':' :: (flag c.executed ++ ',' :: (c.start ++ ',' :: (c.length ++ after)))) := by
      simp; decide
    have hnumbers : ofNumbers? c.kind c.executed (c.start ++ ',' :: (c.length ++ after)) = some c :=
      ofNumbers?_eq_some_iff.2 ⟨rfl, rfl, hstart, hlength, after, rfl, hstops⟩
    simp only [ofHead?, spelling_append, Text.takeWhile_append_of_stops hkind hcolon,
      Text.dropWhile_append_of_stops hkind hcolon]
    cases hflag : c.executed with
    | true => simpa [flag, hflag] using hnumbers
    | false => simpa [flag, hflag] using hnumbers

end Candidate

/-! ## Occurrences -/

/-- A candidate with the text before it and the text after it. -/
structure Occurrence where
  before : Text
  candidate : Candidate
  after : Text

/-- A candidate occurs in a line between two texts, with its whole tag and its whole length. -/
structure Occurrence.In (p : Occurrence) (line : Text) : Prop where
  line_eq : line = p.before ++ (p.candidate.spelling ++ p.after)
  kind : IsRun Candidate.isTag p.candidate.kind
  kind_first : ∀ x ∈ p.before.getLast?, Candidate.isTag x = false
  start : IsRun Numeral.isDigit p.candidate.start
  length : IsRun Numeral.isDigit p.candidate.length
  length_last : Stops Numeral.isDigit p.after

namespace Candidate

/-- The candidate at the head of `t`, if one begins there. -/
def here? (inRun : Bool) (t : Text) : Option Candidate :=
  if inRun then none else (ofHead? t).filter fun c => !c.kind.isEmpty

theorem here?_eq_some_iff {before t : Text} {c : Candidate} :
    here? (before.getLast?.any isTag) t = some c ↔
      ∃ after, Occurrence.In ⟨before, c, after⟩ (before ++ t) := by
  have hfirst : before.getLast?.any isTag = false ↔ ∀ x ∈ before.getLast?, isTag x = false := by
    cases before.getLast? <;> simp
  constructor
  · intro h
    simp only [here?] at h
    split at h
    · simp at h
    · next hrun =>
      obtain ⟨hhead, hkind⟩ := Option.filter_eq_some_iff.1 h
      obtain ⟨after, rfl, htag, hstart, hlength, hstops⟩ := ofHead?_eq_some_iff.1 hhead
      exact ⟨after, rfl, ⟨by simpa using hkind, htag⟩, hfirst.1 (by simpa using hrun), hstart,
        hlength, hstops⟩
  · rintro ⟨after, hline, hkind, hkindFirst, hstart, hlength, hstops⟩
    have ht : t = c.spelling ++ after := List.append_cancel_left hline
    have hhead : ofHead? t = some c :=
      ofHead?_eq_some_iff.2 ⟨after, ht, hkind.all, hstart, hlength, hstops⟩
    simp [here?, hfirst.2 hkindFirst, hhead, Option.filter, hkind.ne_nil]

theorem ofHead?_kind {t : Text} {c : Candidate} (h : ofHead? t = some c) :
    c.kind = t.takeWhile isTag := by
  obtain ⟨after, rfl, hkind, -⟩ := ofHead?_eq_some_iff.1 h
  rw [spelling_append, Text.takeWhile_append_of_stops hkind (by simp; decide)]

/-- A scan finds what begins at the head and what it finds after the first character. -/
theorem allFrom_cons (inRun : Bool) (x : Char) (t : Text) :
    allFrom inRun (x :: t) = (here? inRun (x :: t)).toList ++ allFrom (isTag x) t := by
  cases inRun with
  | true => simp [allFrom, here?]
  | false =>
    cases hx : isTag x with
    | false =>
      have hnone : here? false (x :: t) = none := by
        cases hhead : ofHead? (x :: t) with
        | none => simp [here?, hhead]
        | some c => simp [here?, hhead, Option.filter, ofHead?_kind hhead, hx]
      simp [allFrom, hx, hnone]
    | true =>
      cases hhead : ofHead? (x :: t) with
      | none => simp [allFrom, here?, hx, hhead]
      | some c => simp [allFrom, here?, hx, hhead, Option.filter, ofHead?_kind hhead]

end Candidate

namespace Occurrence

variable {p q : Occurrence} {before t line : Text}

theorem In.before_eq (hp : p.In (before ++ t)) (hlen : p.before.length = before.length) :
    p.before = before :=
  (List.append_inj_left hp.line_eq hlen.symm).symm

theorem In.here? (hp : p.In (before ++ t)) (hlen : p.before.length = before.length) :
    Candidate.here? (before.getLast?.any Candidate.isTag) t = some p.candidate := by
  obtain rfl := hp.before_eq hlen
  exact Candidate.here?_eq_some_iff.2 ⟨p.after, hp⟩

/-- At one position of a line at most one candidate occurs. -/
theorem In.eq_of_length_eq (hp : p.In line) (hq : q.In line)
    (hlen : p.before.length = q.before.length) : p = q := by
  have hline := hq.line_eq
  rw [hline] at hp
  have hbefore := hp.before_eq hlen
  have hcandidate : p.candidate = q.candidate := by
    have hqhere := (hline ▸ hq).here? rfl
    exact Option.some.inj ((hp.here? hlen).symm.trans hqhere)
  have hafter := hp.line_eq
  rw [hbefore, hcandidate] at hafter
  have hafter := List.append_cancel_left (List.append_cancel_left hafter)
  cases p; cases q; simp_all

/-- A scan that has come to the end of `before` finds the candidates that occur from there on, from
left to right. -/
theorem exists_occurrences_from (before t : Text) :
    ∃ occurrences : List Occurrence,
      occurrences.map Occurrence.candidate = Candidate.allFrom (before.getLast?.any Candidate.isTag) t ∧
      (∀ p, p ∈ occurrences ↔ p.In (before ++ t) ∧ before.length ≤ p.before.length) ∧
      occurrences.Pairwise fun p q => p.before.length < q.before.length := by
  induction t generalizing before with
  | nil =>
    refine ⟨[], by simp [Candidate.allFrom], fun p => ?_, .nil⟩
    simp only [List.not_mem_nil, false_iff, not_and, Nat.not_le]
    intro hp
    have hlen := congrArg List.length hp.line_eq
    have hpos := List.length_pos_iff.2 p.candidate.spelling_ne_nil
    simp only [List.length_append, List.length_nil] at hlen
    omega
  | cons x t ih =>
    obtain ⟨later, hmap, hmem, hsorted⟩ := ih (before ++ [x])
    simp only [List.getLast?_concat, Option.any_some, List.append_assoc, List.singleton_append,
      List.length_append, List.length_singleton] at hmap hmem
    cases hhere : Candidate.here? (before.getLast?.any Candidate.isTag) (x :: t) with
    | none =>
      refine ⟨later, by simp [Candidate.allFrom_cons, hhere, hmap], fun p => ?_, hsorted⟩
      rw [hmem]
      refine ⟨fun ⟨hp, hle⟩ => ⟨hp, by omega⟩, fun ⟨hp, hle⟩ => ⟨hp, ?_⟩⟩
      have hne : p.before.length ≠ before.length := by
        intro hlen
        simp [hp.here? hlen] at hhere
      omega
    | some c =>
      obtain ⟨after, hin⟩ := Candidate.here?_eq_some_iff.1 hhere
      refine ⟨⟨before, c, after⟩ :: later, by simp [Candidate.allFrom_cons, hhere, hmap], fun p => ?_,
        List.pairwise_cons.2 ⟨fun p hp => ((hmem p).1 hp).2, hsorted⟩⟩
      rw [List.mem_cons, hmem]
      constructor
      · rintro (rfl | ⟨hp, hle⟩)
        · exact ⟨hin, Nat.le_refl _⟩
        · exact ⟨hp, by omega⟩
      · rintro ⟨hp, hle⟩
        rcases Nat.eq_or_lt_of_le hle with hlen | hlt
        · exact .inl (hp.eq_of_length_eq hin hlen.symm)
        · exact .inr ⟨hp, hlt⟩

/-- The candidates of a line are those that occur in it, from left to right. -/
theorem exists_occurrences (line : Text) :
    ∃ occurrences : List Occurrence,
      occurrences.map Occurrence.candidate = Candidate.all line ∧
      (∀ p, p ∈ occurrences ↔ p.In line) ∧
      occurrences.Pairwise fun p q => p.before.length < q.before.length := by
  simpa [Candidate.all] using exists_occurrences_from [] line

/-- Of occurrences in their order, the first one on which `f` has a result is the leftmost such. -/
theorem findSome?_eq_some_iff {occurrences : List Occurrence} {β : Type} {f : Candidate → Option β}
    {b : β}
    (hsorted : occurrences.Pairwise fun p q => p.before.length < q.before.length) :
    (occurrences.map Occurrence.candidate).findSome? f = some b ↔
      ∃ p ∈ occurrences, f p.candidate = some b ∧
        ∀ q ∈ occurrences, (f q.candidate).isSome → p.before.length ≤ q.before.length := by
  rw [List.findSome?_map, List.findSome?_eq_some_iff]
  constructor
  · rintro ⟨earlier, p, later, rfl, hp, hnone⟩
    refine ⟨p, by simp, hp, fun q hq hsome => ?_⟩
    rcases List.mem_append.1 hq with hq | hq
    · simp [show f q.candidate = none from hnone q hq] at hsome
    · rcases List.mem_cons.1 hq with rfl | hq
      · exact Nat.le_refl _
      · have hlater := (List.pairwise_append.1 hsorted).2.1
        exact Nat.le_of_lt ((List.pairwise_cons.1 hlater).1 q hq)
  · rintro ⟨p, hp, hsome, hfirst⟩
    obtain ⟨earlier, later, rfl⟩ := List.append_of_mem hp
    refine ⟨earlier, p, later, rfl, hsome, fun q hq => ?_⟩
    have hlt := (List.pairwise_append.1 hsorted).2.2 q hq p (by simp)
    cases hq' : f q.candidate with
    | none => exact hq'
    | some b' =>
      have hle := hfirst q (by simp [hq]) (by simp [hq'])
      omega

end Occurrence

/-! ## The record of a line -/

namespace Candidate

/-- Both numbers of a candidate are 64-bit numbers, however many digits they have. -/
def Fits (c : Candidate) : Prop :=
  Numeral.value c.start < 2 ^ 64 ∧ Numeral.value c.length < 2 ^ 64

/-- A record says what a candidate says, with the values of its numbers. -/
structure Means (c : Candidate) (r : Record) : Prop where
  kind : r.kind = c.kind
  executed : r.executed = c.executed
  start : r.start.toNat = Numeral.value c.start
  length : r.length.toNat = Numeral.value c.length

theorem record?_eq_some_iff {c : Candidate} {r : Record} : c.record? = some r ↔ c.Means r := by
  simp only [record?, Option.bind_eq_bind, Option.bind_eq_some_iff, Option.pure_def,
    Option.some.injEq, Numeral.word?_eq_some_iff]
  constructor
  · rintro ⟨start, hstart, length, hlength, rfl⟩
    exact ⟨rfl, rfl, hstart.symm, hlength.symm⟩
  · rintro ⟨hkind, hexecuted, hstart, hlength⟩
    refine ⟨r.start, hstart.symm, r.length, hlength.symm, ?_⟩
    rw [← hkind, ← hexecuted]

theorem isSome_record?_iff {c : Candidate} : c.record?.isSome ↔ c.Fits := by
  rw [Option.isSome_iff_exists]
  constructor
  · rintro ⟨r, hr⟩
    have hmeans := record?_eq_some_iff.1 hr
    exact ⟨hmeans.start ▸ r.start.toNat_lt, hmeans.length ▸ r.length.toNat_lt⟩
  · rintro ⟨hstart, hlength⟩
    exact ⟨⟨c.kind, c.executed, .ofNat (Numeral.value c.start), .ofNat (Numeral.value c.length)⟩,
      record?_eq_some_iff.2 ⟨rfl, rfl, UInt64.toNat_ofNat_of_lt' hstart,
        UInt64.toNat_ofNat_of_lt' hlength⟩⟩

end Candidate

namespace Record

/-- A line has a record if and only if a candidate occurs in it whose numbers fit, and the record is
that of the leftmost such candidate. Candidates with wider numbers have no influence. -/
theorem parseLine_firstFittingOccurrence (line : Text) :
    ((parseLine line).value.isSome ↔ ∃ p : Occurrence, p.In line ∧ p.candidate.Fits) ∧
      ∀ r, (parseLine line).value = some r ↔
        ∃ p : Occurrence, p.In line ∧ p.candidate.Means r ∧
          ∀ q : Occurrence, q.In line → q.candidate.Fits → p.before.length ≤ q.before.length := by
  obtain ⟨occurrences, hmap, hmem, hsorted⟩ := Occurrence.exists_occurrences line
  rw [parseLine_value, ← hmap]
  constructor
  · rw [List.findSome?_map, List.findSome?_isSome_iff]
    simp [hmem, Candidate.isSome_record?_iff]
  · intro r
    rw [Occurrence.findSome?_eq_some_iff hsorted]
    simp only [hmem, Candidate.record?_eq_some_iff, Candidate.isSome_record?_iff]

/-- The tag that a broken candidate ends with can begin a whole one. -/
example : (parseLine "A:NIL:T,1,2".toList).value = some ⟨"NIL".toList, true, 1, 2⟩ := by
  decide

end Record

end CoverageOverlay
