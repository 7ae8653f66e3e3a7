-- SUMMARY: Pulling records reads lines as far as they are needed, and further pulls go on behind them.
import CoverageOverlay.Proofs.Record.Sequence

/-!
# Pulling records

Whoever pulls some records of a text reads the lines up to the one that holds
the last of them, or all lines if there are not so many records. What is behind
these lines is neither read nor changed: it could be any other text. Pulling on
from there is as good as having pulled more at once, so that every line is read
once, and its events come once and in order.
-/

namespace CoverageOverlay

namespace Record

open Text (CutsLines)

/-! ## Reading lines -/

/-- The records of some lines. -/
def ofLines (lines : List Text) : List Record :=
  lines.filterMap fun line => (parseLine line).value

/-- The events of reading some lines. -/
def eventsOf (lines : List Text) : List Log.Event :=
  lines.flatMap fun line => (parseLine line).events

variable {t line front rest left : Text} {before lines read : List Text} {r : Record} {count : Nat}

@[simp] theorem ofLines_nil : ofLines [] = [] := rfl

@[simp] theorem eventsOf_nil : eventsOf [] = [] := rfl

theorem parse_eq_ofLines (t : Text) : (parse t).value = ofLines (Text.lines t) :=
  parse_value t

theorem ofLines_append (before after : List Text) :
    ofLines (before ++ after) = ofLines before ++ ofLines after :=
  List.filterMap_append

theorem eventsOf_append (before after : List Text) :
    eventsOf (before ++ after) = eventsOf before ++ eventsOf after :=
  List.flatMap_append

theorem pull?_of_nextLine? (h : Text.nextLine? t = some (line, rest)) :
    pull? t = match (parseLine line).value with
      | some r => ⟨some (r, rest), (parseLine line).events⟩
      | none => ⟨(pull? rest).value, (parseLine line).events ++ (pull? rest).events⟩ := by
  rw [pull?]
  split
  · next hnone => simp [h] at hnone
  · next line' rest' hsome =>
    rw [h, Option.some.injEq, Prod.mk.injEq] at hsome
    obtain ⟨rfl, rfl⟩ := hsome
    cases hvalue : (parseLine line).value <;> ext1 <;> simp [hvalue]

/-! ## One pull -/

/-- The last of some lines is the only one that has a record. -/
structure EndsInFirst (lines before : List Text) (line : Text) (r : Record) : Prop where
  lines_eq : lines = before ++ [line]
  none_before : ofLines before = []
  record : (parseLine line).value = some r

/-- What a pull comes to: all lines are read and none has a record, or the lines up to the first one with a
record are read, and what is behind them could be any other text. -/
inductive Pulled : Text → Logged (Option (Record × Text)) → Prop
  | none {t : Text} (hnone : ofLines (Text.lines t) = []) : Pulled t ⟨none, eventsOf (Text.lines t)⟩
  | some {front rest : Text} {r : Record} (hcut : CutsLines front rest)
    (hfirst : ∃ before line, EndsInFirst (Text.lines front) before line r)
    (hsame : ∀ other, CutsLines front other →
      pull? (front ++ other) = ⟨some (r, other), eventsOf (Text.lines front)⟩) :
    Pulled (front ++ rest) ⟨some (r, rest), eventsOf (Text.lines front)⟩

theorem pulled_pull? (t : Text) : Pulled t (pull? t) := by
  induction t using Text.inductionOnNextLine with
  | nil =>
    have hpull : pull? [] = ⟨none, eventsOf (Text.lines [])⟩ := by
      rw [pull?, Text.lines_nil]
      rfl
    rw [hpull]
    exact .none (by rw [Text.lines_nil]; rfl)
  | line t line rest hline ih =>
    obtain ⟨head, rfl, hcut, hread⟩ := Text.exists_front_of_nextLine? hline
    have hhead : Text.lines head = [line] := by
      have hlast := hread [] (Text.cutsLines_nil head)
      rw [List.append_nil] at hlast
      rw [Text.lines_of_nextLine? hlast, Text.lines_nil]
    cases hvalue : (parseLine line).value with
    | some r =>
      have hsame (other : Text) (hother : CutsLines head other) :
          pull? (head ++ other) = ⟨some (r, other), eventsOf (Text.lines head)⟩ := by
        rw [pull?_of_nextLine? (hread other hother), hvalue, hhead]
        simp [eventsOf]
      rw [hsame rest hcut]
      exact .some hcut ⟨[], line, hhead, rfl, hvalue⟩ hsame
    | none =>
      have hskip (other : Text) (hother : CutsLines head other) :
          pull? (head ++ other) =
            ⟨(pull? other).value, eventsOf (Text.lines head) ++ (pull? other).events⟩ := by
        rw [pull?_of_nextLine? (hread other hother), hvalue, hhead]
        simp [eventsOf]
      have hempty : ofLines (Text.lines head) = [] := by simp [hhead, ofLines, hvalue]
      rw [hskip rest hcut]
      generalize pull? rest = later at ih
      cases ih with
      | none hnone =>
        have hlines := Text.lines_append hcut
        rw [← eventsOf_append, ← hlines]
        exact .none (by rw [hlines, ofLines_append, hempty, hnone, List.append_nil])
      | @some front rest r hcut' hfirst hsame =>
        obtain ⟨before, last, hlines, hbefore, hlast⟩ := hfirst
        have hboth : Text.lines (head ++ front) = Text.lines head ++ Text.lines front :=
          Text.lines_append hcut.left
        rw [← List.append_assoc, ← eventsOf_append, ← hboth]
        refine .some (hcut.append hcut') ⟨line :: before, last, ?_, ?_, hlast⟩ fun other hother => ?_
        · rw [hboth, hhead, hlines]
          rfl
        · rw [← List.singleton_append, ← hhead, ofLines_append, hempty, hbefore, List.append_nil]
        · rw [List.append_assoc, hskip _ (hcut.exchange hother), hsame other hother.of_append, hboth,
            eventsOf_append]

/-! ## Many pulls -/

/-- Of some lines, those that have to be read to get `count` records: no line for no record, the lines up to
the one that holds the last of the records, or all lines if they have fewer records. -/
inductive ReadFor : Nat → List Text → List Text → Prop
  | nothing (lines : List Text) : ReadFor 0 lines []
  | upTo {count : Nat} {before after : List Text} {line : Text} {r : Record}
    (hbefore : (ofLines before).length = count) (hline : (parseLine line).value = some r) :
    ReadFor (count + 1) (before ++ line :: after) (before ++ [line])
  | all {count : Nat} {lines : List Text} (hfewer : (ofLines lines).length < count) :
    ReadFor count lines lines

theorem EndsInFirst.ofLines_eq {first : List Text} (h : EndsInFirst first before line r) :
    ofLines first = [r] := by
  rw [h.lines_eq, ofLines_append, h.none_before]
  simp [ofLines, h.record]

/-- Behind the first line with a record, one record less is to be found. -/
theorem ReadFor.next {first : List Text} (hfirst : EndsInFirst first before line r)
    (h : ReadFor count lines read) : ReadFor (count + 1) (first ++ lines) (first ++ read) := by
  have hone := hfirst.ofLines_eq
  cases h with
  | nothing =>
    rw [hfirst.lines_eq, List.append_assoc, List.singleton_append, List.append_nil]
    exact .upTo (by simp [hfirst.none_before]) hfirst.record
  | upTo hbefore hline =>
    rw [← List.append_assoc, ← List.append_assoc]
    refine .upTo ?_ hline
    rw [ofLines_append, hone, List.length_append, hbefore, List.length_singleton, Nat.add_comm]
  | all hfewer =>
    refine .all ?_
    rw [ofLines_append, hone, List.length_append, List.length_singleton]
    omega

/-- The lines read hold all the records that were asked for, or they are all lines. -/
theorem ReadFor.enough_or_all (h : ReadFor count lines read) :
    (ofLines read).length = count ∨ read = lines ∧ (ofLines lines).length < count := by
  cases h with
  | nothing => exact .inl rfl
  | upTo hbefore hline =>
    refine .inl ?_
    rw [ofLines_append, List.length_append, hbefore]
    simp [ofLines, hline]
  | all hfewer => exact .inr ⟨rfl, hfewer⟩

/-- The lines read hold the first of the records, and the others are those of the lines behind them. -/
theorem ReadFor.ofLines_eq {behind : List Text} (h : ReadFor count (read ++ behind) read) :
    ofLines read = (ofLines (read ++ behind)).take count ∧
      ofLines behind = (ofLines (read ++ behind)).drop count := by
  rw [ofLines_append]
  rcases h.enough_or_all with henough | ⟨hall, hfewer⟩
  · rw [List.take_left' henough, List.drop_left' henough]
    exact ⟨rfl, rfl⟩
  · have hbehind : behind = [] := List.self_eq_append_right.1 hall
    rw [hbehind, List.append_nil] at hfewer
    rw [hbehind, ofLines_nil, List.append_nil, List.take_of_length_le (Nat.le_of_lt hfewer),
      List.drop_of_length_le (Nat.le_of_lt hfewer)]
    exact ⟨rfl, rfl⟩

/-- The part `front` of a text is read to pull `count` records, and `left` is left. If there are as many
records, any other text could be in the place of what is left. -/
structure Reads (count : Nat) (t front left : Text) : Prop where
  text_eq : t = front ++ left
  cut : CutsLines front left
  read : ReadFor count (Text.lines t) (Text.lines front)
  pull_eq : pull t count = ⟨(ofLines (Text.lines front), left), eventsOf (Text.lines front)⟩
  unread : (ofLines (Text.lines front)).length = count → ∀ other, CutsLines front other →
    pull (front ++ other) count = ⟨(ofLines (Text.lines front), other), eventsOf (Text.lines front)⟩

theorem pull_succ (t : Text) (count : Nat) :
    pull t (count + 1) = match pull? t with
      | ⟨none, events⟩ => ⟨([], []), events⟩
      | ⟨some (r, rest), events⟩ =>
        ⟨(r :: (pull rest count).value.1, (pull rest count).value.2),
          events ++ (pull rest count).events⟩ := by
  rw [pull]
  rcases pull? t with ⟨_ | ⟨r, rest⟩, events⟩ <;> ext1 <;> simp

theorem reads_zero (t : Text) : Reads 0 t [] t where
  text_eq := rfl
  cut := .inl rfl
  read := by
    rw [Text.lines_nil]
    exact .nothing _
  pull_eq := by
    rw [Text.lines_nil]
    rfl
  unread _ other _ := by
    rw [Text.lines_nil]
    rfl

/-- Where no line has a record, all lines are read. -/
theorem reads_all (hpull : pull? t = ⟨none, eventsOf (Text.lines t)⟩)
    (hnone : ofLines (Text.lines t) = []) (count : Nat) : Reads (count + 1) t t [] where
  text_eq := (List.append_nil t).symm
  cut := Text.cutsLines_nil t
  read := .all (by simp [hnone])
  pull_eq := by rw [pull_succ, hpull, hnone]
  unread henough := by simp [hnone] at henough

/-- Behind the first line with a record, the other records are pulled. -/
theorem Reads.next {middle : Text} (hcut : CutsLines front rest)
    (hfirst : EndsInFirst (Text.lines front) before line r)
    (hsame : ∀ other, CutsLines front other →
      pull? (front ++ other) = ⟨some (r, other), eventsOf (Text.lines front)⟩)
    (h : Reads count rest middle left) :
    Reads (count + 1) (front ++ rest) (front ++ middle) left := by
  obtain ⟨rfl, hcut', hread, hpull, hunread⟩ := h
  have hlines : Text.lines (front ++ middle) = Text.lines front ++ Text.lines middle :=
    Text.lines_append hcut.left
  have hrecords : ofLines (Text.lines (front ++ middle)) = r :: ofLines (Text.lines middle) := by
    rw [hlines, ofLines_append, hfirst.ofLines_eq, List.singleton_append]
  have hpullNext (other : Text) (hother : CutsLines front (middle ++ other))
      (hmore : pull (middle ++ other) count =
        ⟨(ofLines (Text.lines middle), other), eventsOf (Text.lines middle)⟩) :
      pull (front ++ middle ++ other) (count + 1) =
        ⟨(ofLines (Text.lines (front ++ middle)), other), eventsOf (Text.lines (front ++ middle))⟩ := by
    rw [List.append_assoc, pull_succ, hsame _ hother, hrecords, hlines, eventsOf_append]
    simp only [hmore]
  refine ⟨(List.append_assoc ..).symm, hcut.append hcut', ?_, ?_, fun henough other hother => ?_⟩
  · rw [hlines, Text.lines_append hcut]
    exact hread.next hfirst
  · rw [← List.append_assoc]
    exact hpullNext left hcut hpull
  · rw [hrecords, List.length_cons, Nat.add_right_cancel_iff] at henough
    exact hpullNext other (hcut.exchange hother) (hunread henough other hother.of_append)

theorem exists_reads (t : Text) (count : Nat) : ∃ front left, Reads count t front left := by
  induction count generalizing t with
  | zero => exact ⟨[], t, reads_zero t⟩
  | succ count ih =>
    have hpulled := pulled_pull? t
    generalize hpull : pull? t = run at hpulled
    cases hpulled with
    | none hnone => exact ⟨t, [], reads_all hpull hnone count⟩
    | @some front rest r hcut hfirst hsame =>
      obtain ⟨before, line, hfirst⟩ := hfirst
      obtain ⟨middle, left, hreads⟩ := ih rest
      exact ⟨front ++ middle, left, hreads.next hcut hfirst hsame⟩

/-! ## Pulling on -/

theorem pull_nil (count : Nat) : pull [] count = ⟨([], []), []⟩ := by
  have hnone : pull? [] = ⟨none, []⟩ := by
    rw [pull?]
    rfl
  cases count with
  | zero => rfl
  | succ count => rw [pull_succ, hnone]

/-- Pulling some records and then more of them is pulling all of these at once. -/
theorem pull_add (t : Text) (count more : Nat) :
    pull t (count + more) = (do
      let (records, left) ← pull t count
      (fun (later, left) => (records ++ later, left)) <$> pull left more) := by
  induction count generalizing t with
  | zero =>
    rw [Nat.zero_add]
    ext1 <;> simp [pull]
  | succ count ih =>
    rw [Nat.add_right_comm, pull_succ, pull_succ]
    rcases pull? t with ⟨_ | ⟨r, rest⟩, events⟩
    · ext1 <;> simp [pull_nil]
    · ext1 <;> simp [ih rest]

/-- Pulling some records of a text gives the first of its records, or all if they are not so many. For this a
part of the text is read: the lines up to the one with the last of these records, or all lines. The events are
those of these lines, one line after the other. What is left is the text behind them, and it holds the other
records; as long as there are as many records as were asked for, any other text could be in its place. Pulling
on from there comes to the same as pulling more at once. -/
theorem pull_readsAsNeeded (t : Text) (count : Nat) :
    ∃ front left, t = front ++ left ∧ CutsLines front left ∧
      Text.lines t = Text.lines front ++ Text.lines left ∧
      ReadFor count (Text.lines t) (Text.lines front) ∧
      pull t count = ⟨((parse t).value.take count, left),
        (Text.lines front).flatMap fun line => (parseLine line).events⟩ ∧
      (parse left).value = (parse t).value.drop count ∧
      (count ≤ (parse t).value.length → ∀ other, CutsLines front other →
        pull (front ++ other) count = ⟨((parse t).value.take count, other), (pull t count).events⟩) ∧
      ∀ more, pull t (count + more) = (do
        let (records, left) ← pull t count
        (fun (later, left) => (records ++ later, left)) <$> pull left more) := by
  obtain ⟨front, left, rfl, hcut, hread, hpull, hunread⟩ := exists_reads t count
  have hlines := Text.lines_append hcut
  obtain ⟨hfirst, hothers⟩ := (hlines ▸ hread).ofLines_eq
  have htake : ofLines (Text.lines front) = (parse (front ++ left)).value.take count := by
    rw [hfirst, parse_eq_ofLines, hlines]
  have hdrop : (parse left).value = (parse (front ++ left)).value.drop count := by
    rw [parse_eq_ofLines, hothers, parse_eq_ofLines, hlines]
  rw [← htake]
  refine ⟨front, left, rfl, hcut, hlines, hread, hpull, hdrop, fun hcount other hother => ?_,
    pull_add (front ++ left) count⟩
  have henough : (ofLines (Text.lines front)).length = count := by
    rw [htake, List.length_take]
    exact Nat.min_eq_left hcount
  rw [hunread henough other hother, hpull]

/-- The last line leaves no event, because it is not read. -/
example : pull "A:T,0,1\r\n\nB:T,1,1\nno record".toList 2 =
    ⟨([⟨['A'], true, 0, 1⟩, ⟨['B'], true, 1, 1⟩], "no record".toList), []⟩ := by
  cbv

end Record

end CoverageOverlay
