-- SUMMARY: Places at which a line can be cut without cutting a candidate, and what a scan finds there.
import CoverageOverlay.Proofs.Record.Search
import CoverageOverlay.Proofs.Text.Lines

/-!
# Boundaries

A text can be scanned in two parts if no candidate goes across the place where
they meet. There are two such places. One is before a character that no
candidate holds, such as a line feed, a carriage return or a letter of another
script. The other is before a tag with its colon, if no letter of a tag comes
before it: what is left of it could end in the middle of a candidate, but a
candidate goes on with a flag there, and a flag has no colon behind it.
-/

namespace CoverageOverlay.Candidate

open Text (IsRun Stops)

variable {inRun : Bool} {s before rest after t : Text} {c : Candidate} {x : Char}

/-! ## Scans in two parts -/

/-- The candidate at the head of `s`, if one begins there, is the same with `rest` behind `s`, provided
that it ends within `s`. -/
theorem ofHead?_append (hdigit : Stops Numeral.isDigit rest)
    (hwithin : ∀ (c : Candidate) (after : Text), c.Heads (s ++ rest) after →
      ∃ inner, s = c.spelling ++ inner) :
    ofHead? (s ++ rest) = ofHead? s := by
  ext c
  rw [ofHead?_eq_some_iff, ofHead?_eq_some_iff]
  constructor
  · rintro ⟨after, hheads⟩
    obtain ⟨inner, rfl⟩ := hwithin c after hheads
    obtain ⟨htext, hkind, hstart, hlength, hstops⟩ := hheads
    rw [List.append_assoc, List.append_cancel_left_eq] at htext
    refine ⟨inner, rfl, hkind, hstart, hlength, ?_⟩
    cases inner with
    | nil => exact Text.stops_nil
    | cons y inner =>
      subst htext
      simpa using hstops
  · rintro ⟨inner, rfl, hkind, hstart, hlength, hstops⟩
    refine ⟨inner ++ rest, List.append_assoc _ _ _, hkind, hstart, hlength, ?_⟩
    cases inner with
    | nil => exact hdigit
    | cons y inner => simpa using hstops

/-- If no candidate that begins in `before` goes on in `rest`, each part is scanned on its own. -/
theorem allFrom_append
    (hhead : ∀ s, s <:+ before → s ≠ [] → ofHead? (s ++ rest) = ofHead? s) :
    allFrom inRun (before ++ rest) =
      allFrom inRun before ++ allFrom (before.getLast?.elim inRun isTag) rest := by
  induction before generalizing inRun with
  | nil => rfl
  | cons y before ih =>
    have hhere : here? inRun (y :: (before ++ rest)) = here? inRun (y :: before) := by
      have hcons := hhead (y :: before) List.suffix_rfl (List.cons_ne_nil y before)
      rw [List.cons_append] at hcons
      simp only [here?, hcons]
    have hlast : (y :: before).getLast?.elim inRun isTag = before.getLast?.elim (isTag y) isTag := by
      rw [List.getLast?_cons]
      cases before.getLast? <;> rfl
    have hlater : allFrom (isTag y) (before ++ rest) =
        allFrom (isTag y) before ++ allFrom (before.getLast?.elim (isTag y) isTag) rest :=
      ih fun s hs => hhead s (hs.trans (List.suffix_cons y before))
    rw [List.cons_append, allFrom_cons, allFrom_cons, hhere, hlater, hlast, List.append_assoc]

/-! ## Foreign characters -/

/-- Whether no candidate can hold a character. -/
def isForeign (x : Char) : Bool :=
  !(isTag x || Numeral.isDigit x || x = ':' || x = ',')

theorem not_isForeign_of_isTag (h : isTag x = true) : isForeign x = false := by
  simp [isForeign, h]

theorem not_isForeign_of_isDigit (h : Numeral.isDigit x = true) : isForeign x = false := by
  simp [isForeign, h]

theorem isTag_of_isForeign (h : isForeign x = true) : isTag x = false := by
  cases htag : isTag x with
  | false => rfl
  | true => simp [not_isForeign_of_isTag htag] at h

theorem isDigit_of_isForeign (h : isForeign x = true) : Numeral.isDigit x = false := by
  cases hdigit : Numeral.isDigit x with
  | false => rfl
  | true => simp [not_isForeign_of_isDigit hdigit] at h

theorem isTag_of_mem_flag (executed : Bool) (h : x ∈ flag executed) : isTag x = true := by
  cases executed with
  | true =>
    obtain rfl : x = 'T' := by simpa [flag] using h
    decide
  | false =>
    have hletters : (flag false).all isTag = true := by decide
    exact List.all_eq_true.1 hletters x h

theorem Heads.not_isForeign (h : c.Heads t after) : ∀ x ∈ c.spelling, isForeign x = false := by
  have hcolon : isForeign ':' = false := by decide
  have hcomma : isForeign ',' = false := by decide
  intro x hx
  simp only [spelling, List.append_assoc, List.cons_append, List.mem_append, List.mem_cons] at hx
  rcases hx with hx | rfl | hx | rfl | hx | rfl | hx
  · exact not_isForeign_of_isTag (h.kind x hx)
  · exact hcolon
  · exact not_isForeign_of_isTag (isTag_of_mem_flag c.executed hx)
  · exact hcomma
  · exact not_isForeign_of_isDigit (h.start.all x hx)
  · exact hcomma
  · exact not_isForeign_of_isDigit (h.length.all x hx)

theorem ofHead?_append_foreign (hx : isForeign x = true) (s rest : Text) :
    ofHead? (s ++ x :: rest) = ofHead? s := by
  refine ofHead?_append (by simp [isDigit_of_isForeign hx]) fun c after hheads => ?_
  rcases List.append_eq_append_iff.1 hheads.text_eq with
    ⟨inner, hspelling, hrest⟩ | ⟨inner, hs, -⟩
  · cases inner with
    | nil => exact ⟨[], by simpa using hspelling.symm⟩
    | cons y inner =>
      -- The candidate would hold the foreign character.
      obtain ⟨rfl, -⟩ := List.cons.inj hrest
      have hnot := hheads.not_isForeign x (by simp [hspelling])
      simp [hx] at hnot
  · exact ⟨inner, hs⟩

/-- A foreign character parts a text into two that are scanned each on its own. -/
theorem allFrom_append_foreign (hx : isForeign x = true) (before rest : Text) :
    allFrom inRun (before ++ x :: rest) = allFrom inRun before ++ allFrom false rest := by
  have htag := isTag_of_isForeign hx
  rw [allFrom_append fun s _ _ => ofHead?_append_foreign hx s rest]
  simp [allFrom, htag]

/-- A run of foreign characters parts a text as one of them does. -/
theorem allFrom_append_foreign_run {run : Text} (hne : run ≠ [])
    (hrun : ∀ x ∈ run, isForeign x = true) (before rest : Text) :
    allFrom inRun (before ++ (run ++ rest)) = allFrom inRun before ++ allFrom false rest := by
  induction run generalizing inRun before with
  | nil => exact absurd rfl hne
  | cons x run ih =>
    obtain ⟨hx, hmore⟩ := List.forall_mem_cons.1 hrun
    rw [List.cons_append, allFrom_append_foreign hx]
    cases run with
    | nil => rfl
    | cons y run =>
      have hlater : allFrom false ([] ++ (y :: run ++ rest)) = allFrom false [] ++ allFrom false rest :=
        ih (List.cons_ne_nil y run) hmore []
      rw [List.nil_append, allFrom, List.nil_append] at hlater
      rw [hlater]

/-- A carriage return at the end of a line has no influence on its candidates. -/
theorem all_dropReturn (line : Text) : all (Text.dropReturn line) = all line := by
  rcases Text.dropReturn_cases line with hsame | hreturn
  · rw [hsame]
  · have hforeign : isForeign '\r' = true := by decide
    have hline : all line = all (Text.dropReturn line ++ ['\r']) := congrArg all hreturn
    rw [hline, all, all, allFrom_append_foreign hforeign]
    simp [allFrom]

/-! ## Tags with their colons -/

/-- A text that ends with letters ends with a letter. -/
theorem exists_getLast?_tag (front : Text) {run : Text} (hrun : IsRun isTag run) :
    ∃ y ∈ (front ++ run).getLast?, isTag y = true := by
  obtain ⟨init, y, rfl⟩ := List.eq_nil_or_concat run |>.resolve_left hrun.ne_nil
  exact ⟨y, by simp, hrun.all y (by simp)⟩

/-- Behind the flag of a candidate there are no letters. -/
theorem Heads.not_isTag_numbers (h : c.Heads t after) :
    ∀ y ∈ ',' :: (c.start ++ ',' :: c.length), isTag y = false := by
  have hcomma : isTag ',' = false := by decide
  intro y hy
  simp only [List.mem_cons, List.mem_append] at hy
  rcases hy with rfl | hy | rfl | hy
  · exact hcomma
  · exact isTag_of_isDigit (h.start.all y hy)
  · exact hcomma
  · exact isTag_of_isDigit (h.length.all y hy)

/-- A letter within a candidate that follows no letter is the first one of the flag. -/
theorem Heads.eq_flag_of_letter {u : Text} (h : c.Heads t after) (hsplit : c.spelling = s ++ x :: u)
    (hs : s ≠ []) (hlast : ∀ y ∈ s.getLast?, isTag y = false) (hx : isTag x = true) :
    x :: u = flag c.executed ++ ',' :: (c.start ++ ',' :: c.length) := by
  have hcolon : isTag ':' = false := by decide
  have hnot (front run : Text) (hfront : s = front ++ run) (hne : run ≠ [])
      (hrun : ∀ y ∈ run, isTag y = true) : False := by
    obtain ⟨y, hy, htag⟩ := exists_getLast?_tag front ⟨hne, hrun⟩
    simp [hlast y (hfront ▸ hy)] at htag
  have htext : c.kind ++ ':' :: (flag c.executed ++ ',' :: (c.start ++ ',' :: c.length)) =
      s ++ x :: u := by
    simpa [spelling] using hsplit
  rcases List.append_eq_append_iff.1 htext with ⟨front, hfront, hrest⟩ | ⟨more, hkind, -⟩
  · cases front with
    | nil =>
      obtain ⟨rfl, -⟩ := List.cons.inj hrest
      simp [hcolon] at hx
    | cons y front =>
      obtain ⟨rfl, htail⟩ := List.cons.inj hrest
      rcases List.append_eq_append_iff.1 htail with ⟨inner, -, hnumbers⟩ | ⟨more, hflag, hletter⟩
      · have hmem : x ∈ ',' :: (c.start ++ ',' :: c.length) := by simp [hnumbers]
        simp [h.not_isTag_numbers x hmem] at hx
      · by_cases hnil : front = []
        · rw [hletter, hflag, hnil, List.nil_append]
        · have hletters : ∀ y ∈ front, isTag y = true := by
            intro y hy
            exact isTag_of_mem_flag c.executed (by simp [hflag, hy])
          exact (hnot (c.kind ++ [':']) front (by simpa using hfront) hnil hletters).elim
  · have hletters : ∀ y ∈ s, isTag y = true := by
      intro y hy
      exact h.kind y (by simp [hkind, hy])
    exact (hnot [] s rfl hs hletters).elim

/-- A candidate that begins before a tag with its colon, and not within a tag, ends before it. -/
theorem ofHead?_append_tag {kind more : Text} (hkind : IsRun isTag kind) (hs : s ≠ [])
    (hlast : ∀ y ∈ s.getLast?, isTag y = false) :
    ofHead? (s ++ (kind ++ ':' :: more)) = ofHead? s := by
  have hcolon : isTag ':' = false := by decide
  have hcomma : isTag ',' = false := by decide
  obtain ⟨x, letters, rfl⟩ := List.exists_cons_of_ne_nil hkind.ne_nil
  have hx : isTag x = true := hkind.all x (by simp)
  have hdigit : Numeral.isDigit x = false := by
    cases hdigit : Numeral.isDigit x with
    | false => rfl
    | true => simp [isTag_of_isDigit hdigit] at hx
  refine ofHead?_append (by simpa using hdigit) fun c after hheads => ?_
  rcases List.append_eq_append_iff.1 hheads.text_eq with
    ⟨inner, hspelling, hrest⟩ | ⟨inner, hs', -⟩
  · cases inner with
    | nil => exact ⟨[], by simpa using hspelling.symm⟩
    | cons y inner =>
      obtain ⟨rfl, htail⟩ := List.cons.inj hrest
      have hflag := hheads.eq_flag_of_letter hspelling hs hlast hx
      -- The letters of the tag are those of the flag, but a flag is followed by a comma.
      have htext : x :: letters ++ ':' :: more =
          flag c.executed ++ ',' :: (c.start ++ ',' :: (c.length ++ after)) :=
        calc
          x :: letters ++ ':' :: more = x :: inner ++ after := congrArg (x :: ·) htail
          _ = flag c.executed ++ ',' :: (c.start ++ ',' :: (c.length ++ after)) := by
            rw [hflag]
            simp
      have hletters : ∀ y ∈ flag c.executed, isTag y = true := fun y => isTag_of_mem_flag c.executed
      have hstopsColon : Stops isTag (':' :: more) := Text.stops_cons.2 hcolon
      have hstopsComma : Stops isTag (',' :: (c.start ++ ',' :: (c.length ++ after))) :=
        Text.stops_cons.2 hcomma
      have htag := Text.dropWhile_append_of_stops hkind.all hstopsColon
      have hflagged := Text.dropWhile_append_of_stops hletters hstopsComma
      rw [htext, hflagged] at htag
      simp at htag
  · exact ⟨inner, hs'⟩

/-- The tag of a candidate, with its colon, parts a text into two that are scanned each on its own. -/
theorem allFrom_append_tag {kind more : Text} (hkind : IsRun isTag kind)
    (hlast : ∀ y ∈ before.getLast?, isTag y = false) :
    allFrom false (before ++ (kind ++ ':' :: more)) =
      allFrom false before ++ allFrom false (kind ++ ':' :: more) := by
  rw [allFrom_append fun s hsuffix hs => ofHead?_append_tag hkind hs ?_]
  · cases hbefore : before.getLast? with
    | none => rfl
    | some y => rw [Option.elim_some, hlast y (by simp [hbefore])]
  · obtain ⟨front, rfl⟩ := hsuffix
    obtain ⟨init, y, rfl⟩ := (List.eq_nil_or_concat s).resolve_left hs
    simpa using hlast

end CoverageOverlay.Candidate
