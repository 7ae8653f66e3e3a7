-- SUMMARY: Candidates as the matches of a pattern, found by a search that tries one way after another.
import CoverageOverlay.Proofs.Record.Occurrence

/-!
# Searching for a pattern

The form of a candidate is that of the pattern `([A-Z]+):(T|NIL),([0-9]+),([0-9]+)`.
A search for it tries, from left to right, every position of a line, and at a
position every way in which the pattern can be read: the longest run first,
then shorter ones, and the alternatives in their order. The first way that
works is the match, and the next search begins behind it.

The scan of a line tries one way at the beginning of each tag only. Both find
the same candidates: a shorter tag is never followed by a colon, a tag cannot
begin within a match, and a match that begins within a tag could have begun
earlier.
-/

namespace CoverageOverlay.Candidate

open Text (IsRun Stops)

/-! ## Ways to read the pattern -/

/-- The ways to read one or more characters of a class, longer ones first, each with what is left. -/
def runWays (p : Char → Bool) : Text → List (Text × Text)
  | [] => []
  | c :: t => if p c then (runWays p t).map (fun way => (c :: way.1, way.2)) ++ [([c], t)] else []

/-- The ways to read a fixed word: one or none. -/
def wordWays (word t : Text) : List Text :=
  if t.startsWith word then [t.drop word.length] else []

/-- Read a run in every way, then the character `d`, and go on with `next`. -/
def runThen {α : Type} (p : Char → Bool) (d : Char) (next : Text → Text → List α) (t : Text) :
    List α :=
  (runWays p t).flatMap fun way => (wordWays [d] way.2).flatMap (next way.1)

/-- The ways to read the numbers of a candidate. -/
def numberWays (kind : Text) (executed : Bool) : Text → List (Candidate × Text) :=
  runThen Numeral.isDigit ',' fun start t =>
    (runWays Numeral.isDigit t).map fun way => (⟨kind, executed, start, way.1⟩, way.2)

/-- The ways to read the flag of a candidate and what follows it. -/
def flagWays (kind t : Text) : List (Candidate × Text) :=
  [true, false].flatMap fun executed =>
    (wordWays (flag executed ++ [',']) t).flatMap (numberWays kind executed)

/-- The ways to read a candidate at the head of a text, in the order in which they are tried. -/
def ways : Text → List (Candidate × Text) :=
  runThen isTag ':' flagWays

/-- The first match in a text and the text behind it. -/
def search? : Text → Option (Candidate × Text)
  | [] => none
  | c :: t =>
    match ways (c :: t) with
    | found :: _ => some found
    | [] => search? t

/-! ## The way that is tried first -/

section Runs

variable {p : Char → Bool} {α : Type} {t : Text}

private theorem dropWhile_eq_self_of_takeWhile (h : t.takeWhile p = []) : t.dropWhile p = t := by
  have happend := List.takeWhile_append_dropWhile (p := p) (l := t)
  rwa [h, List.nil_append] at happend

theorem head?_runWays (t : Text) :
    (runWays p t).head? =
      if t.takeWhile p = [] then none else some (t.takeWhile p, t.dropWhile p) := by
  induction t with
  | nil => rfl
  | cons c t ih =>
    cases hc : p c with
    | false => simp [runWays, hc]
    | true =>
      simp only [runWays, hc, if_true, List.head?_append, List.head?_map, ih]
      split
      · next hnil => simp [hc, hnil, dropWhile_eq_self_of_takeWhile hnil]
      · simp [hc]

/-- If nothing can follow a run that was cut short, only the whole run has to be tried. -/
theorem flatMap_runWays {f : Text × Text → List α}
    (hshort : ∀ run c rest, p c = true → f (run, c :: rest) = []) (t : Text) :
    (runWays p t).flatMap f =
      if t.takeWhile p = [] then [] else f (t.takeWhile p, t.dropWhile p) := by
  induction t generalizing f with
  | nil => rfl
  | cons c t ih =>
    cases hc : p c with
    | false => simp [runWays, hc]
    | true =>
      have hlonger := ih (f := fun way => f (c :: way.1, way.2)) fun run d rest hd =>
        hshort (c :: run) d rest hd
      simp only [runWays, hc, if_true, List.flatMap_append, List.flatMap_map, List.flatMap_singleton,
        hlonger, List.takeWhile_cons_of_pos, List.dropWhile_cons_of_pos]
      split
      · next hnil => simp [hnil, dropWhile_eq_self_of_takeWhile hnil]
      · next hne =>
        -- The run goes on, so that it is cut short if only `c` is read.
        cases t with
        | nil => simp at hne
        | cons d t =>
          have hd : p d = true := by
            cases hd : p d with
            | false => simp [hd] at hne
            | true => rfl
          simp [hshort [c] d t hd]

end Runs

section Words

variable {w c : Char} {word t rest : Text}

@[simp] theorem wordWays_nil : wordWays [] t = [t] := by
  simp [wordWays]

@[simp] theorem wordWays_cons_nil : wordWays (w :: word) [] = [] := by
  simp [wordWays]

@[simp] theorem wordWays_cons_cons :
    wordWays (w :: word) (c :: t) = if w = c then wordWays word t else [] := by
  by_cases h : w = c <;> simp [wordWays, h]

theorem mem_wordWays : rest ∈ wordWays word t ↔ t = word ++ rest := by
  simp only [wordWays]
  split
  · next h =>
    obtain ⟨after, rfl⟩ := Text.startsWith_iff.1 h
    simp [eq_comm]
  · next h =>
    simp only [List.not_mem_nil, false_iff]
    rintro rfl
    exact h (Text.startsWith_iff.2 (List.prefix_append _ _))

/-- Of the ways that begin with a fixed word, the first one goes on with what follows the word. -/
theorem head?_flatMap_wordWays {α : Type} {next : Text → List α} {a : α}
    (h : ((wordWays word t).flatMap next).head? = some a) :
    ∃ rest, t = word ++ rest ∧ (next rest).head? = some a := by
  cases hways : wordWays word t with
  | nil => simp [hways] at h
  | cons rest more =>
    have hone : more = [] := by
      simp only [wordWays] at hways
      split at hways <;> simp_all
    rw [hways, hone, List.flatMap_singleton] at h
    exact ⟨rest, mem_wordWays.1 (by simp [hways]), h⟩

end Words

section Delimited

variable {p : Char → Bool} {d : Char} {α : Type} {next : Text → Text → List α} {run rest t : Text}

/-- A run that the character behind it ends is read in one way. -/
theorem runThen_eq (hd : p d = false) :
    runThen p d next t =
      if t.takeWhile p = [] then []
      else (wordWays [d] (t.dropWhile p)).flatMap (next (t.takeWhile p)) := by
  refine flatMap_runWays (fun run x rest hx => ?_) t
  have hne : d ≠ x := by
    rintro rfl
    simp [hd] at hx
  simp [hne]

theorem runThen_append (hd : p d = false) (hrun : IsRun p run) :
    runThen p d next (run ++ d :: rest) = next run rest := by
  have hstops : Stops p (d :: rest) := by simpa using hd
  simp [runThen_eq hd, Text.takeWhile_append_of_stops hrun.all hstops,
    Text.dropWhile_append_of_stops hrun.all hstops, hrun.ne_nil]

theorem runThen_ne_nil (hd : p d = false) (h : runThen p d next t ≠ []) :
    ∃ run rest, IsRun p run ∧ t = run ++ d :: rest := by
  rw [runThen_eq hd] at h
  split at h
  · exact absurd rfl h
  · next hne =>
    cases hdrop : wordWays [d] (t.dropWhile p) with
    | nil => simp [hdrop] at h
    | cons rest more =>
      have hmem : rest ∈ wordWays [d] (t.dropWhile p) := by simp [hdrop]
      obtain ⟨ht, hrun, -⟩ := Text.span_eq_iff.1 ⟨rfl, mem_wordWays.1 hmem⟩
      exact ⟨t.takeWhile p, rest, ⟨hne, hrun⟩, ht⟩

end Delimited

private theorem colon_ends_tag : isTag ':' = false := by decide

private theorem comma_ends_tag : isTag ',' = false := by decide

private theorem comma_ends_digits : Numeral.isDigit ',' = false := by decide

theorem head?_numberWays {kind t after : Text} {executed : Bool} {c : Candidate} :
    (numberWays kind executed t).head? = some (c, after) ↔
      c.kind = kind ∧ c.executed = executed ∧
        IsRun Numeral.isDigit c.start ∧ IsRun Numeral.isDigit c.length ∧
        t = c.start ++ ',' :: (c.length ++ after) ∧ Stops Numeral.isDigit after := by
  constructor
  · intro h
    have hne : numberWays kind executed t ≠ [] := by
      intro hnil
      simp [hnil] at h
    obtain ⟨start, rest, hstart, rfl⟩ := runThen_ne_nil comma_ends_digits hne
    rw [numberWays, runThen_append comma_ends_digits hstart, List.head?_map, head?_runWays] at h
    split at h
    · simp at h
    · next hlength =>
      obtain ⟨hr, hrun, hstops⟩ :=
        (Text.span_eq_iff (p := Numeral.isDigit) (t := rest)).1 ⟨rfl, rfl⟩
      simp only [Option.map_some, Option.some.injEq, Prod.mk.injEq] at h
      obtain ⟨rfl, rfl⟩ := h
      exact ⟨rfl, rfl, hstart, ⟨hlength, hrun⟩,
        congrArg (fun u => start ++ ',' :: u) hr, hstops⟩
  · rintro ⟨rfl, rfl, hstart, hlength, rfl, hstops⟩
    rw [numberWays, runThen_append comma_ends_digits hstart, List.head?_map, head?_runWays,
      Text.takeWhile_append_of_stops hlength.all hstops,
      Text.dropWhile_append_of_stops hlength.all hstops, if_neg hlength.ne_nil]
    rfl

theorem head?_flagWays {kind t : Text} {way : Candidate × Text}
    (h : (flagWays kind t).head? = some way) :
    ∃ executed rest, t = flag executed ++ ',' :: rest ∧
      (numberWays kind executed rest).head? = some way := by
  simp only [flagWays, List.flatMap_cons, List.flatMap_nil, List.append_nil, List.head?_append,
    Option.or_eq_some_iff] at h
  rcases h with h | ⟨-, h⟩
  · obtain ⟨rest, ht, hnumbers⟩ := head?_flatMap_wordWays h
    exact ⟨true, rest, by simpa using ht, hnumbers⟩
  · obtain ⟨rest, ht, hnumbers⟩ := head?_flatMap_wordWays h
    exact ⟨false, rest, by simpa using ht, hnumbers⟩

/-- The way that is tried first reads a candidate with its whole length; its tag may be a part of the
letters that stand there. -/
theorem head?_ways {t after : Text} {c : Candidate} :
    (ways t).head? = some (c, after) ↔ c.Heads t after ∧ c.kind ≠ [] := by
  constructor
  · intro h
    have hne : ways t ≠ [] := by
      intro hnil
      simp [hnil] at h
    obtain ⟨kind, rest, hkind, rfl⟩ := runThen_ne_nil colon_ends_tag hne
    rw [ways, runThen_append colon_ends_tag hkind] at h
    obtain ⟨executed, numbers, rfl, hnumbers⟩ := head?_flagWays h
    obtain ⟨rfl, rfl, hstart, hlength, rfl, hstops⟩ := head?_numberWays.1 hnumbers
    exact ⟨⟨(spelling_append c after).symm, hkind.all, hstart, hlength, hstops⟩, hkind.ne_nil⟩
  · rintro ⟨⟨rfl, htag, hstart, hlength, hstops⟩, hkind⟩
    have hnumbers : (numberWays c.kind c.executed (c.start ++ ',' :: (c.length ++ after))).head? =
        some (c, after) :=
      head?_numberWays.2 ⟨rfl, rfl, hstart, hlength, rfl, hstops⟩
    rw [spelling_append, ways, runThen_append colon_ends_tag ⟨hkind, htag⟩]
    cases hflag : c.executed with
    | true => simpa [flagWays, flag, hflag] using hnumbers
    | false => simpa [flagWays, flag, hflag] using hnumbers

/-! ## Matches -/

theorem length_lt_of_search? {t rest : Text} {c : Candidate} (h : search? t = some (c, rest)) :
    rest.length < t.length := by
  induction t with
  | nil => simp [search?] at h
  | cons x t ih =>
    simp only [search?] at h
    split at h
    · next found more hways =>
      obtain rfl := Option.some.inj h
      obtain ⟨hheads, -⟩ := head?_ways.1 (by rw [hways]; rfl)
      have hpos := List.length_pos_iff.2 c.spelling_ne_nil
      have hlen := congrArg List.length hheads.text_eq
      simp only [List.length_append] at hlen
      omega
    · exact Nat.lt_succ_of_lt (ih h)

/-- The matches in a text, each behind the one before it. -/
def searchAll (t : Text) : List Candidate :=
  match _hfound : search? t with
  | none => []
  | some (c, rest) => c :: searchAll rest
termination_by t.length
decreasing_by exact length_lt_of_search? _hfound

theorem here?_false (t : Text) : here? false t = (ways t).head?.map (·.1) := by
  apply Option.ext
  intro c
  simp only [here?, Bool.false_eq_true, if_false, Option.filter_eq_some_iff, ofHead?_eq_some_iff,
    Option.map_eq_some_iff, Prod.exists, head?_ways]
  constructor
  · rintro ⟨⟨after, hheads⟩, hkind⟩
    exact ⟨c, after, ⟨hheads, by simpa using hkind⟩, rfl⟩
  · rintro ⟨_, after, ⟨hheads, hkind⟩, rfl⟩
    exact ⟨⟨after, hheads⟩, by simpa using hkind⟩

theorem here?_of_ways_eq_nil {inRun : Bool} {t : Text} (h : ways t = []) : here? inRun t = none := by
  cases inRun with
  | true => simp [here?]
  | false => simp [here?_false, h]

/-- A match that begins within a tag could have begun one letter earlier. -/
theorem ways_eq_nil_of_cons {x : Char} {t : Text} (hx : isTag x = true) (h : ways (x :: t) = []) :
    ways t = [] := by
  rw [← List.head?_eq_none_iff] at h ⊢
  rw [Option.eq_none_iff_forall_ne_some] at h ⊢
  rintro ⟨c, after⟩ hc
  obtain ⟨⟨rfl, htag, hstart, hlength, hstops⟩, -⟩ := head?_ways.1 hc
  have htext : x :: (c.spelling ++ after) = spelling { c with kind := x :: c.kind } ++ after := by
    simp [spelling]
  have hletters : ∀ y ∈ x :: c.kind, isTag y = true := List.forall_mem_cons.2 ⟨hx, htag⟩
  refine h ({ c with kind := x :: c.kind }, after) (head?_ways.2 ?_)
  exact ⟨⟨htext, hletters, hstart, hlength, hstops⟩, List.cons_ne_nil x c.kind⟩

theorem allFrom_of_search?_none {inRun : Bool} {t : Text} (h : search? t = none) :
    allFrom inRun t = [] := by
  induction t generalizing inRun with
  | nil => simp [allFrom]
  | cons x t ih =>
    simp only [search?] at h
    split at h
    · simp at h
    · next hways =>
      simp [allFrom_cons, here?_of_ways_eq_nil hways, ih h]

theorem allFrom_letters {run : Text} (hrun : ∀ x ∈ run, isTag x = true) (t : Text) :
    allFrom true (run ++ t) = allFrom true t := by
  induction run with
  | nil => rfl
  | cons x run ih =>
    obtain ⟨hx, hrest⟩ := List.forall_mem_cons.1 hrun
    simp [allFrom, hx, ih hrest]

theorem allFrom_cons_of_not_tag {inRun : Bool} {x : Char} (hx : isTag x = false) (t : Text) :
    allFrom inRun (x :: t) = allFrom false t := by
  simp [allFrom, hx]

theorem isTag_of_isDigit {x : Char} (h : Numeral.isDigit x = true) : isTag x = false := by
  simp only [Numeral.isDigit, isTag, Bool.and_eq_true, decide_eq_true_eq, Bool.and_eq_false_iff,
    decide_eq_false_iff_not, Char.not_le] at h ⊢
  exact .inl (Nat.lt_of_le_of_lt h.2 (by decide))

theorem allFrom_digits {run : Text} (hrun : ∀ x ∈ run, Numeral.isDigit x = true) (t : Text) :
    allFrom false (run ++ t) = allFrom false t := by
  induction run with
  | nil => rfl
  | cons x run ih =>
    obtain ⟨hx, hrest⟩ := List.forall_mem_cons.1 hrun
    rw [List.cons_append, allFrom_cons_of_not_tag (isTag_of_isDigit hx), ih hrest]

/-- A flag is no tag, because a comma follows it. -/
theorem allFrom_flag (executed : Bool) (t : Text) :
    allFrom false (flag executed ++ ',' :: t) = allFrom false t := by
  cases executed with
  | true =>
    have htag : isTag 'T' = true := by decide
    have hhead : ofHead? ('T' :: ',' :: t) = none := by simp [ofHead?, htag, comma_ends_tag]
    simp [flag, allFrom, htag, hhead, comma_ends_tag]
  | false =>
    have hN : isTag 'N' = true := by decide
    have hI : isTag 'I' = true := by decide
    have hL : isTag 'L' = true := by decide
    have hhead : ofHead? ('N' :: 'I' :: 'L' :: ',' :: t) = none := by
      simp [ofHead?, hN, hI, hL, comma_ends_tag]
    simp [flag, allFrom, hhead, hN, hI, hL, comma_ends_tag]

theorem Heads.exists_kind_eq_cons {x : Char} {t after : Text} {c : Candidate}
    (h : c.Heads (x :: t) after) (hkind : c.kind ≠ []) :
    ∃ more, c.kind = x :: more ∧
      t = more ++ ':' :: (flag c.executed ++ ',' :: (c.start ++ ',' :: (c.length ++ after))) := by
  obtain ⟨y, more, hmore⟩ := List.exists_cons_of_ne_nil hkind
  have htext := h.text_eq
  rw [spelling_append, hmore, List.cons_append] at htext
  obtain ⟨rfl, ht⟩ := List.cons.inj htext
  exact ⟨more, hmore, ht⟩

/-- A tag cannot begin within a candidate. -/
theorem allFrom_of_heads {x : Char} {t after : Text} {c : Candidate} (h : c.Heads (x :: t) after)
    (hkind : c.kind ≠ []) : allFrom true t = allFrom false after := by
  obtain ⟨more, hmore, rfl⟩ := h.exists_kind_eq_cons hkind
  have hletters : ∀ y ∈ more, isTag y = true := fun y hy => h.kind y (by simp [hmore, hy])
  rw [allFrom_letters hletters, allFrom_cons_of_not_tag colon_ends_tag, allFrom_flag,
    allFrom_digits h.start.all, allFrom_cons_of_not_tag comma_ends_tag, allFrom_digits h.length.all]

theorem allFrom_of_search? {inRun : Bool} {t rest : Text} {c : Candidate}
    (h : search? t = some (c, rest)) (hrun : inRun = true → ways t = []) :
    allFrom inRun t = c :: allFrom false rest := by
  induction t generalizing inRun with
  | nil => simp [search?] at h
  | cons x t ih =>
    simp only [search?] at h
    split at h
    · next found more hways =>
      obtain rfl := Option.some.inj h
      obtain ⟨hheads, hkind⟩ := head?_ways.1 (by rw [hways]; rfl)
      have hinRun : inRun = false := by
        cases inRun with
        | true => simp [hrun rfl] at hways
        | false => rfl
      obtain ⟨more', hmore, -⟩ := hheads.exists_kind_eq_cons hkind
      have hx : isTag x = true := hheads.kind x (by simp [hmore])
      rw [hinRun, allFrom_cons, here?_false, hways, hx, allFrom_of_heads hheads hkind]
      rfl
    · next hways =>
      simp only [allFrom_cons, here?_of_ways_eq_nil hways, Option.toList_none, List.nil_append]
      exact ih h fun hx => ways_eq_nil_of_cons hx hways

/-- The scan finds the matches of the pattern. -/
theorem all_eq_searchAll (line : Text) : all line = searchAll line := by
  induction hlen : line.length using Nat.strongRecOn generalizing line with
  | _ n ih =>
    rw [searchAll]
    split
    · next hnone => exact allFrom_of_search?_none hnone
    · next c rest hsome =>
      have hlt := length_lt_of_search? hsome
      rw [all, allFrom_of_search? hsome (by simp)]
      exact congrArg (c :: ·) (ih rest.length (hlen ▸ hlt) rest rfl)

end CoverageOverlay.Candidate
