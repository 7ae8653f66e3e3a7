-- SUMMARY: Bytes of a record file that are no ASCII have no influence on its records.
import CoverageOverlay.Proofs.Record.Sequence
import CoverageOverlay.Proofs.Text.Utf8

/-!
# Record files of any bytes

The records of a file are found in the text that its bytes are decoded to. The
bytes outside ASCII come out as characters that no candidate holds, one or more
of them for a group of such bytes, and never none. So the text has the same
lines with the same candidates as the one that has a question mark for each of
these bytes.
-/

namespace CoverageOverlay

open Text (IsRun)

/-! ## Texts that differ in foreign characters -/

namespace Text

/-- Whether a character stands within a line but within no candidate. -/
def isNoise (x : Char) : Bool :=
  Candidate.isForeign x && x ≠ '\n'

/-- Two texts are the same except that a run of noise in one of them can stand for another such run, of
any length, in the other. -/
inductive Alike : Text → Text → Prop
  | nil : Alike [] []
  | cons (x : Char) {s t : Text} (h : Alike s t) : Alike (x :: s) (x :: t)
  | noise {run run' s t : Text} (hrun : IsRun isNoise run) (hrun' : IsRun isNoise run')
    (h : Alike s t) : Alike (run ++ s) (run' ++ t)

namespace Alike

variable {s t line rest : Text}

theorem isForeign_of_mem {run : Text} (hrun : IsRun isNoise run) :
    ∀ x ∈ run, Candidate.isForeign x = true := by
  intro x hx
  exact (Bool.and_eq_true_iff.1 (hrun.all x hx)).1

theorem feed_not_mem {run : Text} (hrun : IsRun isNoise run) : '\n' ∉ run := by
  intro hmem
  have hnoise := hrun.all '\n' hmem
  simp [isNoise] at hnoise

/-- Whatever stands before them, two such texts have the same candidates. -/
theorem allFrom_append_eq (h : Alike s t) (inRun : Bool) (before : Text) :
    Candidate.allFrom inRun (before ++ s) = Candidate.allFrom inRun (before ++ t) := by
  induction h generalizing inRun before with
  | nil => rfl
  | @cons x s t _ ih =>
    have hlonger := ih inRun (before ++ [x])
    simpa using hlonger
  | @noise run run' s t hrun hrun' _ ih =>
    have hrest := ih false []
    simp only [List.nil_append] at hrest
    rw [Candidate.allFrom_append_foreign_run hrun.ne_nil (isForeign_of_mem hrun),
      Candidate.allFrom_append_foreign_run hrun'.ne_nil (isForeign_of_mem hrun'), hrest]

theorem all_eq (h : Alike s t) : Candidate.all s = Candidate.all t :=
  h.allFrom_append_eq false []

theorem eq_nil_iff (h : Alike s t) : s = [] ↔ t = [] := by
  cases h with
  | nil => simp
  | cons => simp
  | noise hrun hrun' => simp [hrun.ne_nil, hrun'.ne_nil]

theorem symm (h : Alike s t) : Alike t s := by
  induction h with
  | nil => exact .nil
  | cons x _ ih => exact .cons x ih
  | noise hrun hrun' _ ih => exact .noise hrun' hrun ih

/-- Where one text has a line feed, the other one has one too, and the parts before and behind it are
alike. -/
theorem exists_split (h : Alike (line ++ '\n' :: rest) t) :
    ∃ line' rest', t = line' ++ '\n' :: rest' ∧ Alike line line' ∧ Alike rest rest' := by
  generalize hs : line ++ '\n' :: rest = s at h
  induction h generalizing line with
  | nil => simp at hs
  | @cons x s t h ih =>
    cases line with
    | nil =>
      obtain ⟨rfl, rfl⟩ := List.cons.inj hs
      exact ⟨[], t, rfl, .nil, h⟩
    | cons y line =>
      obtain ⟨rfl, htail⟩ := List.cons.inj hs
      obtain ⟨line', rest', rfl, hline, hrest⟩ := ih htail
      exact ⟨y :: line', rest', rfl, .cons y hline, hrest⟩
  | @noise run run' s t hrun hrun' h ih =>
    rcases List.append_eq_append_iff.1 hs with ⟨inner, hinside, hinner⟩ | ⟨inner, rfl, hinner⟩
    · cases inner with
      | nil =>
        have hs' : [] ++ '\n' :: rest = s := hinner
        obtain ⟨line', rest', rfl, hline, hrest⟩ := ih hs'
        rw [List.append_nil] at hinside
        exact ⟨run' ++ line', rest', by simp, by simpa [hinside] using Alike.noise hrun hrun' hline,
          hrest⟩
      | cons x inner =>
        -- The line feed would stand within the run.
        obtain ⟨rfl, -⟩ := List.cons.inj hinner
        exact absurd (by simp [hinside]) (feed_not_mem hrun)
    · obtain ⟨line', rest', rfl, hline, hrest⟩ := ih hinner.symm
      exact ⟨run' ++ line', rest', by simp, .noise hrun hrun' hline, hrest⟩

theorem feed_mem_iff (h : Alike s t) : '\n' ∈ s ↔ '\n' ∈ t := by
  have hmem {s t : Text} (h : Alike s t) (hs : '\n' ∈ s) : '\n' ∈ t := by
    obtain ⟨line, rest, rfl⟩ := List.append_of_mem hs
    obtain ⟨line', rest', rfl, -⟩ := h.exists_split
    simp
  exact ⟨hmem h, hmem h.symm⟩

/-- Line by line, two such texts have the same candidates. -/
theorem lines_eq (h : Alike s t) :
    (lines s).map Candidate.all = (lines t).map Candidate.all := by
  induction s using inductionOnLines generalizing t with
  | last s hs =>
    have ht : '\n' ∉ t := mt h.feed_mem_iff.2 hs
    rw [lines_of_no_feed hs, lines_of_no_feed ht]
    by_cases hnil : s = []
    · simp [hnil, h.eq_nil_iff.1 hnil]
    · simp [hnil, mt h.eq_nil_iff.2 hnil, h.all_eq]
  | line line rest hline ih =>
    obtain ⟨line', rest', rfl, hline', hrest'⟩ := h.exists_split
    rw [lines_append_feed hline, lines_append_feed (mt hline'.feed_mem_iff.2 hline)]
    simp only [List.map_cons, Candidate.all_dropReturn, hline'.all_eq, ih hrest']

end Alike

end Text

/-! ## Masked bytes -/

namespace Utf8

/-- The text with the characters of ASCII that some bytes are, and a question mark for each other one. -/
def masked (bytes : List UInt8) : Text :=
  bytes.map fun b => if b.toNat < 0x80 then Char.ofNat b.toNat else '?'

theorem isNoise_of_not_ascii {c : Char} (hc : 0x80 ≤ c.toNat) : Text.isNoise c = true := by
  have hne {d : Char} (hd : d.toNat < 0x80) : c ≠ d := by
    rintro rfl
    omega
  have hle {d : Char} (hd : d.toNat < 0x80) : ¬c ≤ d := by
    intro hcd
    have hnat : c.toNat ≤ d.toNat := hcd
    omega
  simp [Text.isNoise, Candidate.isForeign, Candidate.isTag, Numeral.isDigit,
    hne (d := '\n') (by decide), hne (d := ':') (by decide), hne (d := ',') (by decide),
    hle (d := 'Z') (by decide), hle (d := '9') (by decide)]

theorem alike_masked (bytes : List UInt8) : Text.Alike (decodeLossy bytes) (masked bytes) := by
  have hdecodes := decodes_decodeLossy bytes
  generalize decodeLossy bytes = t at hdecodes ⊢
  induction hdecodes with
  | nil => exact .nil
  | @ascii b rest t hb _ ih =>
    have hmasked : masked (b :: rest) = Char.ofNat b.toNat :: masked rest := by
      simp [masked, hb]
    rw [hmasked]
    exact .cons _ ih
  | @group group rest c t hne hgroup hc _ ih =>
    have hmarks : masked group = List.replicate group.length '?' := by
      rw [masked, List.map_eq_replicate_iff]
      intro b hb
      exact if_neg (Nat.not_lt.2 (hgroup b hb))
    have hmasked : masked (group ++ rest) = List.replicate group.length '?' ++ masked rest := by
      rw [← hmarks, masked, masked, masked, List.map_append]
    rw [hmasked]
    have hchar : IsRun Text.isNoise [c] :=
      ⟨List.cons_ne_nil c [], by simpa using isNoise_of_not_ascii hc⟩
    have hmark : IsRun Text.isNoise (List.replicate group.length '?') := by
      refine ⟨by simpa using hne, fun x hx => ?_⟩
      rw [List.eq_of_mem_replicate hx]
      decide
    exact .noise hchar hmark ih

end Utf8

/-- Line by line, the text that some bytes are decoded to has the candidates of the text that has a
question mark for each byte outside ASCII, and so it has the same records. The characters of ASCII in it
are the bytes of ASCII, none of them lost. -/
theorem Record.parse_decodeLossy (bytes : List UInt8) :
    (parse (Utf8.decodeLossy bytes)).value = (parse (Utf8.masked bytes)).value ∧
      (Text.lines (Utf8.decodeLossy bytes)).map Candidate.all =
        (Text.lines (Utf8.masked bytes)).map Candidate.all ∧
      (Utf8.decodeLossy bytes).filter (·.toNat < 0x80) =
        (bytes.filter (·.toNat < 0x80)).map fun b => Char.ofNat b.toNat := by
  have hlines := (Utf8.alike_masked bytes).lines_eq
  refine ⟨?_, hlines, Utf8.filter_ascii_decodeLossy bytes⟩
  -- The record of a line is a function of its candidates.
  have hrecords (t : Text) : (parse t).value =
      ((Text.lines t).map Candidate.all).filterMap (·.findSome? Candidate.record?) := by
    rw [parse_value, List.filterMap_map]
    simp only [parseLine_value, Function.comp_def]
  rw [hrecords, hrecords, hlines]

end CoverageOverlay
