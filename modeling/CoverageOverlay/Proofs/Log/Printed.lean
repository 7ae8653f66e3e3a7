-- SUMMARY: The wording of the messages about a record file, as they are printed.
import CoverageOverlay.Log.Filter
import CoverageOverlay.Proofs.Text.Written
import CoverageOverlay.Record.Line

/-!
# Printed messages

What is printed of a message is cleared of everything that a terminal could take
for more than characters, and has its further lines indented. The messages about
a record file need none of this: they quote lines, and whatever stands between
quotes can be seen; besides that they hold tags and numbers only. So they are
printed word for word, each on one line.
-/

namespace CoverageOverlay

/-! ## Plain texts -/

namespace Text

/-- A text is printed as it is, on one line. -/
def Plain (t : Text) : Prop :=
  ∀ c ∈ t, Phase.isPrintable c = true ∧ c ≠ '\n'

variable {t u : Text} {c : Char}

instance (t : Text) : Decidable t.Plain := List.decidableBAll _ t

theorem plain_append_iff : Plain (t ++ u) ↔ t.Plain ∧ u.Plain := List.forall_mem_append

/-- What is printed of ASCII is plain. -/
theorem plain_of_ascii (h : ∀ c ∈ t, 0x20 ≤ c.toNat ∧ c.toNat < 0x7F) : t.Plain := by
  intro c hc
  obtain ⟨hlow, hhigh⟩ := h c hc
  refine ⟨by simp [Phase.isPrintable, hlow, Nat.ne_of_lt hhigh], ?_⟩
  rintro rfl
  exact absurd hlow (by decide)

theorem plain_ofNat (n : Nat) : Plain (Numeral.ofNat n) := by
  refine plain_of_ascii fun c hc => ?_
  have hdigit := Numeral.isDigit_of_mem_ofNat hc
  have hbounds : 48 ≤ c.toNat ∧ c.toNat ≤ 57 := by
    simpa [Numeral.isDigit, Char.le_def, UInt32.le_iff_toNat_le] using hdigit
  omega

theorem ascii_of_mem_hexadecimal {n : Nat} (h : c ∈ Nat.toDigits 16 n) :
    0x20 ≤ c.toNat ∧ c.toNat < 0x7F := by
  have hdigit : ∀ d < 16, 0x20 ≤ (Nat.digitChar d).toNat ∧ (Nat.digitChar d).toNat < 0x7F := by decide
  induction n using Nat.strongRecOn with
  | _ n ih =>
    by_cases hn : n < 16
    · rw [Nat.toDigits_of_lt_base hn] at h
      obtain rfl := List.mem_singleton.1 h
      exact hdigit n hn
    · rw [Nat.toDigits_of_base_le (by decide) (Nat.not_lt.1 hn)] at h
      rcases List.mem_append.1 h with hfront | hlast
      · exact ih (n / 16) (by omega) hfront
      · obtain rfl := List.mem_singleton.1 hlast
        exact hdigit (n % 16) (Nat.mod_lt n (by decide))

theorem isHidden_of_control (h : c.toNat < 0x20 ∨ c.toNat = 0x7F) : isHidden c = true := by
  rw [isHidden, if_neg (by omega), hiddenBlock, if_pos (by omega), hiddenBelow1000]
  rcases h with hlow | hdelete
  · exact List.any_eq_true.2 ⟨(0x0, 0x1F), List.mem_cons_self, by simpa using Nat.le_of_lt_succ hlow⟩
  · exact List.any_eq_true.2 ⟨(0x7F, 0xA0), List.mem_cons_of_mem _ List.mem_cons_self, by simp [hdelete]⟩

/-- Whatever stands between quotes can be seen. -/
theorem plain_quotedChar (c : Char) : Plain (quotedChar c) := by
  unfold quotedChar
  split_ifs with hquote hbackslash htab hfeed hreturn hnull hhidden
  iterate 6 decide
  · rw [plain_append_iff, plain_append_iff]
    exact ⟨⟨by decide, plain_of_ascii fun _ => ascii_of_mem_hexadecimal⟩, by decide⟩
  · intro d hd
    obtain rfl := List.mem_singleton.1 hd
    have hvisible : ¬(d.toNat < 0x20 ∨ d.toNat = 0x7F) := fun h => hhidden (isHidden_of_control h)
    refine ⟨?_, hfeed⟩
    simp [Phase.isPrintable]
    omega

theorem plain_quoted (t : Text) : Plain (quoted t).toList := by
  have hmiddle : Plain (t.flatMap quotedChar) := fun c hc => by
    obtain ⟨d, -, hd⟩ := List.mem_flatMap.1 hc
    exact plain_quotedChar d c hd
  rw [quoted, String.toList_ofList, ← List.singleton_append, plain_append_iff, plain_append_iff]
  exact ⟨⟨by decide, hmiddle⟩, by decide⟩

end Text

/-! ## Messages about a record file -/

namespace Log.Event

open Text (Plain)

/-- A message without anything hidden is printed as it is, behind its level and its source. -/
theorem shown_of_plain {e : Event} (hlevel : e.level = .debug) (h : Plain e.message.toList) :
    e.shown = "[DEBUG ".toList ++ e.source.target.toList ++ "] ".toList ++ e.message.toList ++
      "\n".toList := by
  have hlines : (e.message.toList.flatMap fun c =>
      if c = '\n' then '\n' :: List.replicate 4 ' ' else [c]) = e.message.toList := by
    refine (List.flatMap_congr fun c hc => if_neg (h c hc).2).trans ?_
    exact List.flatMap_singleton' _
  have hhead : ['['] ++ Level.debug.name.toList ++
      List.replicate (6 - Level.debug.name.toList.length) ' ' = "[DEBUG ".toList := by decide
  have htarget : Plain e.source.target.toList := by cases e.source <;> decide
  have hline : Plain ("[DEBUG ".toList ++ e.source.target.toList ++ "] ".toList ++
      e.message.toList) := by
    simp only [Text.plain_append_iff]
    exact ⟨⟨⟨by decide, htarget⟩, by decide⟩, h⟩
  simp only [shown, hlines, hlevel, hhead]
  refine Text.withoutControls_of_printable fun c hc => ?_
  rcases List.mem_append.1 hc with hfront | hlast
  · exact (hline c hfront).1
  · obtain rfl := List.mem_singleton.1 hlast
    decide

/-- A message that ends in a quoted line is printed as it is. -/
theorem shown_of_quoted {e : Event} {words : String} (line : Text) (hlevel : e.level = .debug)
    (hwords : Plain words.toList)
    (hmessage : e.message.toList = words.toList ++ (Text.quoted line).toList) :
    e.shown = "[DEBUG ".toList ++ e.source.target.toList ++ "] ".toList ++
      (words.toList ++ (Text.quoted line).toList) ++ "\n".toList := by
  rw [← hmessage]
  refine shown_of_plain hlevel ?_
  rw [hmessage, Text.plain_append_iff]
  exact ⟨hwords, Text.plain_quoted line⟩

/-- What is printed for an event from the resolution of a record file. Other events have nothing to do with
it. -/
def printed : Event → Text
  | offsetsTooWide line =>
    "[DEBUG covlay::parser] skipping record with out-of-range offsets: ".toList
      ++ (Text.quoted line).toList ++ "\n".toList
  | noRecord line =>
    "[DEBUG covlay::parser] skipping line without a coverage record: ".toList
      ++ (Text.quoted line).toList ++ "\n".toList
  | dropped r why n =>
    let reason :=
      match why with
      | .overflow => "Overflow"
      | .pastEnd => "PastEnd"
      | .zeroLength => "ZeroLength"
    "[DEBUG covlay::resolver] dropping ".toList ++ r.kind ++ ":".toList
      ++ Numeral.ofNat r.start.toNat ++ ",".toList ++ Numeral.ofNat r.length.toNat
      ++ " (".toList ++ reason.toList ++ ", document length ".toList ++ Numeral.ofNat n.toNat
      ++ ")\n".toList
  | resolved kept lost =>
    "[DEBUG covlay::resolver] resolved ".toList ++ Numeral.ofNat kept
      ++ " annotations, dropped ".toList ++ Numeral.ofNat lost ++ "\n".toList
  | _ => []

/-- An event comes from the resolution of a record file. -/
inductive OfResolution : Event → Prop
  | offsetsTooWide (line : Text) : OfResolution (.offsetsTooWide line)
  | noRecord (line : Text) : OfResolution (.noRecord line)
  | dropped {r : Record} (hkind : ∀ c ∈ r.kind, Candidate.isTag c = true) (why : Rejection)
    (n : UInt64) : OfResolution (.dropped r why n)
  | resolved (kept lost : Nat) : OfResolution (.resolved kept lost)

theorem OfResolution.level {e : Event} (h : OfResolution e) : e.level = .debug := by
  cases h <;> rfl

theorem plain_of_isTag {t : Text} (h : ∀ c ∈ t, Candidate.isTag c = true) : Plain t := by
  refine Text.plain_of_ascii fun c hc => ?_
  have hbounds : 65 ≤ c.toNat ∧ c.toNat ≤ 90 := by
    simpa [Candidate.isTag, Char.le_def, UInt32.le_iff_toNat_le] using h c hc
  omega

theorem toList_repr (n : Nat) : n.repr.toList = Numeral.ofNat n :=
  Nat.toList_repr

/-- The events from the resolution of a record file are printed word for word. -/
theorem shown_eq_printed {e : Event} (h : OfResolution e) : e.shown = e.printed := by
  have hlevel := h.level
  cases h with
  | offsetsTooWide line =>
    have hwords : Plain "skipping record with out-of-range offsets: ".toList := by decide
    rw [shown_of_quoted line hlevel hwords String.toList_append]
    change _ = _ ++ _ ++ _
    simp [source, Source.target]
  | noRecord line =>
    have hwords : Plain "skipping line without a coverage record: ".toList := by decide
    rw [shown_of_quoted line hlevel hwords String.toList_append]
    change _ = _ ++ _ ++ _
    simp [source, Source.target]
  | @dropped r hkind why n =>
    have hmessage : (dropped r why n).message.toList =
        "dropping ".toList ++ r.kind ++ ":".toList ++ Numeral.ofNat r.start.toNat ++ ",".toList
          ++ Numeral.ofNat r.length.toNat ++ " (".toList ++ why.name.toList
          ++ ", document length ".toList ++ Numeral.ofNat n.toNat ++ ")".toList := by
      change String.toList (_ ++ _ ++ _ ++ _ ++ _ ++ _ ++ _ ++ _ ++ _ ++ _ ++ _) = _
      simp only [String.toList_append, String.toList_ofList, toString, toList_repr]
    have hplain : Plain (dropped r why n).message.toList := by
      simp only [hmessage, Text.plain_append_iff, Text.plain_ofNat, plain_of_isTag hkind]
      cases why <;> decide
    rw [shown_of_plain hlevel hplain, hmessage]
    change _ = _ ++ _ ++ _ ++ _ ++ _ ++ _ ++ _ ++ _ ++ _ ++ _ ++ _
    cases why <;> simp [source, Source.target, Rejection.name]
  | resolved kept lost =>
    have hmessage : (resolved kept lost).message.toList =
        "resolved ".toList ++ Numeral.ofNat kept ++ " annotations, dropped ".toList
          ++ Numeral.ofNat lost := by
      change String.toList (_ ++ _ ++ _ ++ _) = _
      simp only [String.toList_append, toString, toList_repr]
    have hplain : Plain (resolved kept lost).message.toList := by
      simp only [hmessage, Text.plain_append_iff, Text.plain_ofNat]
      decide
    rw [shown_of_plain hlevel hplain, hmessage]
    change _ = _ ++ _ ++ _ ++ _ ++ _
    simp [source, Source.target]

end Log.Event

end CoverageOverlay
