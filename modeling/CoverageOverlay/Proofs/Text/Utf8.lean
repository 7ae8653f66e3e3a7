-- SUMMARY: What decoding makes of bytes of ASCII and of all other bytes.
import Mathlib.Algebra.Group.Nat.Defs
import CoverageOverlay.Text.Utf8

/-!
# Decoded bytes

A byte of ASCII is decoded to its character, wherever it stands: no sequence
that was begun before it takes it in, complete or not. All other bytes are
decoded in groups, and each group, well-formed or not, gives one character
outside ASCII. What a well-formed sequence gives is read off its first two
bytes, which alone keep it out of ASCII, of the surrogates and of what lies
above the last code point.
-/

namespace CoverageOverlay.Utf8

/-- A reader takes bytes outside ASCII from the head of `bytes` and leaves the rest. If it gives a
character, this has a code point from `low` up to, and without, `high`. -/
structure Reads (bytes : List UInt8) (out : Option Char × List UInt8) (low high : Nat) : Prop where
  split : ∃ used, bytes = used ++ out.2 ∧ ∀ b ∈ used, 0x80 ≤ b.toNat
  char : ∀ c ∈ out.1, ∃ v, c = Char.ofNat v ∧ low ≤ v ∧ v < high

theorem reads_nothing (bytes : List UInt8) (low high : Nat) : Reads bytes (none, bytes) low high :=
  ⟨⟨[], rfl, by simp⟩, by simp⟩

theorem Reads.cons {b : UInt8} {rest : List UInt8} {out : Option Char × List UInt8} {low high : Nat}
    (h : Reads rest out low high) (hb : 0x80 ≤ b.toNat) : Reads (b :: rest) out low high := by
  obtain ⟨used, hrest, hused⟩ := h.split
  exact ⟨⟨b :: used, by rw [hrest, List.cons_append], List.forall_mem_cons.2 ⟨hb, hused⟩⟩, h.char⟩

theorem Reads.mono {bytes : List UInt8} {out : Option Char × List UInt8} {low high low' high' : Nat}
    (h : Reads bytes out low high) (hlow : low' ≤ low) (hhigh : high ≤ high') :
    Reads bytes out low' high' := by
  refine ⟨h.split, fun c hc => ?_⟩
  obtain ⟨v, hv, hle, hlt⟩ := h.char c hc
  exact ⟨v, hv, Nat.le_trans hlow hle, Nat.lt_of_lt_of_le hlt hhigh⟩

/-- Each further byte adds six bits. -/
theorem reads_tail (bits more : Nat) (bytes : List UInt8) :
    Reads bytes (tail bits more bytes) (bits * 64 ^ more) ((bits + 1) * 64 ^ more) := by
  induction more generalizing bits bytes with
  | zero => exact ⟨⟨[], rfl, by simp⟩, fun c hc => ⟨bits, by simpa [tail, eq_comm] using hc, by simp⟩⟩
  | succ more ih =>
    cases bytes with
    | nil => exact reads_nothing _ _ _
    | cons b rest =>
      simp only [tail]
      split
      · next hb =>
        refine ((ih (bits * 64 + (b.toNat - 0x80)) rest).cons hb.1).mono ?_ ?_
        · calc
            bits * 64 ^ (more + 1) = bits * 64 * 64 ^ more := by rw [Nat.pow_succ', Nat.mul_assoc]
            _ ≤ (bits * 64 + (b.toNat - 0x80)) * 64 ^ more :=
              Nat.mul_le_mul_right _ (Nat.le_add_right _ _)
        · calc
            (bits * 64 + (b.toNat - 0x80) + 1) * 64 ^ more ≤ (bits + 1) * 64 * 64 ^ more :=
              Nat.mul_le_mul_right _ (by omega)
            _ = (bits + 1) * 64 ^ (more + 1) := by rw [Nat.pow_succ', Nat.mul_assoc]
      · exact reads_nothing _ _ _

theorem reads_afterLead (l : Lead) (hlow : 0x80 ≤ l.low) (bytes : List UInt8) :
    Reads bytes (afterLead l bytes) ((l.bits * 64 + (l.low - 0x80)) * 64 ^ l.more)
      ((l.bits * 64 + (l.high - 0x80) + 1) * 64 ^ l.more) := by
  cases bytes with
  | nil => exact reads_nothing _ _ _
  | cons b rest =>
    simp only [afterLead]
    split
    · next hb =>
      refine ((reads_tail (l.bits * 64 + (b.toNat - 0x80)) l.more rest).cons (by omega)).mono ?_ ?_
      · exact Nat.mul_le_mul_right _ (by omega)
      · exact Nat.mul_le_mul_right _ (by omega)
    · exact reads_nothing _ _ _

/-- The code points of a sequence are outside ASCII, and they are code points of characters. -/
theorem lead?_bounds {b : Nat} {l : Lead} (h : lead? b = some l) :
    0x80 ≤ l.low ∧ 0x80 ≤ (l.bits * 64 + (l.low - 0x80)) * 64 ^ l.more ∧
      ((l.bits * 64 + (l.high - 0x80) + 1) * 64 ^ l.more ≤ 0xD800 ∨
        0xE000 ≤ (l.bits * 64 + (l.low - 0x80)) * 64 ^ l.more ∧
          (l.bits * 64 + (l.high - 0x80) + 1) * 64 ^ l.more ≤ 0x110000) := by
  unfold lead? at h
  -- One row of the table after the other, and at last no row.
  iterate 7
    split at h
    · obtain rfl := Option.some.inj h
      dsimp only
      omega
  simp at h

theorem toNat_ofNat_of_bounds {low high v : Nat}
    (hbounds : high ≤ 0xD800 ∨ 0xE000 ≤ low ∧ high ≤ 0x110000) (hlow : low ≤ v) (hhigh : v < high) :
    (Char.ofNat v).toNat = v := by
  have hvalid : v.isValidChar := by
    rcases hbounds with hbelow | ⟨habove, hlast⟩
    · exact .inl (by omega)
    · exact .inr ⟨by omega, by omega⟩
  rw [Char.ofNat, dif_pos hvalid]
  rfl

/-- From a byte outside ASCII on, only such bytes are taken, and they give no character of ASCII. -/
theorem next_of_not_ascii {b : UInt8} (hb : 0x80 ≤ b.toNat) (rest : List UInt8) :
    (∃ used, rest = used ++ (next b rest).2 ∧ ∀ x ∈ used, 0x80 ≤ x.toNat) ∧
      ∀ c ∈ (next b rest).1, 0x80 ≤ c.toNat := by
  rw [next, if_neg (by omega)]
  split
  · next l hlead =>
    obtain ⟨hsecond, hascii, hbounds⟩ := lead?_bounds hlead
    have hreads := reads_afterLead l hsecond rest
    refine ⟨hreads.split, fun c hc => ?_⟩
    obtain ⟨v, rfl, hlow, hhigh⟩ := hreads.char c hc
    rw [toNat_ofNat_of_bounds hbounds hlow hhigh]
    exact Nat.le_trans hascii hlow
  · exact ⟨⟨[], rfl, by simp⟩, by simp⟩

/-- A text that some bytes are decoded to: a byte of ASCII gives its character, and a group of other
bytes gives one character outside ASCII. -/
inductive Decodes : List UInt8 → Text → Prop
  | nil : Decodes [] []
  | ascii {b : UInt8} {rest : List UInt8} {t : Text} (hb : b.toNat < 0x80) (h : Decodes rest t) :
    Decodes (b :: rest) (Char.ofNat b.toNat :: t)
  | group {group rest : List UInt8} {c : Char} {t : Text} (hne : group ≠ [])
    (hgroup : ∀ b ∈ group, 0x80 ≤ b.toNat) (hc : 0x80 ≤ c.toNat) (h : Decodes rest t) :
    Decodes (group ++ rest) (c :: t)

theorem decodes_decodeLossy (bytes : List UInt8) : Decodes bytes (decodeLossy bytes) := by
  induction hlen : bytes.length using Nat.strongRecOn generalizing bytes with
  | _ n ih =>
    cases bytes with
    | nil => simpa using Decodes.nil
    | cons b rest =>
      have hlt : (next b rest).2.length < n := hlen ▸ Nat.lt_succ_of_le (length_next_le b rest)
      have hleft := ih _ hlt (next b rest).2 rfl
      rw [decodeLossy, pieces_cons, List.map_cons]
      by_cases hb : b.toNat < 0x80
      · rw [next, if_pos hb] at hleft ⊢
        exact .ascii hb hleft
      · obtain ⟨⟨used, hrest, hused⟩, hchar⟩ := next_of_not_ascii (Nat.not_lt.1 hb) rest
        have hgroup : ∀ x ∈ b :: used, 0x80 ≤ x.toNat :=
          List.forall_mem_cons.2 ⟨Nat.not_lt.1 hb, hused⟩
        have hc : 0x80 ≤ ((next b rest).1.getD replacement).toNat := by
          cases hnext : (next b rest).1 with
          | none => decide
          | some c => exact hchar c hnext
        have hbytes : b :: rest = (b :: used) ++ (next b rest).2 := congrArg (b :: ·) hrest
        rw [hbytes]
        exact .group (List.cons_ne_nil b used) hgroup hc hleft

/-- The characters of ASCII in a decoded text are the bytes of ASCII, in order. -/
theorem filter_ascii_decodeLossy (bytes : List UInt8) :
    (decodeLossy bytes).filter (·.toNat < 0x80) =
      (bytes.filter (·.toNat < 0x80)).map fun b => Char.ofNat b.toNat := by
  have hdecodes := decodes_decodeLossy bytes
  generalize decodeLossy bytes = t at hdecodes ⊢
  induction hdecodes with
  | nil => rfl
  | @ascii b rest t hb _ ih =>
    have hchar : (Char.ofNat b.toNat).toNat = b.toNat :=
      toNat_ofNat_of_bounds (.inl (Nat.le_refl _)) (Nat.zero_le _) (by omega)
    simp [hb, hchar, ih]
  | @group group rest c t _ hgroup hc _ ih =>
    have hnone : group.filter (·.toNat < 0x80) = [] := by
      rw [List.filter_eq_nil_iff]
      intro b hb
      simpa using hgroup b hb
    simp [hc, hnone, ih]

end CoverageOverlay.Utf8
