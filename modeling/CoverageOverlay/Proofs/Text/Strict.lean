-- SUMMARY: The strict reading of bytes as a text is the inverse of writing the text.
import Mathlib.Tactic.SplitIfs
import CoverageOverlay.Proofs.Text.Utf8

/-!
# Bytes that are a text

The strict reading gives a text for some bytes exactly if they are the bytes of
this text. So what it refuses is not written for any text. The sequences of two,
three and four bytes are treated alike: the first byte settles the length of the
sequence and the range of the second byte, and this range is what keeps every
character to one sequence.
-/

namespace CoverageOverlay.Utf8

open String (utf8EncodeChar)

variable {b b₁ b₂ b₃ : UInt8} {bytes rest rest' : List UInt8} {c : Char} {t : Text} {n v : Nat}

/-! ## First bytes -/

theorem lead?_two (hlow : 0xC2 ≤ n) (hhigh : n ≤ 0xDF) : lead? n = some ⟨n - 0xC0, 0x80, 0xBF, 0⟩ :=
  if_pos ⟨hlow, hhigh⟩

theorem lead?_three (hlow : 0xE0 ≤ n) (hhigh : n ≤ 0xEF) :
    lead? n =
      some ⟨n - 0xE0, if n = 0xE0 then 0xA0 else 0x80, if n = 0xED then 0x9F else 0xBF, 1⟩ := by
  rw [lead?, if_neg (by omega)]
  split_ifs <;> first | omega | rfl

theorem lead?_four (hlow : 0xF0 ≤ n) (hhigh : n ≤ 0xF4) :
    lead? n =
      some ⟨n - 0xF0, if n = 0xF0 then 0x90 else 0x80, if n = 0xF4 then 0x8F else 0xBF, 2⟩ := by
  rw [lead?, if_neg (by omega), if_neg (by omega), if_neg (by omega), if_neg (by omega)]
  split_ifs <;> first | omega | rfl

/-- No other byte begins a sequence. -/
theorem lead?_none (h : n < 0xC2 ∨ 0xDF < n ∧ n < 0xE0 ∨ 0xF4 < n) : lead? n = none := by
  unfold lead?
  split_ifs <;> first | omega | rfl

/-! ## Sequences -/

theorem afterLead_cons {l : Lead} (hb : l.low ≤ b.toNat ∧ b.toNat ≤ l.high) :
    afterLead l (b :: rest) = tail (l.bits * 64 + (b.toNat - 0x80)) l.more rest := by
  rw [afterLead, if_pos hb]

theorem tail_cons {bits more : Nat} (hb : 0x80 ≤ b.toNat ∧ b.toNat ≤ 0xBF) :
    tail bits (more + 1) (b :: rest) = tail (bits * 64 + (b.toNat - 0x80)) more rest := by
  rw [tail, if_pos hb]

theorem toNat_ofNat_add {m k : Nat} (h : m + k < 256) : (UInt8.ofNat (m + k)).toNat = m + k := by
  simpa using Nat.mod_eq_of_lt h

/-- What is written for a character is read as this character. -/
theorem next_of_utf8EncodeChar (h : utf8EncodeChar c ++ rest' = b :: rest) :
    next b rest = (some c, rest') := by
  have hvalid : c.toNat < 0xD800 ∨ 0xDFFF < c.toNat ∧ c.toNat < 0x110000 := c.valid
  have hc : Char.ofNat c.toNat = c := Char.ofNat_toNat c
  have hv : c.val.toNat = c.toNat := rfl
  simp only [utf8EncodeChar, hv] at h
  generalize c.toNat = v at hvalid hc h
  subst hc
  split_ifs at h with hone htwo hthree
  · simp only [List.cons_append, List.nil_append, List.cons.injEq] at h
    obtain ⟨rfl, rfl⟩ := h
    have hb : (UInt8.ofNat v).toNat = v := by simpa using Nat.mod_eq_of_lt (show v < 256 by omega)
    rw [next, hb, if_pos (by omega)]
  · simp only [List.cons_append, List.nil_append, List.cons.injEq] at h
    obtain ⟨rfl, rfl⟩ := h
    have hb : (UInt8.ofNat (v / 64 % 32 + 192)).toNat = v / 64 % 32 + 192 := toNat_ofNat_add (by omega)
    have hb₁ : (UInt8.ofNat (v % 64 + 128)).toNat = v % 64 + 128 := toNat_ofNat_add (by omega)
    have hv : (v / 64 % 32 + 192 - 0xC0) * 64 + (v % 64 + 128 - 0x80) = v := by omega
    simp only [next, hb]
    rw [if_neg (by omega), lead?_two (by omega) (by omega)]
    simp only
    rw [afterLead_cons (by simp only [hb₁]; omega), hb₁]
    simp only [tail, hv]
  · simp only [List.cons_append, List.nil_append, List.cons.injEq] at h
    obtain ⟨rfl, rfl⟩ := h
    have hb : (UInt8.ofNat (v / 4096 % 16 + 224)).toNat = v / 4096 % 16 + 224 := toNat_ofNat_add (by omega)
    have hb₁ : (UInt8.ofNat (v / 64 % 64 + 128)).toNat = v / 64 % 64 + 128 := toNat_ofNat_add (by omega)
    have hb₂ : (UInt8.ofNat (v % 64 + 128)).toNat = v % 64 + 128 := toNat_ofNat_add (by omega)
    have hv : ((v / 4096 % 16 + 224 - 0xE0) * 64 + (v / 64 % 64 + 128 - 0x80)) * 64 +
        (v % 64 + 128 - 0x80) = v := by omega
    simp only [next, hb]
    rw [if_neg (by omega), lead?_three (by omega) (by omega)]
    simp only
    rw [afterLead_cons (by simp only [hb₁]; split_ifs <;> omega), hb₁, tail_cons (by omega), hb₂]
    simp only [tail, hv]
  · simp only [List.cons_append, List.nil_append, List.cons.injEq] at h
    obtain ⟨rfl, rfl⟩ := h
    have hb : (UInt8.ofNat (v / 262144 % 8 + 240)).toNat = v / 262144 % 8 + 240 := toNat_ofNat_add (by omega)
    have hb₁ : (UInt8.ofNat (v / 4096 % 64 + 128)).toNat = v / 4096 % 64 + 128 := toNat_ofNat_add (by omega)
    have hb₂ : (UInt8.ofNat (v / 64 % 64 + 128)).toNat = v / 64 % 64 + 128 := toNat_ofNat_add (by omega)
    have hb₃ : (UInt8.ofNat (v % 64 + 128)).toNat = v % 64 + 128 := toNat_ofNat_add (by omega)
    have hv : (((v / 262144 % 8 + 240 - 0xF0) * 64 + (v / 4096 % 64 + 128 - 0x80)) * 64 +
        (v / 64 % 64 + 128 - 0x80)) * 64 + (v % 64 + 128 - 0x80) = v := by omega
    simp only [next, hb]
    rw [if_neg (by omega), lead?_four (by omega) (by omega)]
    simp only
    rw [afterLead_cons (by simp only [hb₁]; split_ifs <;> omega), hb₁, tail_cons (by omega), hb₂,
      tail_cons (by omega), hb₃]
    simp only [tail, hv]

theorem exists_of_afterLead {l : Lead} (h : afterLead l bytes = (some c, rest')) :
    ∃ b rest, bytes = b :: rest ∧ (l.low ≤ b.toNat ∧ b.toNat ≤ l.high) ∧
      tail (l.bits * 64 + (b.toNat - 0x80)) l.more rest = (some c, rest') := by
  cases bytes with
  | nil => cases h
  | cons b rest =>
    rw [afterLead] at h
    split at h
    · next hb => exact ⟨b, rest, rfl, hb, h⟩
    · cases h

theorem exists_of_tail {bits more : Nat} (h : tail bits (more + 1) bytes = (some c, rest')) :
    ∃ b rest, bytes = b :: rest ∧ (0x80 ≤ b.toNat ∧ b.toNat ≤ 0xBF) ∧
      tail (bits * 64 + (b.toNat - 0x80)) more rest = (some c, rest') := by
  cases bytes with
  | nil => cases h
  | cons b rest =>
    rw [tail] at h
    split at h
    · next hb => exact ⟨b, rest, rfl, hb, h⟩
    · cases h

/-- What is written for the character with a code point. -/
theorem utf8EncodeChar_ofNat (hv : v < 0xD800 ∨ 0xDFFF < v ∧ v < 0x110000) :
    utf8EncodeChar (Char.ofNat v) =
      if v ≤ 127 then [UInt8.ofNat v]
      else if v ≤ 2047 then [UInt8.ofNat (v / 64 % 32 + 192), UInt8.ofNat (v % 64 + 128)]
      else if v ≤ 65535 then
        [UInt8.ofNat (v / 4096 % 16 + 224), UInt8.ofNat (v / 64 % 64 + 128), UInt8.ofNat (v % 64 + 128)]
      else
        [UInt8.ofNat (v / 262144 % 8 + 240), UInt8.ofNat (v / 4096 % 64 + 128),
          UInt8.ofNat (v / 64 % 64 + 128), UInt8.ofNat (v % 64 + 128)] := by
  have htoNat : (Char.ofNat v).val.toNat = v := by
    rw [Char.ofNat, dif_pos hv]
    rfl
  simp only [utf8EncodeChar, htoNat]

theorem ofNat_eq_of_toNat {k : Nat} (h : k = b.toNat) : UInt8.ofNat k = b := by
  rw [h, UInt8.ofNat_toNat]

/-- What is read as a character is what is written for it. -/
theorem utf8EncodeChar_of_next (h : next b rest = (some c, rest')) :
    utf8EncodeChar c ++ rest' = b :: rest := by
  unfold next at h
  split at h
  · next hone =>
    obtain ⟨hc, rfl⟩ := Prod.mk.inj h
    obtain rfl := Option.some.inj hc
    rw [utf8EncodeChar_ofNat (by omega), if_pos (by omega), ofNat_eq_of_toNat rfl]
    rfl
  · next hone =>
    -- The rows of the table by the number of bytes; a byte of no row reads as no character.
    by_cases htwo : 0xC2 ≤ b.toNat ∧ b.toNat ≤ 0xDF
    · rw [lead?_two htwo.1 htwo.2] at h
      obtain ⟨b₁, rest, rfl, hb₁, h⟩ := exists_of_afterLead h
      simp only [tail, Prod.mk.injEq, Option.some.injEq] at h hb₁
      obtain ⟨rfl, rfl⟩ := h
      rw [utf8EncodeChar_ofNat (by omega), if_neg (by omega), if_pos (by omega),
        ofNat_eq_of_toNat (b := b) (by omega), ofNat_eq_of_toNat (b := b₁) (by omega)]
      rfl
    by_cases hthree : 0xE0 ≤ b.toNat ∧ b.toNat ≤ 0xEF
    · rw [lead?_three hthree.1 hthree.2] at h
      obtain ⟨b₁, rest, rfl, hb₁, h⟩ := exists_of_afterLead h
      obtain ⟨b₂, rest, rfl, hb₂, h⟩ := exists_of_tail h
      simp only [tail, Prod.mk.injEq, Option.some.injEq] at h hb₁
      obtain ⟨rfl, rfl⟩ := h
      have hrange : 0x80 ≤ b₁.toNat ∧ b₁.toNat ≤ 0xBF ∧ (b.toNat = 0xE0 → 0xA0 ≤ b₁.toNat) ∧
          (b.toNat = 0xED → b₁.toNat ≤ 0x9F) := by
        split_ifs at hb₁ <;> omega
      rw [utf8EncodeChar_ofNat (by omega), if_neg (by omega), if_neg (by omega), if_pos (by omega),
        ofNat_eq_of_toNat (b := b) (by omega), ofNat_eq_of_toNat (b := b₁) (by omega),
        ofNat_eq_of_toNat (b := b₂) (by omega)]
      rfl
    by_cases hfour : 0xF0 ≤ b.toNat ∧ b.toNat ≤ 0xF4
    · rw [lead?_four hfour.1 hfour.2] at h
      obtain ⟨b₁, rest, rfl, hb₁, h⟩ := exists_of_afterLead h
      obtain ⟨b₂, rest, rfl, hb₂, h⟩ := exists_of_tail h
      obtain ⟨b₃, rest, rfl, hb₃, h⟩ := exists_of_tail h
      simp only [tail, Prod.mk.injEq, Option.some.injEq] at h hb₁
      obtain ⟨rfl, rfl⟩ := h
      have hrange : 0x80 ≤ b₁.toNat ∧ b₁.toNat ≤ 0xBF ∧ (b.toNat = 0xF0 → 0x90 ≤ b₁.toNat) ∧
          (b.toNat = 0xF4 → b₁.toNat ≤ 0x8F) := by
        split_ifs at hb₁ <;> omega
      rw [utf8EncodeChar_ofNat (by omega), if_neg (by omega), if_neg (by omega), if_neg (by omega),
        ofNat_eq_of_toNat (b := b) (by omega), ofNat_eq_of_toNat (b := b₁) (by omega),
        ofNat_eq_of_toNat (b := b₂) (by omega), ofNat_eq_of_toNat (b := b₃) (by omega)]
      rfl
    · rw [lead?_none (by omega)] at h
      cases h

/-! ## Texts -/

theorem decode?_nil : decode? [] = some [] := by simp [decode?]

theorem decode?_cons (b : UInt8) (rest : List UInt8) :
    decode? (b :: rest) =
      (next b rest).1.bind fun c => (decode? (next b rest).2).map (c :: ·) := by
  rw [decode?, decode?, pieces_cons, List.mapM_cons]
  cases (next b rest).1 with
  | none => rfl
  | some c => cases List.mapM id (pieces (next b rest).2) <;> rfl

/-- Bytes are read as a text exactly if they are the bytes of the text. -/
theorem decode?_eq_some_iff : decode? bytes = some t ↔ encode t = bytes := by
  induction hlen : bytes.length using Nat.strongRecOn generalizing bytes t with
  | _ n ih =>
    cases bytes with
    | nil =>
      cases t with
      | nil => simp [decode?_nil, encode]
      | cons c t => simp [decode?_nil, encode, String.utf8EncodeChar_ne_nil]
    | cons b rest =>
      have hlt : (next b rest).2.length < n := hlen ▸ Nat.lt_succ_of_le (length_next_le b rest)
      rw [decode?_cons]
      simp only [Option.bind_eq_some_iff, Option.map_eq_some_iff, ih _ hlt rfl]
      constructor
      · rintro ⟨c, hc, t, ht, rfl⟩
        rw [encode, List.flatMap_cons]
        change _ ++ encode t = _
        rw [ht]
        exact utf8EncodeChar_of_next (Prod.ext hc rfl)
      · intro h
        cases t with
        | nil => cases h
        | cons c t =>
          rw [encode, List.flatMap_cons] at h
          have hnext := next_of_utf8EncodeChar h
          exact ⟨c, by rw [hnext], t, by rw [hnext]; rfl, rfl⟩

/-- What the strict reading refuses is not written for any text. -/
theorem decode?_eq_none_iff : decode? bytes = none ↔ ∀ t, encode t ≠ bytes := by
  rw [Option.eq_none_iff_forall_ne_some]
  simp only [ne_eq, decode?_eq_some_iff]

end CoverageOverlay.Utf8
