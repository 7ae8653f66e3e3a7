-- SUMMARY: UTF-8 with replacement of ill-formed bytes, and without.
import CoverageOverlay.Text.Basic

/-!
# UTF-8

Bytes are read as UTF-8 in two ways. The strict reading refuses ill-formed
input. The lossy reading puts the replacement character in the place of every
maximal ill-formed part: the longest beginning of a well-formed sequence that
stands there, or a single byte where no sequence can begin.

Which bytes may follow a first byte depends on that byte alone, and only the
second byte has a range of its own: it keeps out overlong forms, surrogates and
code points above U+10FFFF.
-/

namespace CoverageOverlay.Utf8

/-- The character that stands for ill-formed bytes. -/
def replacement : Char := '\uFFFD'

/-- The bytes of a text. -/
def encode (t : Text) : List UInt8 :=
  t.flatMap String.utf8EncodeChar

/-! ## Sequences of more than one byte -/

/-- What a first byte asks for. -/
structure Lead where
  /-- The part of the code point that the first byte holds. -/
  bits : Nat
  /-- The least second byte. -/
  low : Nat
  /-- The greatest second byte. -/
  high : Nat
  /-- The number of bytes after the second. -/
  more : Nat
deriving DecidableEq, Repr

/-- What the byte `b` asks for, if a sequence of more than one byte can begin with it. -/
def lead? (b : Nat) : Option Lead :=
  if 0xC2 ≤ b ∧ b ≤ 0xDF then some ⟨b - 0xC0, 0x80, 0xBF, 0⟩
  else if b = 0xE0 then some ⟨b - 0xE0, 0xA0, 0xBF, 1⟩
  else if b = 0xED then some ⟨b - 0xE0, 0x80, 0x9F, 1⟩
  else if 0xE1 ≤ b ∧ b ≤ 0xEF then some ⟨b - 0xE0, 0x80, 0xBF, 1⟩
  else if b = 0xF0 then some ⟨b - 0xF0, 0x90, 0xBF, 2⟩
  else if 0xF1 ≤ b ∧ b ≤ 0xF3 then some ⟨b - 0xF0, 0x80, 0xBF, 2⟩
  else if b = 0xF4 then some ⟨b - 0xF0, 0x80, 0x8F, 2⟩
  else none

/-- Read `more` further bytes of a sequence: the character, or none if the next byte does not belong
to the sequence, and the bytes that are left. -/
def tail : (bits more : Nat) → List UInt8 → Option Char × List UInt8
  | bits, 0, bytes => (some (Char.ofNat bits), bytes)
  | _, _ + 1, [] => (none, [])
  | bits, more + 1, b :: rest =>
    if 0x80 ≤ b.toNat ∧ b.toNat ≤ 0xBF then tail (bits * 64 + (b.toNat - 0x80)) more rest
    else (none, b :: rest)

/-- Read the rest of a sequence after its first byte. -/
def afterLead (l : Lead) : List UInt8 → Option Char × List UInt8
  | [] => (none, [])
  | b :: rest =>
    if l.low ≤ b.toNat ∧ b.toNat ≤ l.high then tail (l.bits * 64 + (b.toNat - 0x80)) l.more rest
    else (none, b :: rest)

/-- Read one character from bytes whose first one is `b`, or none for an ill-formed part, and the
bytes that are left. -/
def next (b : UInt8) (rest : List UInt8) : Option Char × List UInt8 :=
  if b.toNat < 0x80 then (some (Char.ofNat b.toNat), rest)
  else
    match lead? b.toNat with
    | some l => afterLead l rest
    | none => (none, rest)

theorem length_tail_le (bits more : Nat) (bytes : List UInt8) :
    (tail bits more bytes).2.length ≤ bytes.length := by
  induction more generalizing bits bytes with
  | zero => simp [tail]
  | succ more ih =>
    cases bytes with
    | nil => simp [tail]
    | cons b rest =>
      simp only [tail]
      split
      · exact Nat.le_trans (ih ..) (Nat.le_succ _)
      · exact Nat.le_refl _

theorem length_afterLead_le (l : Lead) (bytes : List UInt8) :
    (afterLead l bytes).2.length ≤ bytes.length := by
  cases bytes with
  | nil => simp [afterLead]
  | cons b rest =>
    simp only [afterLead]
    split
    · exact Nat.le_trans (length_tail_le ..) (Nat.le_succ _)
    · exact Nat.le_refl _

theorem length_next_le (b : UInt8) (rest : List UInt8) : (next b rest).2.length ≤ rest.length := by
  unfold next
  split
  · exact Nat.le_refl _
  · split
    · exact length_afterLead_le ..
    · exact Nat.le_refl _

/-! ## Texts -/

/-- The pieces of some bytes behind the pieces found before them, which are given last one first. -/
def piecesOnto (found : List (Option Char)) : List UInt8 → List (Option Char)
  | [] => found.reverse
  | b :: rest => piecesOnto ((next b rest).1 :: found) (next b rest).2
termination_by bytes => bytes.length
decreasing_by exact Nat.lt_succ_of_le (length_next_le ..)

/-- The characters of some bytes in order, with none for each maximal ill-formed part. -/
def pieces (bytes : List UInt8) : List (Option Char) :=
  piecesOnto [] bytes

theorem piecesOnto_eq (found : List (Option Char)) (bytes : List UInt8) :
    piecesOnto found bytes = found.reverse ++ pieces bytes := by
  induction hlen : bytes.length using Nat.strongRecOn generalizing found bytes with
  | _ n ih =>
    cases bytes with
    | nil => simp [pieces, piecesOnto]
    | cons b rest =>
      have hlt : (next b rest).2.length < n := by
        rw [← hlen]; exact Nat.lt_succ_of_le (length_next_le ..)
      rw [pieces, piecesOnto, piecesOnto, ih _ hlt _ _ rfl, ih _ hlt [_] _ rfl]
      simp

/-- The text of some bytes, ill-formed parts replaced. -/
def decodeLossy (bytes : List UInt8) : Text :=
  (pieces bytes).map (·.getD replacement)

/-- The text of some bytes, if they are well-formed. -/
def decode? (bytes : List UInt8) : Option Text :=
  (pieces bytes).mapM id

@[simp] theorem pieces_nil : pieces [] = [] := by simp [pieces, piecesOnto]

theorem pieces_cons (b : UInt8) (rest : List UInt8) :
    pieces (b :: rest) = (next b rest).1 :: pieces (next b rest).2 := by
  rw [pieces, piecesOnto, piecesOnto_eq]; rfl

@[simp] theorem decodeLossy_nil : decodeLossy [] = [] := by simp [decodeLossy]

end CoverageOverlay.Utf8
