-- SUMMARY: Text without the control characters and control sequences that only a terminal understands.
import CoverageOverlay.Text.Utf8

/-!
# Control sequences

A control sequence begins with the escape character. What follows decides its
kind and so where it ends: a short one with the first character from `0` to
`~`, a sequence after `[` with the first from `@` to `~`, a command after `]`
with the bell, a string after `X`, `^` or `_` with the byte 9C. A device string
after `P` has a head before it becomes such a string. The escape character
itself begins another sequence wherever it stands.

What is left of a text are its visible characters and its ASCII white space.
White space within a short sequence or a sequence after `[` ends it and stays.
-/

namespace CoverageOverlay.Text

/-- Where a character stands with respect to control sequences. -/
inductive Phase
  /-- Outside of every sequence. -/
  | plain
  /-- Directly after the escape character. -/
  | escape
  /-- After the escape character and some characters from the space to `/`. -/
  | escapeMiddle
  /-- In a sequence after `[`. -/
  | sequence
  /-- In a command after `]`. -/
  | command
  /-- Directly after the `P` of a device string. -/
  | deviceStart
  /-- In the parameters of a device string. -/
  | deviceParameters
  /-- After the parameters of a device string. -/
  | deviceMiddle
  /-- In the data of a string. -/
  | data
deriving DecidableEq, Repr, Inhabited

namespace Phase

/-- Whether a character can be seen or is ASCII white space. -/
def isPrintable (c : Char) : Bool :=
  (0x20 ≤ c.toNat && c.toNat ≠ 0x7F) || c = '\t' || c = '\n' || c = '\r' || c.toNat = 0x0C

/-- Whether a character stays. -/
def keeps : Phase → Char → Bool
  | plain, c => isPrintable c
  | escape, c | escapeMiddle, c | sequence, c => isPrintable c && c.toNat < 0x20
  | _, _ => false

/-- Whether the bytes of a character end a string. -/
def endsData (c : Char) : Bool :=
  (Utf8.encode [c]).contains 0x9C

/-- The phase after a character that does not stay. -/
def after (phase : Phase) (c : Char) : Phase :=
  let n := c.toNat
  if n = 0x1B then escape
  else if n = 0x18 ∨ n = 0x1A then plain
  else
    match phase with
    | plain => plain
    | escape =>
      if c = '[' then sequence
      else if c = ']' then command
      else if c = 'P' then deviceStart
      else if c = 'X' ∨ c = '^' ∨ c = '_' then data
      else if 0x20 ≤ n ∧ n < 0x30 then escapeMiddle
      else if 0x30 ≤ n ∧ n < 0x7F then plain
      else escape
    | escapeMiddle => if 0x30 ≤ n ∧ n < 0x7F then plain else escapeMiddle
    | sequence => if 0x40 ≤ n ∧ n < 0x7F then plain else sequence
    | command => if n = 0x07 then plain else command
    | deviceStart =>
      if 0x20 ≤ n ∧ n < 0x30 then deviceMiddle
      else if 0x30 ≤ n ∧ n < 0x40 then deviceParameters
      else if 0x40 ≤ n ∧ n < 0x7F then data
      else deviceStart
    | deviceParameters =>
      if 0x20 ≤ n ∧ n < 0x30 then deviceMiddle
      else if 0x3C ≤ n ∧ n < 0x7F then data
      else deviceParameters
    | deviceMiddle => if 0x30 ≤ n ∧ n < 0x7F then data else deviceMiddle
    | data => if endsData c then plain else data

end Phase

/-- What is left of a text that begins in a phase. -/
def withoutControlsFrom (phase : Phase) : Text → Text
  | [] => []
  | c :: rest =>
    if phase.keeps c then c :: withoutControlsFrom .plain rest
    else withoutControlsFrom (phase.after c) rest

/-- A text without its control characters and control sequences. -/
def withoutControls (t : Text) : Text :=
  withoutControlsFrom .plain t

theorem withoutControls_of_printable {t : Text} (h : ∀ c ∈ t, Phase.isPrintable c = true) :
    withoutControls t = t := by
  unfold withoutControls
  induction t with
  | nil => rfl
  | cons c rest ih =>
    have hc : Phase.plain.keeps c = true := h c (by simp)
    rw [withoutControlsFrom, if_pos hc, ih fun d hd => h d (by simp [hd])]

end CoverageOverlay.Text
