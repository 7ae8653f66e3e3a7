-- SUMMARY: Places in the text of a pattern, and reading from left to right.
import CoverageOverlay.Text.Blank

/-!
# Cursors

A cursor stands before a character of a pattern's text or at its end. In a
spaced pattern white space and comments may stand between the parts; a comment
goes from a number sign to the end of its line.
-/

namespace CoverageOverlay.Regex

/-! ## Places -/

/-- A place before a character or at the end. Lines and columns count from one. -/
structure Position where
  offset : Nat
  line : Nat
  column : Nat
deriving DecidableEq, Repr, Inhabited

namespace Position

/-- The place before the first character. -/
def start : Position := ⟨0, 1, 1⟩

/-- The place after a character. -/
def after (p : Position) (c : Char) : Position :=
  if c = '\n' then ⟨p.offset + 1, p.line + 1, 1⟩ else ⟨p.offset + 1, p.line, p.column + 1⟩

end Position

/-- A part of a pattern's text. -/
structure Span where
  start : Position
  stop : Position
deriving DecidableEq, Repr, Inhabited

namespace Span

/-- The empty part at a place. -/
def point (p : Position) : Span := ⟨p, p⟩

/-- Whether a part begins and ends on one line. -/
def isOneLine (s : Span) : Bool := s.start.line = s.stop.line

/-- Whether a part comes before another, or begins with it and ends no later. -/
def le (s t : Span) : Bool :=
  s.start.offset < t.start.offset
    || (s.start.offset = t.start.offset && s.stop.offset ≤ t.stop.offset)

end Span

/-! ## Cursors -/

/-- A place in a pattern's text and the text from there on. -/
structure Cursor where
  rest : Text
  position : Position
  /-- Whether white space and comments are skipped. -/
  spaced : Bool
deriving DecidableEq, Repr, Inhabited

namespace Cursor

/-- The cursor before a pattern's text. -/
def ofText (t : Text) : Cursor := ⟨t, .start, false⟩

/-- The cursor after the next character. -/
def next (c : Cursor) : Cursor :=
  match c.rest with
  | [] => c
  | x :: rest => { c with rest, position := c.position.after x }

/-- Skip white space and comments. -/
def skipFrom (inComment : Bool) : Text → Position → Text × Position
  | [], p => ([], p)
  | x :: rest, p =>
    if inComment then skipFrom (x ≠ '\n') rest (p.after x)
    else if Text.isBlankChar x then skipFrom false rest (p.after x)
    else if x = '#' then skipFrom true rest (p.after x)
    else (x :: rest, p)

/-- The cursor after the white space and comments that are skipped. -/
def skip (c : Cursor) : Cursor :=
  if c.spaced then
    let (rest, position) := skipFrom false c.rest c.position
    { c with rest, position }
  else c

/-- The cursor after the next character and what is skipped then. -/
def advance (c : Cursor) : Cursor := c.next.skip

/-- The part of the next character. -/
def charSpan (c : Cursor) : Span := ⟨c.position, c.next.position⟩

/-- The part that ends at the cursor. -/
def spanFrom (c : Cursor) (start : Position) : Span := ⟨start, c.position⟩

/-- The cursor after a word, if the word comes next. -/
def dropWord? (c : Cursor) (word : Text) : Option Cursor :=
  if Text.startsWith c.rest word then some (word.foldl (fun d _ => d.next) c) else none

/-- The character after the next one. -/
def second? (c : Cursor) : Option Char := c.rest[1]?

/-- The first character after the next one that is not skipped. Of a comment only the number sign and
the white space after it are skipped here; if nothing else is left, nothing is skipped. -/
def secondPart? (c : Cursor) : Option Char :=
  let t := c.rest.tail
  if c.spaced then
    let found? :=
      match t.dropWhile Text.isBlankChar with
      | '#' :: rest => (rest.dropWhile Text.isBlankChar).head?
      | rest => rest.head?
    found?.orElse fun _ => t.head?
  else t.head?

theorem length_skipFrom_le (inComment : Bool) (t : Text) (p : Position) :
    (skipFrom inComment t p).1.length ≤ t.length := by
  induction t generalizing inComment p with
  | nil => simp [skipFrom]
  | cons x rest ih =>
    unfold skipFrom
    split
    · exact Nat.le_succ_of_le (ih _ _)
    · split
      · exact Nat.le_succ_of_le (ih _ _)
      · split
        · exact Nat.le_succ_of_le (ih _ _)
        · simp

theorem length_skip_le (c : Cursor) : c.skip.rest.length ≤ c.rest.length := by
  unfold skip
  split
  · exact length_skipFrom_le false c.rest c.position
  · exact Nat.le_refl _

theorem length_advance_lt {c : Cursor} {x : Char} {rest : Text} (h : c.rest = x :: rest) :
    c.advance.rest.length < c.rest.length := by
  have hnext : c.next.rest = rest := by simp [next, h]
  have hskip := length_skip_le c.next
  rw [hnext] at hskip
  rw [h]
  exact Nat.lt_succ_of_le hskip

/-- The characters that come next and are in a class, each with its part, and the cursor after them and
what is skipped after each. -/
def takeWhile (c : Cursor) (inClass : Char → Bool) : List (Char × Span) × Cursor :=
  match _h : c.rest with
  | [] => ([], c)
  | x :: _ =>
    if inClass x then
      let (taken, stop) := c.advance.takeWhile inClass
      ((x, c.charSpan) :: taken, stop)
    else ([], c)
termination_by c.rest.length
decreasing_by exact length_advance_lt _h

end Cursor

end CoverageOverlay.Regex
