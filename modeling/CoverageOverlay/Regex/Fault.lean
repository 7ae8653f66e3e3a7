-- SUMMARY: What can be wrong with a pattern, and how it is shown.
import CoverageOverlay.Numeral
import CoverageOverlay.Regex.Cursor
import CoverageOverlay.Text.Lines

/-!
# Faults of patterns

A fault is a cause and the part of the pattern that it concerns; some faults
concern an earlier part too. A fault is shown with the pattern above it, the
parts marked by carets. A pattern of several lines is shown with line numbers
between two rules.
-/

namespace CoverageOverlay.Regex

/-- What can be wrong with a pattern. -/
inductive Cause
  | bracketEscapeInvalid
  | rangeInvalid
  | rangeBoundInvalid
  | bracketUnclosed
  | decimalEmpty
  | decimalInvalid
  | hexEmpty
  | hexInvalid
  | hexDigitInvalid
  | escapeUnfinished
  | escapeUnknown
  | negationDangling
  | flagDuplicate (earlier : Span)
  | negationRepeated (earlier : Span)
  | flagsUnfinished
  | flagUnknown
  | nameDuplicate (earlier : Span)
  | nameEmpty
  | nameInvalid
  | nameUnfinished
  | groupUnclosed
  | groupUnopened
  | nestedTooDeep (limit : Nat)
  | countsInvalid
  | countEmpty
  | countUnclosed
  | repetitionMissing
  | boundaryUnclosed
  | boundaryUnknown
  | boundaryUnfinished
  | propertyInvalid
  | backreference
  | lookAround
  | invalidBytes
  | propertyNotAllowed
  | propertyNotFound
  | propertyValueNotFound
deriving DecidableEq, Repr, Inhabited

namespace Cause

/-- The words for a cause. -/
def message : Cause → String
  | bracketEscapeInvalid => "invalid escape sequence found in character class"
  | rangeInvalid => "invalid character class range, the start must be <= the end"
  | rangeBoundInvalid => "invalid range boundary, must be a literal"
  | bracketUnclosed => "unclosed character class"
  | decimalEmpty => "decimal literal empty"
  | decimalInvalid => "decimal literal invalid"
  | hexEmpty => "hexadecimal literal empty"
  | hexInvalid => "hexadecimal literal is not a Unicode scalar value"
  | hexDigitInvalid => "invalid hexadecimal digit"
  | escapeUnfinished => "incomplete escape sequence, reached end of pattern prematurely"
  | escapeUnknown => "unrecognized escape sequence"
  | negationDangling => "dangling flag negation operator"
  | flagDuplicate _ => "duplicate flag"
  | negationRepeated _ => "flag negation operator repeated"
  | flagsUnfinished => "expected flag but got end of regex"
  | flagUnknown => "unrecognized flag"
  | nameDuplicate _ => "duplicate capture group name"
  | nameEmpty => "empty capture group name"
  | nameInvalid => "invalid capture group character"
  | nameUnfinished => "unclosed capture group name"
  | groupUnclosed => "unclosed group"
  | groupUnopened => "unopened group"
  | nestedTooDeep limit =>
    "exceed the maximum number of nested parentheses/brackets (" ++ toString limit ++ ")"
  | countsInvalid => "invalid repetition count range, the start must be <= the end"
  | countEmpty => "repetition quantifier expects a valid decimal"
  | countUnclosed => "unclosed counted repetition"
  | repetitionMissing => "repetition operator missing expression"
  | boundaryUnclosed =>
    "special word boundary assertion is either unclosed or contains an invalid character"
  | boundaryUnknown =>
    "unrecognized special word boundary assertion, valid choices are: start, end, start-half or end-half"
  | boundaryUnfinished =>
    "found either the beginning of a special word boundary or a bounded repetition on a \\b with an opening brace, but no closing brace"
  | propertyInvalid => "invalid Unicode character class"
  | backreference => "backreferences are not supported"
  | lookAround => "look-around, including look-ahead and look-behind, is not supported"
  | invalidBytes => "pattern can match invalid UTF-8"
  | propertyNotAllowed => "Unicode not allowed here"
  | propertyNotFound => "Unicode property not found"
  | propertyValueNotFound => "Unicode property value not found"

/-- The earlier part that a cause concerns too. -/
def earlier? : Cause → Option Span
  | flagDuplicate s | negationRepeated s | nameDuplicate s => some s
  | _ => none

end Cause

/-- What is wrong with a pattern, and where. -/
structure Fault where
  cause : Cause
  span : Span
deriving DecidableEq, Repr, Inhabited

namespace Fault

/-! ## Showing faults -/

/-- The parts that a fault concerns, in order. -/
def spans (f : Fault) : List Span :=
  (f.span :: f.cause.earlier?.toList).mergeSort Span.le

/-- Carets below parts of one line, of which the columns before `column` are done. -/
def carets (column : Nat) : List Span → Text
  | [] => []
  | s :: rest =>
    let count := max 1 (s.stop.column - s.start.column)
    List.replicate (s.start.column - column) ' ' ++ List.replicate count '^'
      ++ carets (max column s.start.column + count) rest

/-- The lines of a pattern, each with carets below it if parts of it are concerned. The first of
the lines has the number `line`, and numbers are as wide as `width` says. -/
def markedFrom (parts : List Span) (width line : Nat) : List Text → Text
  | [] => []
  | t :: rest =>
    let number := Numeral.ofNat line
    let margin :=
      if width = 0 then List.replicate 4 ' '
      else List.replicate (width - number.length) ' ' ++ number ++ [':', ' ']
    let here := parts.filter fun s => s.isOneLine && s.start.line = line
    let below :=
      if here = [] then []
      else List.replicate (if width = 0 then 4 else width + 2) ' ' ++ carets 1 here ++ ['\n']
    margin ++ t ++ ['\n'] ++ below ++ markedFrom parts width (line + 1) rest

/-- A pattern with the parts marked that a fault concerns. -/
def marked (f : Fault) (pattern : Text) : Text :=
  let lines := Text.lines pattern
  let count := lines.length + if pattern.getLast? = some '\n' then 1 else 0
  let width := if count ≤ 1 then 0 else (Numeral.ofNat count).length
  markedFrom f.spans width 1 lines

/-- Where a part of several lines begins and ends. -/
def extent (s : Span) : Text :=
  ("on line " ++ toString s.start.line ++ " (column " ++ toString s.start.column
    ++ ") through line " ++ toString s.stop.line ++ " (column "
    ++ toString (s.stop.column - 1) ++ ")").toList

/-- A fault with the pattern in which it was found. -/
def shown (f : Fault) (pattern : Text) : Text :=
  let heading := "regex parse error:\n".toList
  let reason := ("error: " ++ f.cause.message).toList
  if pattern.contains '\n' then
    let rule := List.replicate 79 '~' ++ ['\n']
    let extents := (f.spans.filter (!·.isOneLine)).map extent
    let notes := if extents = [] then [] else List.intercalate ['\n'] extents ++ ['\n']
    heading ++ rule ++ f.marked pattern ++ rule ++ notes ++ reason
  else heading ++ f.marked pattern ++ reason

end Fault

end CoverageOverlay.Regex
