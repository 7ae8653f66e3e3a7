-- SUMMARY: Reading what begins with a backslash.
import CoverageOverlay.Regex.Reader
import CoverageOverlay.Unicode.Table

/-!
# Escapes

A backslash before an ASCII character that is no letter, digit or angle bracket
takes its meaning away. Before a letter it can stand for a control character, a
class, a condition on a place, or a code point in hexadecimal. Digits are
refused, and so is every other character.
-/

namespace CoverageOverlay.Regex.Reader

/-! ## Code points -/

/-- Whether a character is a hexadecimal digit. -/
def isHexDigit (c : Char) : Bool :=
  c.isDigit || ('a' ≤ c && c ≤ 'f') || ('A' ≤ c && c ≤ 'F')

/-- The character whose code point some hexadecimal digits give. -/
def charOfHex? (digits : Text) : Option Char :=
  let n := Unicode.codePoint digits
  if n.isValidChar then some (Char.ofNat n) else none

/-- Read a number of hexadecimal digits. -/
def hexDigits : Nat → Reader Text
  | 0 => return []
  | n + 1 => do
    let c ← peek .escapeUnfinished
    unless isHexDigit c do fail (← charSpan) .hexDigitInvalid
    advance
    return c :: (← hexDigits n)

/-- Read a code point of `count` digits; two digits give a byte. -/
def hexFixed (start : Position) (count : Nat) : Reader Tree := do
  let first ← position
  let digits ← hexDigits count
  match charOfHex? digits with
  | some c => return .literal ⟨← spanFrom start, c, count = 2⟩
  | none => fail (← spanFrom first) .hexInvalid

/-- Read a code point between braces. -/
def hexBraced (start : Position) : Reader Tree := do
  let brace ← charSpan
  advance
  let digits ← takeWhile isHexDigit
  let c ← peekFrom brace.start .escapeUnfinished
  unless c = '}' do fail (← charSpan) .hexDigitInvalid
  let stop ← position
  advance
  if digits.isEmpty then fail (← spanFrom brace.start) .hexEmpty
  match charOfHex? (digits.map Prod.fst) with
  | some c => return .literal ⟨← spanFrom start, c, false⟩
  | none => fail ⟨brace.stop, stop⟩ .hexInvalid

/-- Read a code point; the cursor is before the letter that says how many digits it has. -/
def codePoint (start : Position) (letter : Char) : Reader Tree := do
  advance
  if (← peek .escapeUnfinished) = '{' then hexBraced start
  else hexFixed start (if letter = 'x' then 2 else if letter = 'u' then 4 else 8)

/-! ## Properties -/

/-- The texts before and after the first place of a word. -/
def cutAt? (word : Text) : Text → Option (Text × Text)
  | [] => none
  | c :: rest =>
    if Text.startsWith (c :: rest) word then some ([], (c :: rest).drop word.length)
    else (cutAt? word rest).map fun (before, after) => (c :: before, after)

/-- What stands between the braces of a property, and whether it means the characters without it. -/
def queryOf (t : Text) : Query × Bool :=
  match cutAt? ['!', '='] t with
  | some (name, value) => (.value name value, true)
  | none =>
    match (cutAt? [':'] t).orElse fun _ => cutAt? ['='] t with
    | some (name, value) => (.value name value, false)
    | none => (.name t, false)

/-- Read a property; the cursor is before the letter that begins it. -/
def property (start : Position) (negated : Bool) : Reader Tree := do
  advance
  let c ← peek .escapeUnfinished
  if c = '{' then
    advance
    let body ← takeWhile (· ≠ '}')
    let _ ← peek .escapeUnfinished
    next
    let (query, flipped) := queryOf (body.map Prod.fst)
    return .property (← spanFrom start) query (negated != flipped)
  else if c = '\\' then fail (← charSpan) .propertyInvalid
  else
    advance
    return .property (← spanFrom start) (.name [c]) negated

/-! ## Word boundaries -/

/-- Whether a character can be part of the name of a boundary. -/
def isBoundaryChar (c : Char) : Bool :=
  c.isAlpha || c = '-'

/-- The boundary with a name. -/
def boundaryOf? (name : Text) : Option Assertion :=
  if name = "start".toList then some .wordStart
  else if name = "end".toList then some .wordEnd
  else if name = "start-half".toList then some .wordStartHalf
  else if name = "end-half".toList then some .wordEndHalf
  else none

/-- Read the name of a boundary between braces. Braces that hold something else are left for the
reader of repetitions. -/
def boundaryName? (start : Position) : Reader (Option Assertion) := do
  let before ← cursor
  advance
  let c ← peekFrom start .boundaryUnfinished
  if !isBoundaryChar c then
    moveTo before
    return none
  let first ← position
  let name ← takeWhile isBoundaryChar
  if (← peek?) ≠ some '}' then fail (← spanFrom before.position) .boundaryUnclosed
  let stop ← position
  next
  match boundaryOf? (name.map Prod.fst) with
  | some kind => return some kind
  | none => fail ⟨first, stop⟩ .boundaryUnknown

/-- Read what can follow the letter of a boundary. -/
def boundary (start : Position) : Reader Tree := do
  let kind? ← if (← peek?) = some '{' then boundaryName? start else pure none
  return .assertion (← spanFrom start) (kind?.getD .boundary)

/-! ## All escapes -/

/-- Whether a backslash takes the meaning of a character away. -/
def isEscapable (c : Char) : Bool :=
  c.toNat < 0x80 && !c.isAlphanum && c ≠ '<' && c ≠ '>'

/-- The control character that a letter stands for. -/
def controlOf? (c : Char) : Option Char :=
  if c = 'a' then some '\x07'
  else if c = 'f' then some '\x0C'
  else if c = 't' then some '\t'
  else if c = 'n' then some '\n'
  else if c = 'r' then some '\r'
  else if c = 'v' then some '\x0B'
  else none

/-- The class that a letter stands for; a capital letter stands for the characters outside of it. -/
def letterClassOf? (c : Char) : Option (LetterClass × Bool) :=
  let kind? :=
    if c.toLower = 'd' then some .digit
    else if c.toLower = 's' then some .space
    else if c.toLower = 'w' then some .word
    else none
  kind?.map fun kind => (kind, c.isUpper)

/-- The condition that a character stands for. -/
def assertionOf? (c : Char) : Option Assertion :=
  if c = 'A' then some .textStart
  else if c = 'z' then some .textEnd
  else if c = 'B' then some .notBoundary
  else if c = '<' then some .wordStart
  else if c = '>' then some .wordEnd
  else none

/-- Read what a single character after the backslash stands for. -/
def singleEscape (start : Position) (c : Char) : Reader Tree := do
  next
  let span ← spanFrom start
  if isEscapable c then return .literal ⟨span, c, false⟩
  if let some control := controlOf? c then return .literal ⟨span, control, false⟩
  if let some (kind, negated) := letterClassOf? c then return .letter span kind negated
  if let some kind := assertionOf? c then return .assertion span kind
  if c = 'b' then boundary start else fail span .escapeUnknown

/-- Read an escape; the cursor is before the backslash. -/
def escape : Reader Tree := do
  let start ← position
  next
  let c ← peekFrom start .escapeUnfinished
  if c.isDigit then fail ⟨start, (← charSpan).stop⟩ .backreference
  else if c = 'x' ∨ c = 'u' ∨ c = 'U' then codePoint start c
  else if c = 'p' ∨ c = 'P' then property start (c = 'P')
  else singleEscape start c

end CoverageOverlay.Regex.Reader
