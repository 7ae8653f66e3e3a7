-- SUMMARY: Reading how groups open: names, flags and the forms that are refused.
import CoverageOverlay.Regex.Escape
import CoverageOverlay.Unicode.Property

/-!
# Groups

A parenthesis opens a group. A question mark after it makes the group one that
is named, one that does not capture and can have flags, or no group at all but
flags for the rest of the group around it.
-/

namespace CoverageOverlay.Regex

/-- What a parenthesis opens. -/
inductive Opening
  /-- Flags for the rest of the group. -/
  | flags (flags : Flags)
  /-- A group; the part is that of the parenthesis. -/
  | group (span : Span) (captures : Bool) (flags : Flags)
deriving Repr

namespace Reader

/-! ## Names -/

/-- Whether a character is a letter. -/
def isLetter (c : Char) : Bool :=
  if c.toNat < 0x80 then c.isAlpha
  else (Unicode.Property.ofName "Alphabetic".toList).toOption.any (·.contains c)

/-- Whether a character is a letter or a number. -/
def isLetterOrNumber (c : Char) : Bool :=
  if c.toNat < 0x80 then c.isAlphanum
  else isLetter c || (Unicode.Category.ofNames ["Nd", "Nl", "No"]).contains c

/-- The number of characters before the first one that cannot stand in a name. -/
def validCount (name : Text) : Nat :=
  match name with
  | [] => 0
  | first :: rest =>
    if first = '_' || isLetter first then
      1 + (rest.takeWhile fun c => c ∈ ['_', '.', '[', ']'] || isLetterOrNumber c).length
    else 0

/-- Read a name up to the sign that closes it. -/
def groupName : Reader Unit := do
  let start ← cursor
  let name := start.rest.takeWhile (· ≠ '>')
  let valid := name.take (validCount name)
  moveTo ((start.dropWord? valid).getD start)
  if valid.length < name.length then fail (← charSpan) .nameInvalid
  let span ← spanFrom start.position
  let _ ← peek .nameUnfinished
  next
  if name = [] then fail span .nameEmpty
  match (← get).names.find? fun (known, _) => known = name with
  | some (_, earlier) => fail span (.nameDuplicate earlier)
  | none => modify fun r => { r with names := (name, span) :: r.names }

/-! ## Flags -/

/-- Read the letters and hyphens of flags up to what ends them, each with its part. The fuel is at
least the number of characters that are left. -/
def flagItems (items : List (Option Flag × Span)) : Nat → Reader (List (Option Flag × Span))
  | 0 => return items
  | fuel + 1 => do
    let c ← peek .flagsUnfinished
    if c = ':' ∨ c = ')' then return items
    let span ← charSpan
    let item ←
      if c = '-' then pure none
      else
        match Flag.ofChar? c with
        | some flag => pure (some flag)
        | none => fail span .flagUnknown
    if let some (_, earlier) := items.find? fun (known, _) => known = item then
      fail span (if item.isNone then .negationRepeated earlier else .flagDuplicate earlier)
    next
    flagItems (items ++ [(item, span)]) fuel

/-- The flags that letters and a hyphen stand for; those after the hyphen are cleared. -/
def flagsOf (value : Bool) : List (Option Flag × Span) → Flags
  | [] => []
  | (none, _) :: rest => flagsOf false rest
  | (some flag, _) :: rest => (flag, value) :: flagsOf value rest

/-- Read flags. -/
def flags : Reader Flags := do
  let items ← flagItems [] ((← cursor).rest.length + 1)
  if let some (none, span) := items.getLast? then fail span .negationDangling
  return flagsOf true items

/-! ## Openings -/

/-- Read one of some words, if one comes next. -/
def acceptAny : List String → Reader Bool
  | [] => return false
  | word :: rest => do
    if ← accept word.toList then return true
    acceptAny rest

/-- Read what a parenthesis opens; the cursor is before it. -/
def opening : Reader Opening := do
  let parenthesis ← charSpan
  next
  skip
  if ← acceptAny ["?=", "?!", "?<=", "?<!"] then
    fail (← spanFrom parenthesis.start) .lookAround
  let inner ← here
  if ← acceptAny ["?P<", "?<"] then
    groupName
    return .group parenthesis true []
  else if ← accept ['?'] then
    if ← atEnd then fail parenthesis .groupUnclosed
    let flags ← flags
    let closes := (← peek?) = some ')'
    next
    if !closes then return .group parenthesis false flags
    else if flags.isEmpty then fail inner .repetitionMissing
    else return .flags flags
  else return .group parenthesis true []

end Reader

end CoverageOverlay.Regex
