-- SUMMARY: Tables of named sets of characters, and how names are compared.
import CoverageOverlay.CharSet

/-!
# Tables of the character database

A table lists sets of characters under their names. A set is written as rows of
ranges: code points in hexadecimal, the first and the last with a hyphen
between them, or one code point alone. A set without rows is known by name only.

Names are compared loosely: case, spaces, hyphens, low lines and a leading `is`
do not matter.
-/

namespace CoverageOverlay.Unicode

/-- Why a name stands for no set. -/
inductive Missing
  /-- There is no such property. -/
  | property
  /-- The property has no such value. -/
  | value
deriving DecidableEq, Repr, Inhabited

/-- A set with its names. -/
structure Entry where
  names : List String
  rows : List String
deriving DecidableEq, Repr, Inhabited

/-! ## Names -/

/-- A name without a leading `is`, if there is one. -/
def withoutIs (name : Text) : Text :=
  match name with
  | i :: s :: rest => if i.toLower = 'i' ∧ s.toLower = 's' then rest else name
  | _ => name

/-- The form in which names are compared. The short name `isc` would be read as `c`; it stays. -/
def normalize (name : Text) : Text :=
  let body := withoutIs name
  let kept := body.filter fun c => c.toNat < 0x80 && c ≠ ' ' && c ≠ '_' && c ≠ '-'
  let norm := kept.map Char.toLower
  if body.length < name.length ∧ norm = ['c'] then ['i', 's', 'c'] else norm

/-- Whether one of the names has a normal form. -/
def isNamed (names : List String) (norm : Text) : Bool :=
  names.any fun name => normalize name.toList = norm

/-! ## Entries -/

/-- The value of a hexadecimal digit. -/
def hexValue (c : Char) : Nat :=
  if c.isDigit then c.toNat - '0'.toNat else c.toLower.toNat - 'a'.toNat + 10

/-- The number that hexadecimal digits stand for. -/
def codePoint (digits : Text) : Nat :=
  digits.foldl (fun n d => 16 * n + hexValue d) 0

/-- The code points of one word of a row, joined by hyphens. -/
def codePoints (word : Text) : List Nat :=
  (word.splitOn '-').map codePoint

/-- The words of some rows. -/
def wordsOf (rows : List String) : List Text :=
  rows.flatMap fun row => row.toList.splitOn ' '

/-- The set that some rows stand for. -/
def setOfRows (rows : List String) : CharSet :=
  .ofRanges <| (wordsOf rows).map fun word =>
    let codes := codePoints word
    (codes.headD 0, codes.getLastD 0)

/-- The set of an entry, unless it is known by name only. -/
def Entry.set? (e : Entry) : Except Missing CharSet :=
  if e.rows.isEmpty then .error .value else .ok (setOfRows e.rows)

/-- The entry of a table with a name in normal form. -/
def entryNamed? (table : List Entry) (norm : Text) : Option Entry :=
  table.find? fun e => isNamed e.names norm

/-- The union of the sets of a table with some names. -/
def unionOf (table : List Entry) (names : List String) : CharSet :=
  let entries := table.filter fun e => names.any fun name => e.names.contains name
  setOfRows (entries.flatMap Entry.rows)

end CoverageOverlay.Unicode
