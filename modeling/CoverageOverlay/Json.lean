-- SUMMARY: Structured values and their two written forms, on one line and indented.
import CoverageOverlay.Numeral

/-!
# Structured output

Listings and reports can be written as JSON. Numbers are natural numbers, and
the fields of an object keep their order. The compact form has no space outside
strings; the pretty form puts every element on a line of its own, indented by
two spaces a level, except that empty arrays and objects stay closed.
-/

namespace CoverageOverlay

/-- A structured value. -/
inductive Json
  | boolean (b : Bool)
  | number (n : Nat)
  | string (s : Text)
  | array (items : List Json)
  | object (fields : List (String × Json))

namespace Json

/-- A fixed word as a value. -/
def word (s : String) : Json := .string s.toList

/-! ## Strings -/

/-- How a character is written in a string. -/
def escaped (c : Char) : Text :=
  if c = '"' then ['\\', '"']
  else if c = '\\' then ['\\', '\\']
  else if c = '\n' then ['\\', 'n']
  else if c = '\r' then ['\\', 'r']
  else if c = '\t' then ['\\', 't']
  else if c.toNat = 0x08 then ['\\', 'b']
  else if c.toNat = 0x0C then ['\\', 'f']
  else if c.toNat < 0x10 then ['\\', 'u', '0', '0', '0'] ++ Nat.toDigits 16 c.toNat
  else if c.toNat < 0x20 then ['\\', 'u', '0', '0'] ++ Nat.toDigits 16 c.toNat
  else [c]

/-- A string with its quotes. -/
def quote (s : Text) : Text :=
  '"' :: s.flatMap escaped ++ ['"']

/-! ## The compact form -/

mutual

/-- A value on one line. -/
def compact : Json → Text
  | boolean b => if b then ['t', 'r', 'u', 'e'] else ['f', 'a', 'l', 's', 'e']
  | number n => Numeral.ofNat n
  | string s => quote s
  | array items => '[' :: compactItems items ++ [']']
  | object fields => '{' :: compactFields fields ++ ['}']

/-- The elements of an array on one line, parted by commas. -/
def compactItems : List Json → Text
  | [] => []
  | [item] => compact item
  | item :: rest => compact item ++ ',' :: compactItems rest

/-- The fields of an object on one line, parted by commas. -/
def compactFields : List (String × Json) → Text
  | [] => []
  | [(key, value)] => quote key.toList ++ ':' :: compact value
  | (key, value) :: rest => quote key.toList ++ ':' :: compact value ++ ',' :: compactFields rest

end

/-! ## The pretty form -/

/-- The start of a line at some depth. -/
def newLine (depth : Nat) : Text :=
  '\n' :: List.replicate (2 * depth) ' '

mutual

/-- A value whose first line stands at some depth. -/
def prettyAt (depth : Nat) : Json → Text
  | boolean b => if b then ['t', 'r', 'u', 'e'] else ['f', 'a', 'l', 's', 'e']
  | number n => Numeral.ofNat n
  | string s => quote s
  | array [] => ['[', ']']
  | array items => '[' :: prettyItems (depth + 1) items ++ newLine depth ++ [']']
  | object [] => ['{', '}']
  | object fields => '{' :: prettyFields (depth + 1) fields ++ newLine depth ++ ['}']

/-- The elements of an array, each on lines of its own. -/
def prettyItems (depth : Nat) : List Json → Text
  | [] => []
  | [item] => newLine depth ++ prettyAt depth item
  | item :: rest => newLine depth ++ prettyAt depth item ++ ',' :: prettyItems depth rest

/-- The fields of an object, each on lines of its own. -/
def prettyFields (depth : Nat) : List (String × Json) → Text
  | [] => []
  | [(key, value)] => newLine depth ++ quote key.toList ++ ':' :: ' ' :: prettyAt depth value
  | (key, value) :: rest =>
    newLine depth ++ quote key.toList ++ ':' :: ' ' :: prettyAt depth value
      ++ ',' :: prettyFields depth rest

end

/-- A value on indented lines. -/
def pretty (v : Json) : Text :=
  prettyAt 0 v

end Json

end CoverageOverlay
