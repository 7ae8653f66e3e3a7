-- SUMMARY: Texts between double quotes, every character of which can be seen.
import CoverageOverlay.Text.Hidden

/-!
# Quoted texts

Messages show a text between double quotes. Quotes and backslashes are escaped,
the tabulator, the line ends and the null character have letters of their own,
and every other hidden character is given by its code point in hexadecimal. A
single quote stays as it is.
-/

namespace CoverageOverlay.Text

/-- How a character is written between quotes. -/
def quotedChar (c : Char) : Text :=
  if c = '"' then ['\\', '"']
  else if c = '\\' then ['\\', '\\']
  else if c = '\t' then ['\\', 't']
  else if c = '\n' then ['\\', 'n']
  else if c = '\r' then ['\\', 'r']
  else if c.toNat = 0 then ['\\', '0']
  else if isHidden c then ['\\', 'u', '{'] ++ Nat.toDigits 16 c.toNat ++ ['}']
  else [c]

/-- A text between double quotes. -/
def quoted (t : Text) : String :=
  String.ofList ('"' :: t.flatMap quotedChar ++ ['"'])

end CoverageOverlay.Text
