-- SUMMARY: Explanations of what is wrong in a settings text, with an excerpt of the line.
import CoverageOverlay.Toml.Node
import CoverageOverlay.Numeral

/-!
# Excerpts

An explanation names the line and the column, shows the line, marks the part in
question below it and ends with the message. The column counts characters up to
the part, or bytes if the part begins with a character of several bytes. The
mark is as wide as the part has bytes, as far as the line goes, and at least
one character.

Explanations of what keeps a text from being well-formed are not made here: who
reads such texts has words of their own for it.
-/

namespace CoverageOverlay.Toml

/-- The message `message` about the part `span` of `source`. -/
def explain (source : Text) (span : Span) (message : Text) : Text :=
  let before := source.take (source.length - span.left)
  let part := (source.drop before.length).take (span.left - span.after)
  let lineNumber := Numeral.ofNat (before.count '\n' + 1)
  let lineStart := (before.reverse.takeWhile (· ≠ '\n')).reverse
  let column :=
    if part.head?.any (·.utf8Size > 1) then Text.byteLength lineStart else lineStart.length
  let line := lineStart ++ (source.drop before.length).takeWhile (· ≠ '\n')
  let width := max 1 (min (Text.byteLength part) (Text.byteLength line - column))
  let gutter := List.replicate (lineNumber.length + 1) ' ' ++ ['|']
  "TOML parse error at line ".toList ++ lineNumber ++ ", column ".toList
    ++ Numeral.ofNat (column + 1) ++ ['\n']
    ++ gutter ++ ['\n']
    ++ lineNumber ++ " | ".toList ++ line ++ ['\n']
    ++ gutter ++ List.replicate (column + 1) ' ' ++ List.replicate width '^' ++ ['\n']
    ++ message ++ ['\n']

/-- The words of whoever reads settings texts. -/
class Explains where
  /-- What is wrong with a text that is not well-formed. -/
  illFormed : Text → Text

/-- Where nobody has words for it, nothing is said. -/
instance (priority := low) unexplained : Explains := ⟨fun _ => []⟩

end CoverageOverlay.Toml
