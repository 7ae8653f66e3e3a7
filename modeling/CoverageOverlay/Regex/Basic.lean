-- SUMMARY: From the text of a pattern to the pattern, or to what is wrong with it.
import CoverageOverlay.Regex.Meaning
import CoverageOverlay.Regex.Nesting
import CoverageOverlay.Regex.Parser
import CoverageOverlay.Regex.Size

/-!
# Patterns from texts

A text is read, its depth is checked, and its meaning is found. A pattern that
is too large is refused at the end.
-/

namespace CoverageOverlay.Regex

/-- The tree of a pattern that is not nested too deep, and its meaning. -/
def Pattern.ofText? (t : Text) : Except Fault Pattern := do
  let tree ← Tree.parse t
  tree.checkDepth 0
  let (p, _) ← tree.meaning .default
  return p

/-- The pattern that a text stands for, or why there is none. -/
def Pattern.ofText (t : Text) : Except Text Pattern :=
  match Pattern.ofText? t with
  | .error fault => .error (fault.shown t)
  | .ok p =>
    if p.isTooLarge then
      .error s!"Compiled regex exceeds size limit of {maxSize} bytes.".toList
    else .ok p

end CoverageOverlay.Regex
