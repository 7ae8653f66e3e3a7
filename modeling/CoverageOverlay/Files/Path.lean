-- SUMMARY: Paths as texts, their components, names and parents, and the order of paths.
import CoverageOverlay.Text.Basic

/-!
# Paths

A path is a text in which slashes part the steps. Its spelling is kept: two
spellings of one place are two paths, and messages show what was given. What a
path means is read off its components, in which empty steps and single dots
count for nothing, except for a dot at the very beginning.
-/

namespace CoverageOverlay

/-- The name of an entry in a directory. -/
abbrev Name := Text

/-- A path in its spelling. -/
structure Path where
  chars : Text
deriving DecidableEq, Repr, Inhabited

/-- One step of a path. -/
inductive Component
  /-- The top of the file system. -/
  | root
  /-- The directory that the path starts from. -/
  | here
  /-- The directory above. -/
  | up
  /-- The entry with a name. -/
  | name (n : Name)
deriving DecidableEq, Repr, Inhabited

namespace Component

/-- The component that a step between two slashes stands for: none for an empty step or a dot. -/
def ofStep? (step : Text) : Option Component :=
  if step = [] ∨ step = ['.'] then none
  else if step = ['.', '.'] then some .up
  else some (.name step)

/-- The place of a component in the order of components. -/
def key : Component → List Nat
  | root => [0]
  | here => [1]
  | up => [2]
  | name n => 3 :: n.map Char.toNat

end Component

namespace Path

/-- The path that is spelled as a fixed word. -/
def ofString (s : String) : Path := ⟨s.toList⟩

/-- The spelling for messages. -/
def text (p : Path) : String := String.ofList p.chars

/-- The path whose spelling goes on with a suffix. -/
def append (p : Path) (suffix : Text) : Path := ⟨p.chars ++ suffix⟩

/-! ## Components -/

/-- Whether the path starts at the top of the file system. -/
def isAbsolute (p : Path) : Bool := p.chars.head? = some '/'

/-- The steps between the slashes, empty ones included. -/
def steps (p : Path) : List Text :=
  (if p.isAbsolute then p.chars.tail else p.chars).splitOn '/'

/-- The component before the first step: the top of the file system, or a leading dot. -/
def anchor (p : Path) : List Component :=
  if p.isAbsolute then [.root]
  else if p.steps.head? = some ['.'] then [.here]
  else []

/-- What the path means, step by step. -/
def components (p : Path) : List Component :=
  p.anchor ++ p.steps.filterMap Component.ofStep?

/-- The name of the entry that the path leads to, if its last component is a name. -/
def fileName? (p : Path) : Option Name :=
  match p.components.getLast? with
  | some (.name n) => some n
  | _ => none

/-! ## Longer and shorter paths -/

/-- The path of an entry in the directory `p`; a slash is added where none parts the two. -/
def child (p : Path) (n : Name) : Path :=
  if p.chars.isEmpty ∨ p.chars.getLast? = some '/' then ⟨p.chars ++ n⟩
  else ⟨p.chars ++ '/' :: n⟩

/-- The path that leads from the directory `p` through directories with the given names. -/
def descend (p : Path) (names : List Name) : Path :=
  names.foldl child p

/-- The path that consists of names only. -/
def ofNames (names : List Name) : Path :=
  ⟨(names.intersperse ['/']).flatten⟩

/-- Drop the empty steps and the dots at the end. -/
def dropInert (steps : List Text) : List Text :=
  (steps.reverse.dropWhile fun s => (Component.ofStep? s).isNone).reverse

/-- The path without its last component. The top of the file system and the empty path have none. -/
def parent? (p : Path) : Option Path :=
  match p.components.getLast? with
  | none => none
  | some .root => none
  | some .here => some ⟨[]⟩
  | some _ =>
    let above := dropInert (dropInert p.steps).dropLast
    let spelled := (above.intersperse ['/']).flatten
    if p.isAbsolute then some ⟨'/' :: spelled⟩
    else if above.isEmpty ∧ p.anchor = [.here] then some ⟨['.']⟩
    else some ⟨spelled⟩

/-! ## Order -/

/-- The place of a path in the order of paths: component by component, not character by character. -/
def key (p : Path) : List (List Nat) :=
  p.components.map Component.key

/-- Whether a path comes no later than another. -/
def le (p q : Path) : Bool :=
  (List.compareLex (List.compareLex fun m n => compareOfLessAndEq m n) p.key q.key).isLE

end Path

end CoverageOverlay
