-- SUMMARY: Texts as lists of characters, and the primitives every reader of text is built from.

/-!
# Texts

Documents, record files and settings are scanned character by character, and
every position in them counts characters. A text is therefore the list of its
characters; `String` is used only for words that are fixed in this library.
-/

namespace CoverageOverlay

/-- A text is the list of its characters. -/
abbrev Text := List Char

namespace Text

/-- The text of a fixed word. -/
abbrev ofString (s : String) : Text := s.toList

/-- Whether `t` begins with `start`. -/
def startsWith (t start : Text) : Bool :=
  start.isPrefixOf t

/-- Whether `t` ends with `final`. -/
def endsWith (t final : Text) : Bool :=
  final.isSuffixOf t

/-- The number of bytes of a text in UTF-8. -/
def byteLength (t : Text) : Nat :=
  t.foldl (fun n c => n + c.utf8Size) 0

@[simp] theorem startsWith_iff {t start : Text} : startsWith t start = true ↔ start <+: t := by
  simp [startsWith]

@[simp] theorem endsWith_iff {t final : Text} : endsWith t final = true ↔ final <:+ t := by
  simp [endsWith]

theorem foldl_utf8Size (n : Nat) (t : Text) :
    t.foldl (fun n c => n + c.utf8Size) n = n + byteLength t := by
  induction t generalizing n with
  | nil => rfl
  | cons c rest ih =>
    rw [byteLength, List.foldl_cons, List.foldl_cons, ih, ih (0 + c.utf8Size)]
    omega

@[simp] theorem byteLength_append (t u : Text) :
    byteLength (t ++ u) = byteLength t + byteLength u := by
  rw [byteLength, List.foldl_append, foldl_utf8Size]
  rfl

end Text

end CoverageOverlay
