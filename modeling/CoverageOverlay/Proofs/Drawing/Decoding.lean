-- SUMMARY: Reading a drawn document back: its text and the state of every character.
import CoverageOverlay.Proofs.Drawing.Cells
import CoverageOverlay.Drawing.Markup

/-!
# Reading drawn documents

Every marker begins with a character that is reserved for markers, and no
marker begins with another one. A text without reserved characters can
therefore be told from the markers that are put into it: what stands between
the markers is the document, and the last marker before a character says in
which state it is drawn. So two drawn documents are equal only if the documents
are, and are drawn in the same states throughout.
-/

namespace CoverageOverlay

namespace Markup

/-! ## Markers -/

/-- The characters that markers begin with. -/
def reserved : Markup → List Char
  | ansi => [escape]
  | plain => ['{', '}']

/-- The marker behind which characters are drawn in a cell, if another marker or none was open before. -/
def marker (m : Markup) : Cell → Text
  | none => m.closing
  | some s => m.opening s

/-- Every cell. -/
def allCells : List Cell :=
  none :: State.all.map some

theorem mem_allCells (cell : Cell) : cell ∈ allCells := by
  cases cell with
  | none => simp [allCells]
  | some s => simp [allCells, State.mem_all]

/-- The marker at the head of a text, given by the cell behind it, and the text after it. -/
def marker? (m : Markup) (t : Text) : Option (Cell × Text) :=
  (allCells.find? fun cell => t.startsWith (m.marker cell)).map fun cell =>
    (cell, t.drop (m.marker cell).length)

variable {m : Markup} {now cell : Cell} {c : Char} {t rest : Text}

/-- A marker is a reserved character with something behind it. -/
theorem exists_marker_eq (m : Markup) (cell : Cell) :
    ∃ c ∈ m.reserved, ∃ rest, m.marker cell = c :: rest := by
  cases m with
  | ansi => cases cell <;> exact ⟨escape, by simp [reserved], _, rfl⟩
  | plain =>
    cases cell with
    | none => exact ⟨'}', by simp [reserved], _, rfl⟩
    | some s => exact ⟨'{', by simp [reserved], _, rfl⟩

/-- No marker begins with another one. -/
theorem eq_of_marker_begins {cell' : Cell} (h : m.marker cell <+: m.marker cell') : cell = cell' := by
  have hall : ∀ cell ∈ allCells, ∀ cell' ∈ allCells,
      m.marker cell <+: m.marker cell' → cell = cell' := by
    cases m <;> decide
  exact hall cell (mem_allCells cell) cell' (mem_allCells cell') h

/-- The marker at the head of a text is found. -/
theorem marker?_marker (m : Markup) (cell : Cell) (rest : Text) :
    m.marker? (m.marker cell ++ rest) = some (cell, rest) := by
  have hstarts : (m.marker cell ++ rest).startsWith (m.marker cell) = true :=
    Text.startsWith_iff.2 (List.prefix_append _ _)
  cases hfind : allCells.find? fun cell' => (m.marker cell ++ rest).startsWith (m.marker cell') with
  | none => exact absurd hstarts (List.find?_eq_none.1 hfind cell (mem_allCells cell))
  | some found =>
    -- Of two markers at the head of one text, the shorter one would begin the longer one.
    have hhead := List.find?_some hfind
    have hbegins : m.marker found <+: m.marker cell ++ rest := Text.startsWith_iff.1 hhead
    have hfound : found = cell := by
      rcases List.prefix_or_prefix_of_prefix hbegins (List.prefix_append _ rest) with h | h
      · exact eq_of_marker_begins h
      · exact (eq_of_marker_begins h).symm
    simp [marker?, hfind, hfound]

/-- There is no marker where the head of a text is not reserved. -/
theorem marker?_cons_eq_none (hc : c ∉ m.reserved) : m.marker? (c :: t) = none := by
  simp only [marker?, Option.map_eq_none_iff, List.find?_eq_none, Text.startsWith_iff]
  intro cell _ hbegins
  obtain ⟨d, hd, rest, hmarker⟩ := exists_marker_eq m cell
  rw [hmarker, List.cons_prefix_cons] at hbegins
  exact hc (hbegins.1 ▸ hd)

theorem marker?_nil : m.marker? [] = none := by
  simp only [marker?, Option.map_eq_none_iff, List.find?_eq_none, Text.startsWith_iff]
  intro cell _ hbegins
  obtain ⟨d, -, rest, hmarker⟩ := exists_marker_eq m cell
  simp [hmarker] at hbegins

theorem length_lt_of_marker? (h : m.marker? t = some (cell, rest)) : rest.length < t.length := by
  simp only [marker?, Option.map_eq_some_iff, Prod.mk.injEq] at h
  obtain ⟨found, hfind, -, rfl⟩ := h
  have hhead := List.find?_some hfind
  have hle := (Text.startsWith_iff.1 hhead).length_le
  obtain ⟨d, -, more, hmarker⟩ := exists_marker_eq m found
  rw [hmarker, List.length_cons] at hle
  rw [List.length_drop, hmarker, List.length_cons]
  omega

/-! ## Reading -/

/-- Read a drawn text behind a marker, or the text from its beginning if the cell `now` is none: the
characters with their cells, and the cell that is open at the end. An opening marker cannot stand where
one is open, nor a closing marker where none is. -/
def decodeFrom (m : Markup) (now : Cell) (t : Text) : Option (List (Char × Cell) × Cell) :=
  match _hmarker : m.marker? t with
  | some (cell, rest) => if cell.isSome = now.isSome then none else decodeFrom m cell rest
  | none =>
    match t with
    | [] => some ([], now)
    | c :: rest => (decodeFrom m now rest).map fun (read, last) => ((c, now) :: read, last)
termination_by t.length
decreasing_by
  · exact length_lt_of_marker? _hmarker
  · exact Nat.lt_succ_self _

/-- Read a drawn text: the characters with their cells, and the cell that is open at the end. -/
def decode (m : Markup) (t : Text) : Option (List (Char × Cell) × Cell) :=
  m.decodeFrom none t

theorem decodeFrom_nil : m.decodeFrom now [] = some ([], now) := by
  rw [decodeFrom]
  split
  · next hmarker => simp [marker?_nil] at hmarker
  · rfl

/-- A marker is read where it may stand. -/
theorem decodeFrom_marker (cell : Cell) (h : cell.isSome ≠ now.isSome) :
    m.decodeFrom now (m.marker cell ++ rest) = m.decodeFrom cell rest := by
  rw [decodeFrom]
  split
  · next found left hmarker =>
    rw [marker?_marker, Option.some.injEq, Prod.mk.injEq] at hmarker
    obtain ⟨rfl, rfl⟩ := hmarker
    rw [if_neg h]
  · next hmarker => simp [marker?_marker] at hmarker

/-- A character that is not reserved is read as it stands. -/
theorem decodeFrom_cons (hc : c ∉ m.reserved) :
    m.decodeFrom now (c :: t) =
      (m.decodeFrom now t).map fun (read, last) => ((c, now) :: read, last) := by
  rw [decodeFrom]
  split
  · next hmarker => simp [marker?_cons_eq_none hc] at hmarker
  · rfl

/-- Where two cells meet, the markers between them lead from the one to the other. -/
theorem decodeFrom_between (m : Markup) (before after : Cell) (rest : Text) :
    m.decodeFrom before (m.between before after ++ rest) = m.decodeFrom after rest := by
  by_cases hsame : after = before
  · rw [between, if_pos hsame, hsame, List.nil_append]
  · rw [between, if_neg hsame, List.append_assoc]
    cases before with
    | none =>
      cases after with
      | none => exact absurd rfl hsame
      | some s => exact decodeFrom_marker (some s) (by simp)
    | some s =>
      have hclose : m.decodeFrom (some s) (m.closing ++ (m.openRun after ++ rest)) =
          m.decodeFrom none (m.openRun after ++ rest) :=
        decodeFrom_marker none (by simp)
      cases after with
      | none => exact hclose
      | some s' => exact hclose.trans (decodeFrom_marker (some s') (by simp))

/-- Drawn characters are read back with their cells, and no marker is left open. -/
theorem decodeFrom_drawFrom {cells : List (Char × Cell)} (hfree : ∀ p ∈ cells, p.1 ∉ m.reserved)
    (before : Cell) : m.decodeFrom before (m.drawFrom before cells) = some (cells, none) := by
  induction cells generalizing before with
  | nil =>
    have hend := decodeFrom_between m before none []
    rwa [List.append_nil, decodeFrom_nil] at hend
  | cons p cells ih =>
    obtain ⟨c, cell⟩ := p
    rw [drawFrom, decodeFrom_between, decodeFrom_cons (hfree (c, cell) (by simp)),
      ih (fun p hp => hfree p (by simp [hp])) cell]
    rfl

end Markup

namespace CoverageSet

theorem decode_draw (set : CoverageSet) {document : Text} (composition : Composition) {m : Markup}
    (hfree : ∀ c ∈ document, c ∉ m.reserved) :
    m.decode (set.draw document composition m) =
      some (document.zip (set.cells document.length composition), none) := by
  refine Markup.decodeFrom_drawFrom (fun p hp => ?_) none
  exact hfree p.1 (List.of_mem_zip hp).1

/-- A document and its cells can be told from the pairs of a character and its cell. -/
theorem eq_of_zip_cells_eq {set set' : CoverageSet} {document document' : Text}
    {composition composition' : Composition}
    (h : document.zip (set.cells document.length composition) =
      document'.zip (set'.cells document'.length composition')) :
    document = document' ∧
      set.cells document.length composition = set'.cells document'.length composition' := by
  have hunzip := congrArg List.unzip h
  rw [List.unzip_zip length_cells.symm, List.unzip_zip length_cells.symm] at hunzip
  exact Prod.mk.inj hunzip

/-- A drawn document whose characters are not reserved for markers is read back as the document with
the cell of each of its characters, and with no marker open at its end. So documents that look the same
when they are drawn are the same, and are drawn in the same states. -/
theorem draw_uniquelyDecodable (m : Markup) {document document' : Text}
    (hfree : ∀ c ∈ document, c ∉ m.reserved) (hfree' : ∀ c ∈ document', c ∉ m.reserved)
    (set set' : CoverageSet) (composition composition' : Composition) :
    m.decode (set.draw document composition m) =
        some (document.zip (set.cells document.length composition), none) ∧
      (set.draw document composition m = set'.draw document' composition' m →
        document = document' ∧
          set.cells document.length composition = set'.cells document'.length composition') := by
  refine ⟨decode_draw set composition hfree, fun hdrawn => ?_⟩
  have hread := decode_draw set composition hfree
  rw [hdrawn, decode_draw set' composition' hfree', Option.some.injEq, Prod.mk.injEq] at hread
  exact eq_of_zip_cells_eq hread.1.symm

/-- Two sets that look the same: the one paints over itself, the other has two neighbours in one state. The
document begins with a space. -/
theorem draw_uniquelyDecodable_spaces :
    let document : Text := [' ', 'a', ' ', 'b']
    let set : CoverageSet := [⟨1, 5, .notExecuted⟩, ⟨1, 3, .executed⟩]
    let set' : CoverageSet := [⟨1, 2, .executed⟩, ⟨2, 3, .executed⟩, ⟨3, 5, .notExecuted⟩]
    (∀ c ∈ document, c ∉ Markup.plain.reserved) ∧
      set.draw document .last .plain =
        "\x7bcoverage-executed  a\x7d\x7bcoverage-not-executed  b\x7d".toList ∧
      set.draw document .last .plain = set'.draw document .first .plain ∧
      set.cells 4 .last = set'.cells 4 .first := by
  intro document set set'
  have hfree : ∀ c ∈ document, c ∉ Markup.plain.reserved := by simp [document, Markup.reserved]
  have hsame : set.draw document .last .plain = set'.draw document .first .plain := by decide
  exact ⟨hfree, by decide, hsame,
    ((draw_uniquelyDecodable .plain hfree hfree set set' .last .first).2 hsame).2⟩

end CoverageSet

end CoverageOverlay
