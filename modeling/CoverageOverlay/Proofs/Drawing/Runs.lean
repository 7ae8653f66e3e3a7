-- SUMMARY: A drawn document is its maximal runs one after the other, each between the markers of its state.
import Mathlib.Data.List.Chain
import CoverageOverlay.Drawing.Markup
import CoverageOverlay.Proofs.Drawing.Cells

/-!
# Maximal runs

Characters that stand side by side and are drawn in one cell make a run. A
document can be cut into runs in many ways, but in one way only if neighbours
must differ, so that no run could be longer. Drawing goes through the
characters one by one and knows no more than the cell of the character before.
What it writes is this one division: run by run the text, and where the run has
a state, a marker before it and a marker behind it.
-/

namespace CoverageOverlay

/-- Characters that stand side by side and are drawn in one cell. -/
structure Run where
  cell : Cell
  text : Text
deriving DecidableEq, Repr

namespace Run

/-- The characters of a run, each with the cell of the run. -/
def characters (r : Run) : List (Char × Cell) :=
  r.text.map fun c => (c, r.cell)

/-- A run as it is drawn: its text alone, or its text between the two markers of its state. -/
def drawn (m : Markup) (r : Run) : Text :=
  match r.cell with
  | none => r.text
  | some s => m.opening s ++ r.text ++ m.closing

/-- A run is drawn with what opens its cell before it and what closes its cell behind it. -/
theorem drawn_eq (m : Markup) (r : Run) :
    r.drawn m = m.openRun r.cell ++ r.text ++ m.closeRun r.cell := by
  obtain ⟨_ | s, text⟩ := r
  · simp [drawn, Markup.openRun, Markup.closeRun]
  · rfl

/-- Some runs make up a document whose characters are drawn in the given cells. No run is empty, and
none could be longer. -/
structure Divide (runs : List Run) (document : Text) (cells : List Cell) : Prop where
  text_eq : runs.flatMap text = document
  cells_eq : (runs.flatMap fun r => List.replicate r.text.length r.cell) = cells
  nonempty : ∀ r ∈ runs, r.text ≠ []
  maximal : runs.IsChain fun r s => r.cell ≠ s.cell

/-! ## The one division -/

/-- Put a character before some runs: the first run gets longer, or there is a new one. -/
def prepend (c : Char) (cell : Cell) : List Run → List Run
  | [] => [⟨cell, [c]⟩]
  | r :: runs =>
    if r.cell = cell then ⟨cell, c :: r.text⟩ :: runs else ⟨cell, [c]⟩ :: r :: runs

/-- The maximal runs of some characters with their cells. -/
def ofCharacters : List (Char × Cell) → List Run
  | [] => []
  | (c, cell) :: rest => prepend c cell (ofCharacters rest)

variable {runs : List Run} {document : Text} {cells : List Cell} {r : Run} {c : Char} {cell : Cell}
  {rest : List (Char × Cell)}

theorem prepend_of_eq (c : Char) (r : Run) (runs : List Run) :
    prepend c r.cell (r :: runs) = ⟨r.cell, c :: r.text⟩ :: runs := by
  simp [prepend]

theorem prepend_of_ne (h : ∀ r ∈ runs.head?, cell ≠ r.cell) :
    prepend c cell runs = ⟨cell, [c]⟩ :: runs := by
  cases runs with
  | nil => rfl
  | cons r runs =>
    have hne : cell ≠ r.cell := h r (by simp)
    simp [prepend, hne.symm]

/-- One more character before a division is one more character before its document. -/
theorem Divide.prepend (h : Divide runs document cells) (c : Char) (cell : Cell) :
    Divide (prepend c cell runs) (c :: document) (cell :: cells) := by
  obtain ⟨rfl, rfl, hnonempty, hmaximal⟩ := h
  by_cases hsame : ∃ r ∈ runs.head?, r.cell = cell
  · obtain ⟨r, hr, rfl⟩ := hsame
    obtain ⟨more, rfl⟩ := List.head?_eq_some_iff.1 hr
    obtain ⟨-, hrest⟩ := List.forall_mem_cons.1 hnonempty
    rw [prepend_of_eq]
    refine ⟨by simp, by simp [List.replicate_succ], ?_, ?_⟩
    · exact List.forall_mem_cons.2 ⟨List.cons_ne_nil _ _, hrest⟩
    · rw [List.isChain_cons] at hmaximal ⊢
      exact hmaximal
  · have hne : ∀ r ∈ runs.head?, cell ≠ r.cell := fun r hr h => hsame ⟨r, hr, h.symm⟩
    rw [prepend_of_ne hne]
    refine ⟨by simp, by simp, ?_, ?_⟩
    · exact List.forall_mem_cons.2 ⟨List.cons_ne_nil _ _, hnonempty⟩
    · exact List.isChain_cons.2 ⟨hne, hmaximal⟩

theorem divide_ofCharacters (characters : List (Char × Cell)) :
    Divide (ofCharacters characters) (characters.map Prod.fst) (characters.map Prod.snd) := by
  induction characters with
  | nil => exact ⟨rfl, rfl, by simp [ofCharacters], .nil⟩
  | cons p rest ih => exact ih.prepend p.1 p.2

/-- A run before characters that do not go on in its cell is the first one of their runs. -/
theorem ofCharacters_append (hne : r.text ≠ [])
    (hrest : ∀ s ∈ (ofCharacters rest).head?, r.cell ≠ s.cell) :
    ofCharacters (r.characters ++ rest) = r :: ofCharacters rest := by
  obtain ⟨cell, text⟩ := r
  induction text with
  | nil => exact absurd rfl hne
  | cons c text ih =>
    have hcons : ofCharacters ((⟨cell, c :: text⟩ : Run).characters ++ rest) =
        prepend c cell (ofCharacters ((⟨cell, text⟩ : Run).characters ++ rest)) := rfl
    rw [hcons]
    by_cases hnil : text = []
    · rw [hnil]
      exact prepend_of_ne hrest
    · rw [ih hnil hrest]
      exact prepend_of_eq c ⟨cell, text⟩ _

/-- The characters of a document with their cells are those of the runs that divide it. -/
theorem Divide.zip_eq (h : Divide runs document cells) :
    document.zip cells = runs.flatMap characters := by
  obtain ⟨rfl, rfl, -, -⟩ := h
  induction runs with
  | nil => rfl
  | cons r runs ih =>
    have hrun : r.text.zip (List.replicate r.text.length r.cell) = r.characters := by
      rw [characters, List.map_prod_left_eq_zip, List.map_const']
    simp only [List.flatMap_cons]
    rw [List.zip_append (by simp), hrun, ih]

/-- A division is made of the maximal runs of its characters, so there is no other one. -/
theorem Divide.eq_ofCharacters (h : Divide runs document cells) :
    runs = ofCharacters (document.zip cells) := by
  rw [h.zip_eq]
  obtain ⟨-, -, hnonempty, hmaximal⟩ := h
  induction runs with
  | nil => rfl
  | cons r runs ih =>
    obtain ⟨hr, hrest⟩ := List.forall_mem_cons.1 hnonempty
    obtain ⟨hfirst, hlater⟩ := List.isChain_cons.1 hmaximal
    have hruns := ih hrest hlater
    rw [hruns] at hfirst
    rw [List.flatMap_cons, ofCharacters_append hr hfirst, ← hruns]

end Run

/-! ## Drawing -/

namespace Markup

variable {m : Markup} {before : Cell} {runs : List Run} {document : Text} {cells : List Cell}

/-- Inside a run only characters are written. -/
theorem drawFrom_same (m : Markup) (cell : Cell) (text : Text) (rest : List (Char × Cell)) :
    m.drawFrom cell ((⟨cell, text⟩ : Run).characters ++ rest) = text ++ m.drawFrom cell rest := by
  induction text with
  | nil => rfl
  | cons c text ih =>
    have hsame : m.between cell cell = [] := if_pos rfl
    calc m.drawFrom cell ((⟨cell, c :: text⟩ : Run).characters ++ rest)
        = m.between cell cell ++ c :: m.drawFrom cell ((⟨cell, text⟩ : Run).characters ++ rest) := rfl
      _ = c :: text ++ m.drawFrom cell rest := by rw [hsame, ih]; rfl

/-- Where a run does not go on, it is closed, and the next one is opened. -/
theorem between_eq (h : cell = before → before = none) :
    m.between before cell = m.closeRun before ++ m.openRun cell := by
  rw [between]
  split
  · next hsame =>
    obtain rfl := h hsame
    rw [hsame]
    rfl
  · rfl

/-- Behind a cell with which no run of a division goes on, the division is drawn run by run. -/
theorem drawFrom_flatMap (hnonempty : ∀ r ∈ runs, r.text ≠ [])
    (hmaximal : runs.IsChain fun r s => r.cell ≠ s.cell)
    (hbefore : ∀ r ∈ runs.head?, r.cell = before → before = none) :
    m.drawFrom before (runs.flatMap Run.characters) =
      m.closeRun before ++ runs.flatMap (Run.drawn m) := by
  induction runs generalizing before with
  | nil => exact between_eq fun h => h.symm
  | cons r runs ih =>
    obtain ⟨cell, text⟩ := r
    obtain ⟨hr, hrest⟩ := List.forall_mem_cons.1 hnonempty
    obtain ⟨hfirst, hlast⟩ := List.isChain_cons.1 hmaximal
    obtain ⟨c, text, rfl⟩ := List.exists_cons_of_ne_nil hr
    have hopen : m.between before cell = m.closeRun before ++ m.openRun cell :=
      between_eq (hbefore ⟨cell, c :: text⟩ rfl)
    have hlater : m.drawFrom cell (runs.flatMap Run.characters) =
        m.closeRun cell ++ runs.flatMap (Run.drawn m) :=
      ih hrest hlast fun s hs hsame => absurd hsame.symm (hfirst s hs)
    calc m.drawFrom before (((⟨cell, c :: text⟩ : Run) :: runs).flatMap Run.characters)
        = m.between before cell ++
            c :: m.drawFrom cell ((⟨cell, text⟩ : Run).characters ++ runs.flatMap Run.characters) := rfl
      _ = m.closeRun before ++ m.openRun cell ++
            c :: (text ++ (m.closeRun cell ++ runs.flatMap (Run.drawn m))) := by
          rw [hopen, drawFrom_same, hlater]
      _ = m.closeRun before ++ ((⟨cell, c :: text⟩ : Run) :: runs).flatMap (Run.drawn m) := by
          simp [Run.drawn_eq]

end Markup

namespace CoverageSet

/-- There is one division of a document into maximal runs of characters in one cell. What is drawn, in
whichever markup, are these runs in their order: a run without a state is its text, any other one is its
text with the opening marker of the state before it and the closing marker behind it. -/
theorem draw_maximalRuns (set : CoverageSet) (document : Text) (composition : Composition) :
    ∃ runs, Run.Divide runs document (set.cells document.length composition) ∧
      (∀ other, Run.Divide other document (set.cells document.length composition) → other = runs) ∧
      ∀ m : Markup, set.draw document composition m = runs.flatMap (Run.drawn m) := by
  let characters := document.zip (set.cells document.length composition)
  have hlength : document.length = (set.cells document.length composition).length :=
    length_cells.symm
  have hdivide : Run.Divide (Run.ofCharacters characters) document
      (set.cells document.length composition) := by
    have hruns := Run.divide_ofCharacters characters
    rwa [List.map_fst_zip hlength.le, List.map_snd_zip hlength.ge] at hruns
  refine ⟨Run.ofCharacters characters, hdivide, fun other hother => hother.eq_ofCharacters,
    fun m => ?_⟩
  calc set.draw document composition m
      = m.drawFrom none ((Run.ofCharacters characters).flatMap Run.characters) := by
        rw [← hdivide.zip_eq]
        rfl
    _ = (Run.ofCharacters characters).flatMap (Run.drawn m) :=
        Markup.drawFrom_flatMap hdivide.nonempty hdivide.maximal fun _ _ _ => rfl

end CoverageSet

end CoverageOverlay
