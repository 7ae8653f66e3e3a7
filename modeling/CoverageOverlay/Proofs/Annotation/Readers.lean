-- SUMMARY: Readers of the two listings: the text listing is read as its set and nothing else is, and the structured one says the same.
import CoverageOverlay.Command
import CoverageOverlay.Proofs.Annotation.Listing
import CoverageOverlay.Proofs.Json.Pretty

/-!
# Readers of listings

A reader of the text listing cuts it at line feeds, every line at its
tabulators, and the range at its two points. The numbers are 64-bit numerals
without zeros before other digits; the style token and the label must be those
of one state. So strict a reader accepts the listings and no other text, and
the set that it finds is the one that was listed: two sets with one listing are
the same set.

The structured listing is an array with one element for each annotation. A
reader that looks up the fields of the elements by their names finds the same
annotations there.
-/

namespace CoverageOverlay

/-- The pieces of a text between the occurrences of a character are the ones from which it is put
together, if the character occurs in none of them. -/
theorem Text.splitOn_eq_iff {c : Char} {t : Text} {pieces : List Text} (hne : pieces ≠ [])
    (hpieces : ∀ piece ∈ pieces, c ∉ piece) :
    t.splitOn c = pieces ↔ t = [c].intercalate pieces := by
  constructor
  · rintro rfl
    exact (List.intercalate_splitOn c).symm
  · rintro rfl
    exact List.splitOn_intercalate c hpieces hne

/-! ## States -/

namespace State

variable {s : State} {style label name : Text}

/-- The state with a style token and a label. -/
def ofWords? (style label : Text) : Option State :=
  all.find? fun s => style = s.style.toList ∧ label = s.label.toList

/-- The state with a name. -/
def ofName? (name : Text) : Option State :=
  all.find? fun s => name = s.name.toList

theorem ofWords?_eq_some_iff :
    ofWords? style label = some s ↔ style = s.style.toList ∧ label = s.label.toList := by
  constructor
  · intro h
    simpa using List.find?_some h
  · rintro ⟨rfl, rfl⟩
    cases s <;> rfl

theorem ofName?_eq_some_iff : ofName? name = some s ↔ name = s.name.toList := by
  constructor
  · intro h
    simpa using List.find?_some h
  · rintro rfl
    cases s <;> rfl

end State

/-! ## The text listing -/

namespace Annotation

variable {a : Annotation} {t line : Text} {parts : List Text} {start stop : UInt64}

/-- The positions of a range, which are parted by two points. -/
def range? (t : Text) : Option (UInt64 × UInt64) :=
  match t.splitOn '.' with
  | [start, [], stop] => do return (← Numeral.written? start, ← Numeral.written? stop)
  | _ => none

/-- The annotation with some fields in a listing. -/
def ofFields? : List Text → Option Annotation
  | [range, style, label] => do
    let (start, stop) ← range? range
    let state ← State.ofWords? style label
    return ⟨start, stop, state⟩
  | _ => none

/-- The annotation that a line of a listing stands for. -/
def ofLine? (line : Text) : Option Annotation :=
  ofFields? (line.splitOn '\t')

theorem range?_eq_some_iff :
    range? t = some (start, stop) ↔
      t = Numeral.ofNat start.toNat ++ '.' :: '.' :: Numeral.ofNat stop.toNat := by
  have hpoint (n : Nat) : '.' ∉ Numeral.ofNat n := fun hmem =>
    absurd (Numeral.isDigit_of_mem_ofNat hmem) (by decide)
  have hsplit : t.splitOn '.' = [Numeral.ofNat start.toNat, [], Numeral.ofNat stop.toNat] ↔
      t = Numeral.ofNat start.toNat ++ '.' :: '.' :: Numeral.ofNat stop.toNat := by
    rw [Text.splitOn_eq_iff (by simp) (by simp [hpoint])]
    simp [List.intercalate_cons_cons]
  rw [← hsplit, range?]
  split
  · next start' stop' hpieces =>
    simp [hpieces, Option.bind_eq_some_iff, Numeral.written?_eq_some_iff]
  · next hother =>
    simp only [reduceCtorEq, false_iff]
    exact hother _ _

theorem ofFields?_eq_some_iff : ofFields? parts = some a ↔ parts = a.fields := by
  obtain ⟨start, stop, state⟩ := a
  unfold ofFields?
  split
  · next range style label =>
    simp only [Option.bind_eq_bind, Option.bind_eq_some_iff, Option.pure_def, Option.some.injEq,
      Annotation.mk.injEq, range?_eq_some_iff, State.ofWords?_eq_some_iff, Prod.exists,
      fields, List.cons.injEq]
    constructor
    · rintro ⟨_, _, rfl, _, ⟨rfl, rfl⟩, rfl, rfl, rfl⟩
      exact ⟨rfl, rfl, rfl, trivial⟩
    · rintro ⟨rfl, rfl, rfl, -⟩
      exact ⟨start, stop, rfl, state, ⟨rfl, rfl⟩, rfl, rfl, rfl⟩
  · next hother =>
    simp only [reduceCtorEq, false_iff]
    exact hother _ _ _

theorem ofLine?_eq_some_iff : ofLine? line = some a ↔ line = a.line := by
  rw [ofLine?, ofFields?_eq_some_iff, Annotation.line,
    Text.splitOn_eq_iff (by simp [fields]) (not_mem_fields (.inl rfl) a)]

end Annotation

namespace CoverageSet

variable {set : CoverageSet} {pieces : List Text} {t : Text}

/-- The annotations of the lines of a listing, behind which an empty piece is left. -/
def ofPieces? : List Text → Option CoverageSet
  | [] => none
  | [[]] => some []
  | line :: rest => do return (← Annotation.ofLine? line) :: (← ofPieces? rest)

/-- The set that a text is the listing of. -/
def ofListing? (t : Text) : Option CoverageSet :=
  ofPieces? (t.splitOn '\n')

theorem ofPieces?_eq_some_iff :
    ofPieces? pieces = some set ↔ pieces = set.map Annotation.line ++ [[]] := by
  fun_induction ofPieces? pieces generalizing set with
  | case1 => simp
  | case2 =>
    rw [Option.some.injEq, List.self_eq_append_left, List.map_eq_nil_iff]
    exact eq_comm
  | case3 line rest hlast ih =>
    simp only [Option.bind_eq_bind, Option.bind_eq_some_iff, Option.pure_def, Option.some.injEq,
      Annotation.ofLine?_eq_some_iff, ih]
    constructor
    · rintro ⟨a, rfl, others, rfl, rfl⟩
      rfl
    · intro h
      cases set with
      | nil =>
        -- The pieces of an empty listing are one empty piece, which is no line.
        obtain ⟨rfl, rfl⟩ := List.cons.inj h
        exact (hlast rfl rfl).elim
      | cons a others =>
        obtain ⟨rfl, rfl⟩ := List.cons.inj h
        exact ⟨a, rfl, others, rfl, rfl⟩

/-- A listing has a line feed between its lines and one behind the last. -/
theorem listing_eq_intercalate (set : CoverageSet) :
    set.listing = ['\n'].intercalate (set.map Annotation.line ++ [[]]) := by
  induction set with
  | nil => rfl
  | cons a set ih =>
    rw [listing, List.flatMap_cons, ← listing, ih, a.listingLine_eq, List.map_cons, List.cons_append,
      List.intercalate_cons_of_ne_nil (by simp)]

/-- The text listing of a set is the one text that is read as the set. -/
theorem ofListing?_eq_some_iff : ofListing? t = some set ↔ t = set.listing := by
  have hline : ∀ piece ∈ set.map Annotation.line ++ [[]], '\n' ∉ piece := by
    rw [List.forall_mem_append, List.forall_mem_map]
    exact ⟨fun a _ => a.not_mem_line (.inl rfl), by simp⟩
  rw [ofListing?, ofPieces?_eq_some_iff, Text.splitOn_eq_iff (by simp) hline, listing_eq_intercalate]

theorem listing_injective {set set' : CoverageSet} (h : set.listing = set'.listing) : set = set' :=
  Option.some.inj ((ofListing?_eq_some_iff.2 rfl).symm.trans (ofListing?_eq_some_iff.2 h))

end CoverageSet

/-! ## The structured listing -/

namespace Json

/-- The value of a field of an object. -/
def field? (name : String) : Json → Option Json
  | object fields => fields.lookup name
  | _ => none

/-- The 64-bit number that a value is. -/
def word? : Json → Option UInt64
  | number n => if n < UInt64.size then some (UInt64.ofNat n) else none
  | _ => none

/-- The text that a value is. -/
def text? : Json → Option Text
  | string s => some s
  | _ => none

theorem word?_number (w : UInt64) : word? (number w.toNat) = some w := by
  rw [word?, if_pos w.toNat_lt, UInt64.ofNat_toNat]

end Json

namespace Annotation

/-- The annotation that an element of a structured listing stands for, by the names of its fields. -/
def ofJson? (item : Json) : Option Annotation := do
  let range ← item.field? "range"
  let start ← range.field? "start"
  let stop ← range.field? "end"
  let state ← item.field? "state"
  return ⟨← start.word?, ← stop.word?, ← State.ofName? (← state.text?)⟩

theorem ofJson?_toJson (a : Annotation) : ofJson? a.toJson = some a := by
  have hrange : a.toJson.field? "range" = some a.rangeJson := rfl
  have hstart : a.rangeJson.field? "start" = some (.number a.start.toNat) := rfl
  have hstop : a.rangeJson.field? "end" = some (.number a.stop.toNat) := rfl
  have hstate : a.toJson.field? "state" = some (.word a.state.name) := rfl
  have hname : State.ofName? a.state.name.toList = some a.state := State.ofName?_eq_some_iff.2 rfl
  simp [ofJson?, hrange, hstart, hstop, hstate, Json.word?_number, Json.word, Json.text?, hname]

end Annotation

namespace CoverageSet

/-- The elements of a structured listing are read as the annotations of its set. -/
theorem mapM_ofJson? (set : CoverageSet) :
    (set.map Annotation.toJson).mapM Annotation.ofJson? = some set := by
  have hread : Annotation.ofJson? ∘ Annotation.toJson = some := funext Annotation.ofJson?_toJson
  rw [List.mapM_map, hread]
  exact List.mapM_pure.trans (congrArg some set.map_id)

/-- A listing loses nothing. The text listing of a set is the one text that is read as the set, by its
line feeds, tabulators and points, so sets with one listing are equal. The structured listing is that of
one array, and from the fields of its elements the same annotations are read. -/
theorem listing_losesNothing :
    (∀ (t : Text) (set : CoverageSet), ofListing? t = some set ↔ t = Command.listing set .text) ∧
    (∀ set set' : CoverageSet, Command.listing set .text = Command.listing set' .text ↔ set = set') ∧
    ∀ set : CoverageSet, ∃ items : List Json,
      (∀ json : Json, json.pretty ++ ['\n'] = Command.listing set .json ↔ json = .array items) ∧
      items.mapM Annotation.ofJson? = ofListing? (Command.listing set .text) := by
  refine ⟨fun t set => ofListing?_eq_some_iff, fun set set' => ?_, fun set => ?_⟩
  · exact ⟨listing_injective, fun h => congrArg listing h⟩
  · refine ⟨set.map Annotation.toJson, fun json => ?_, ?_⟩
    · rw [Command.listing, List.append_left_inj]
      exact ⟨Json.pretty_injective, fun h => congrArg Json.pretty h⟩
    · rw [mapM_ofJson?]
      exact (ofListing?_eq_some_iff.2 rfl).symm

end CoverageSet

end CoverageOverlay
