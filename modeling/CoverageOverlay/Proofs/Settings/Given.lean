-- SUMMARY: Which settings a text gives, which texts are malformed, and what loading the settings file comes to.
import CoverageOverlay.Proofs.Text.Strict
import CoverageOverlay.Proofs.Toml.Distinct
import CoverageOverlay.Settings.Load
import Mathlib.Data.List.Forall2

/-!
# Settings that are given

A settings text is valid if it is well-formed and each entry of its top table
is one of four keys with a value of the kind that the key asks for. A valid text
gives settings: what its entries say, and the standard for the keys that it does
not have. A malformed text gives none; there is nothing in between. So a
settings file that is there and out of order stops whoever loads it.
-/

namespace CoverageOverlay.Settings

open Toml

/-! ## Values -/

/-- A value is a string. -/
inductive IsString : Node → Text → Prop
  | string (value : Text) (span : Span) : IsString (.string value span) value

/-- A value is a sequence of other values: an array, or the tables that share a header. -/
inductive IsSequence : Node → List Node → Prop
  | array (items : List Node) (span : Span) : IsSequence (.array items span) items
  | tables (elements : List Node) : IsSequence (.tables elements) elements

/-- A value is a sequence of strings. -/
def AreStrings (node : Node) (values : List Text) : Prop :=
  ∃ items, IsSequence node items ∧ List.Forall₂ IsString items values

/-- A composition has a name. -/
inductive Named : Composition → Text → Prop
  | first : Named .first "first".toList
  | last : Named .last "last".toList

/-- A value is an array or a table with nothing in it. -/
inductive IsEmpty : Node → Prop
  | array (span : Span) : IsEmpty (.array [] span)
  | inline (span : Span) : IsEmpty (.inline [] span)
  | table (origin : Origin) (span : Option Span) : IsEmpty (.table origin [] span)

/-- A value is a table, between braces or spread over lines. -/
inductive IsTable : Node → Entries → Prop
  | inline (entries : Entries) (span : Span) : IsTable (.inline entries span) entries
  | table (origin : Origin) (entries : Entries) (span : Option Span) :
    IsTable (.table origin entries span) entries

/-- A value stands for a composition: it is the name of the composition, or a table in which the name is
the only key, with an empty value. -/
inductive IsComposition : Node → Composition → Prop
  | name {node : Node} {name : Text} {c : Composition} (hstring : IsString node name)
    (hname : Named c name) : IsComposition node c
  | element {node value : Node} {key : Key} {c : Composition} (htable : IsTable node [(key, value)])
    (hname : Named c key.name) (hempty : IsEmpty value) : IsComposition node c

/-! ## Texts -/

/-- An entry is one of the four, with a value of its kind. -/
@[mk_iff]
inductive Fits : Key × Node → Prop
  | composition {e : Key × Node} {c : Composition} (hkey : e.1.name = "composition".toList)
    (hvalue : IsComposition e.2 c) : Fits e
  | exclude {e : Key × Node} {values : List Text} (hkey : e.1.name = "exclude".toList)
    (hvalue : AreStrings e.2 values) : Fits e
  | «include» {e : Key × Node} {values : List Text} (hkey : e.1.name = "include".toList)
    (hvalue : AreStrings e.2 values) : Fits e
  | suffix {e : Key × Node} {value : Text} (hkey : e.1.name = "suffix".toList)
    (hvalue : IsString e.2 value) : Fits e

/-- A text is no settings text: it is not well-formed, or it has an entry that is not one of the four or
whose value is of another kind. -/
def Malformed (t : Text) : Prop :=
  ∀ entries, Toml.parse? t = some entries → ∃ e ∈ entries, ¬Fits e

/-- What a key with a kind of values sets: the value that it stands for, or the standard where the key is
not there. -/
def Sets {α : Type} (entries : Entries) (key : String) (Kind : Node → α → Prop) (standard a : α) :
    Prop :=
  (∃ e ∈ entries, e.1.name = key.toList ∧ Kind e.2 a) ∨
    (∀ e ∈ entries, e.1.name ≠ key.toList) ∧ a = standard

/-- Entries make settings out of others: every key sets its part, and there are no other keys. -/
@[mk_iff]
structure Makes (before : Settings) (entries : Entries) (after : Settings) : Prop where
  fits : ∀ e ∈ entries, Fits e
  composition : Sets entries "composition" IsComposition before.composition after.composition
  excluded : Sets entries "exclude" AreStrings before.excluded after.excluded
  included : Sets entries "include" AreStrings before.included after.included
  suffix : Sets entries "suffix" IsString before.suffix after.suffix

/-- A text gives settings: it is well-formed, and its entries make them out of those that hold where
nothing is said. -/
def Gives (t : Text) (s : Settings) : Prop :=
  ∃ entries, Toml.parse? t = some entries ∧
    Makes ⟨.last, ".cov".toList, [], []⟩ entries s

/-! ## Reading values -/

variable {node : Node} {s s' : Settings} {entries rest : Entries} {e : Key × Node} {t : Text}

theorem map_eq_ok_iff {α β ε : Type} {x : Except ε α} {f : α → β} {b : β} :
    x.map f = .ok b ↔ ∃ a, x = .ok a ∧ f a = b := by
  cases x <;> simp [Except.map]

theorem readString_eq_ok_iff {value : Text} : readString node = .ok value ↔ IsString node value := by
  constructor
  · intro h
    cases node <;> cases h
    exact .string value _
  · rintro ⟨_, _⟩
    rfl

theorem mapM_readString_eq_ok_iff {items : List Node} {values : List Text} :
    items.mapM readString = .ok values ↔ List.Forall₂ IsString items values := by
  induction items generalizing values with
  | nil =>
    rw [List.mapM_nil, List.forall₂_nil_left_iff]
    exact ⟨fun h => (Except.ok.inj h).symm, fun h => h ▸ rfl⟩
  | cons item items ih =>
    rw [List.mapM_cons, List.forall₂_cons_left_iff]
    constructor
    · intro h
      cases hitem : readString item with
      | error wrong => simp [hitem, bind, Except.bind] at h
      | ok value =>
        cases hitems : items.mapM readString with
        | error wrong => simp [hitem, hitems, bind, Except.bind] at h
        | ok more =>
          have hvalues : value :: more = values := by
            simpa [hitem, hitems, bind, Except.bind, pure, Except.pure] using h
          exact ⟨value, more, readString_eq_ok_iff.1 hitem, ih.1 hitems, hvalues.symm⟩
    · rintro ⟨value, more, hitem, hitems, rfl⟩
      rw [readString_eq_ok_iff.2 hitem, ih.2 hitems]
      rfl

theorem readStrings_eq_ok_iff {values : List Text} :
    readStrings node = .ok values ↔ AreStrings node values := by
  constructor
  · intro h
    cases node with
    | array items span => exact ⟨items, .array items span, mapM_readString_eq_ok_iff.1 h⟩
    | tables elements => exact ⟨elements, .tables elements, mapM_readString_eq_ok_iff.1 h⟩
    | _ => cases h
  · rintro ⟨items, hsequence, hitems⟩
    cases hsequence with
    | array _ span => exact mapM_readString_eq_ok_iff.2 hitems
    | tables _ => exact mapM_readString_eq_ok_iff.2 hitems

theorem readName_eq_ok_iff {name : Text} {span : Option Span} {c : Composition} :
    readName name span = .ok c ↔ Named c name := by
  constructor
  · intro h
    unfold readName at h
    split at h
    · next found hfind =>
      obtain rfl := Except.ok.inj h
      have hname : found.name.toList = name := by simpa using List.find?_some hfind
      subst hname
      cases found with
      | first => exact .first
      | last => exact .last
    · cases h
  · rintro ⟨⟩ <;> rfl

theorem checkEmpty_eq_ok_iff : checkEmpty node = .ok () ↔ IsEmpty node := by
  constructor
  · intro h
    cases node with
    | array items span => cases items <;> cases h; exact .array span
    | «inline» entries span => cases entries <;> cases h; exact .inline span
    | table origin entries span => cases entries <;> cases h; exact .table origin span
    | _ => cases h
  · rintro ⟨⟩ <;> rfl

theorem readElement_eq_ok_iff {span : Option Span} {c : Composition} :
    readElement entries span = .ok c ↔
      ∃ key value, entries = [(key, value)] ∧ Named c key.name ∧ IsEmpty value := by
  constructor
  · intro h
    unfold readElement at h
    split at h
    · cases h
    · next key value =>
      split at h
      · cases h
      · next c' hname =>
        obtain ⟨_, hempty, rfl⟩ := map_eq_ok_iff.1 h
        exact ⟨key, value, rfl, readName_eq_ok_iff.1 hname, checkEmpty_eq_ok_iff.1 hempty⟩
    · cases h
  · rintro ⟨key, value, rfl, hname, hempty⟩
    simp only [readElement, readName_eq_ok_iff.2 hname, checkEmpty_eq_ok_iff.2 hempty]
    rfl

theorem readComposition_eq_ok_iff {c : Composition} :
    readComposition node = .ok c ↔ IsComposition node c := by
  constructor
  · intro h
    cases node with
    | string name span => exact .name (.string name span) (readName_eq_ok_iff.1 h)
    | «inline» entries span =>
      obtain ⟨key, value, rfl, hname, hempty⟩ := readElement_eq_ok_iff.1 h
      exact .element (.inline _ span) hname hempty
    | table origin entries span =>
      obtain ⟨key, value, rfl, hname, hempty⟩ := readElement_eq_ok_iff.1 h
      exact .element (.table origin _ span) hname hempty
    | _ => cases h
  · rintro (⟨⟨name, span⟩, hname⟩ | ⟨htable, hname, hempty⟩)
    · exact readName_eq_ok_iff.2 hname
    · have hread : ∀ span, readElement [(_, _)] span = .ok c := fun span =>
        readElement_eq_ok_iff.2 ⟨_, _, rfl, hname, hempty⟩
      cases htable with
      | «inline» _ span => exact hread (some span)
      | table origin _ span => exact hread span

/-! ## Reading entries -/

theorem sets_singleton {α : Type} {key : String} {Kind : Node → α → Prop} {standard a : α} :
    Sets [e] key Kind standard a ↔
      e.1.name = key.toList ∧ Kind e.2 a ∨ e.1.name ≠ key.toList ∧ a = standard := by
  simp [Sets]

/-- What entries set is set one after the other, where no key is there twice. -/
theorem sets_cons_iff {α : Type} {key : String} {Kind : Node → α → Prop} {standard a : α}
    (hnew : ∀ e' ∈ rest, e'.1.name ≠ e.1.name) :
    Sets (e :: rest) key Kind standard a ↔
      ∃ b, Sets [e] key Kind standard b ∧ Sets rest key Kind b a := by
  constructor
  · rintro (⟨e', he', hkey, hkind⟩ | ⟨hnone, rfl⟩)
    · obtain rfl | he' := List.mem_cons.1 he'
      · exact ⟨a, sets_singleton.2 (.inl ⟨hkey, hkind⟩), .inr ⟨fun e he => hkey ▸ hnew e he, rfl⟩⟩
      · exact ⟨standard, sets_singleton.2 (.inr ⟨fun h => hnew e' he' (hkey.trans h.symm), rfl⟩),
          .inl ⟨e', he', hkey, hkind⟩⟩
    · obtain ⟨hfirst, hrest⟩ := List.forall_mem_cons.1 hnone
      exact ⟨a, sets_singleton.2 (.inr ⟨hfirst, rfl⟩), .inr ⟨hrest, rfl⟩⟩
  · rintro ⟨b, hfirst, ⟨e', he', hkey, hkind⟩ | ⟨hrest, rfl⟩⟩
    · exact .inl ⟨e', List.mem_cons_of_mem _ he', hkey, hkind⟩
    · rcases sets_singleton.1 hfirst with ⟨hkey, hkind⟩ | ⟨hother, rfl⟩
      · exact .inl ⟨e, List.mem_cons_self, hkey, hkind⟩
      · exact .inr ⟨List.forall_mem_cons.2 ⟨hother, hrest⟩, rfl⟩

theorem sets_nil_iff {α : Type} {key : String} {Kind : Node → α → Prop} {standard a : α} :
    Sets [] key Kind standard a ↔ a = standard := by
  simp [Sets]

/-- Without entries nothing changes. -/
theorem makes_nil_iff : Makes s [] s' ↔ s' = s := by
  constructor
  · intro h
    have hcomposition := sets_nil_iff.1 h.composition
    have hexcluded := sets_nil_iff.1 h.excluded
    have hincluded := sets_nil_iff.1 h.included
    have hsuffix := sets_nil_iff.1 h.suffix
    obtain ⟨composition, suffix, included, excluded⟩ := s'
    subst hcomposition hexcluded hincluded hsuffix
    rfl
  · rintro rfl
    exact ⟨by simp, sets_nil_iff.2 rfl, sets_nil_iff.2 rfl, sets_nil_iff.2 rfl, sets_nil_iff.2 rfl⟩

theorem makes_cons_iff (hnew : ∀ e' ∈ rest, e'.1.name ≠ e.1.name) {s'' : Settings} :
    Makes s (e :: rest) s'' ↔ ∃ s', Makes s [e] s' ∧ Makes s' rest s'' := by
  constructor
  · intro h
    obtain ⟨composition, hcomposition, hcomposition'⟩ := (sets_cons_iff hnew).1 h.composition
    obtain ⟨excluded, hexcluded, hexcluded'⟩ := (sets_cons_iff hnew).1 h.excluded
    obtain ⟨included, hincluded, hincluded'⟩ := (sets_cons_iff hnew).1 h.included
    obtain ⟨suffix, hsuffix, hsuffix'⟩ := (sets_cons_iff hnew).1 h.suffix
    refine ⟨⟨composition, suffix, included, excluded⟩, ⟨?_, hcomposition, hexcluded, hincluded, hsuffix⟩,
      ⟨fun e' he' => ?_, hcomposition', hexcluded', hincluded', hsuffix'⟩⟩
    · simpa using h.fits e List.mem_cons_self
    · exact h.fits e' (List.mem_cons_of_mem _ he')
  · rintro ⟨s', hfirst, hrest⟩
    exact ⟨List.forall_mem_cons.2 ⟨hfirst.fits e (List.mem_singleton_self e), hrest.fits⟩,
      (sets_cons_iff hnew).2 ⟨_, hfirst.composition, hrest.composition⟩,
      (sets_cons_iff hnew).2 ⟨_, hfirst.excluded, hrest.excluded⟩,
      (sets_cons_iff hnew).2 ⟨_, hfirst.included, hrest.included⟩,
      (sets_cons_iff hnew).2 ⟨_, hfirst.suffix, hrest.suffix⟩⟩

theorem readEntry_eq_ok_iff {key : Key} :
    s.readEntry key node = .ok s' ↔ Makes s [(key, node)] s' := by
  obtain ⟨composition, suffix, included, excluded⟩ := s'
  simp only [makes_iff, fits_iff, sets_singleton, List.forall_mem_singleton, readEntry]
  split_ifs with hcomposition hexclude hinclude hsuffix
  · have hread := @readComposition_eq_ok_iff node
    grind [map_eq_ok_iff]
  · have hread := @readStrings_eq_ok_iff node
    grind [map_eq_ok_iff]
  · have hread := @readStrings_eq_ok_iff node
    grind [map_eq_ok_iff]
  · have hread := @readString_eq_ok_iff node
    grind [map_eq_ok_iff]
  · grind

theorem readEntries_eq_ok_iff (hdistinct : entries.Distinct) :
    readEntries s entries = .ok s' ↔ Makes s entries s' := by
  induction entries generalizing s with
  | nil =>
    rw [makes_nil_iff]
    exact ⟨fun h => (Except.ok.inj h).symm, fun h => h ▸ rfl⟩
  | cons e rest ih =>
    obtain ⟨key, node⟩ := e
    obtain ⟨hnew, hrest⟩ := Entries.distinct_cons_iff.1 hdistinct
    rw [makes_cons_iff hnew, readEntries]
    simp only [← readEntry_eq_ok_iff, ← ih hrest]
    cases s.readEntry key node <;> simp

/-- An entry of the four sets something. -/
theorem Fits.exists_makes (h : Fits e) (s : Settings) : ∃ s', Makes s [e] s' := by
  obtain ⟨key, node⟩ := e
  cases h with
  | @composition composition hkey hvalue =>
    have hname : key.name = "composition".toList := hkey
    have hread : readComposition node = .ok composition := readComposition_eq_ok_iff.2 hvalue
    exact ⟨{ s with composition }, readEntry_eq_ok_iff.1 (by simp [readEntry, hname, hread, Except.map])⟩
  | @exclude excluded hkey hvalue =>
    have hname : key.name = "exclude".toList := hkey
    have hread : readStrings node = .ok excluded := readStrings_eq_ok_iff.2 hvalue
    exact ⟨{ s with excluded }, readEntry_eq_ok_iff.1 (by simp [readEntry, hname, hread, Except.map])⟩
  | @«include» included hkey hvalue =>
    have hname : key.name = "include".toList := hkey
    have hread : readStrings node = .ok included := readStrings_eq_ok_iff.2 hvalue
    exact ⟨{ s with included }, readEntry_eq_ok_iff.1 (by simp [readEntry, hname, hread, Except.map])⟩
  | @suffix suffix hkey hvalue =>
    have hname : key.name = "suffix".toList := hkey
    have hread : readString node = .ok suffix := readString_eq_ok_iff.2 hvalue
    exact ⟨{ s with suffix }, readEntry_eq_ok_iff.1 (by simp [readEntry, hname, hread, Except.map])⟩

/-- Entries of the four, none of them twice, make settings. -/
theorem exists_makes_iff (hdistinct : entries.Distinct) :
    (∃ s', Makes s entries s') ↔ ∀ e ∈ entries, Fits e := by
  refine ⟨fun ⟨_, hmakes⟩ => hmakes.fits, fun hfits => ?_⟩
  induction entries generalizing s with
  | nil => exact ⟨s, makes_nil_iff.2 rfl⟩
  | cons e rest ih =>
    obtain ⟨hnew, hrest⟩ := Entries.distinct_cons_iff.1 hdistinct
    obtain ⟨hfirst, hfits⟩ := List.forall_mem_cons.1 hfits
    obtain ⟨s₁, hs₁⟩ := hfirst.exists_makes s
    obtain ⟨s₂, hs₂⟩ := ih hrest hfits
    exact ⟨s₂, (makes_cons_iff hnew).2 ⟨s₁, hs₁, hs₂⟩⟩

/-! ## Reading texts -/

/-- A text gives settings, or else it is malformed. -/
theorem malformed_iff : Malformed t ↔ ∀ s, ¬Gives t s := by
  cases hparse : Toml.parse? t with
  | none => simp [Malformed, Gives, hparse]
  | some entries =>
    have hmakes : (∃ s, Makes standard entries s) ↔ ∀ e ∈ entries, Fits e :=
      exists_makes_iff (distinct_of_parse? hparse)
    have hgives : ∀ s, Gives t s ↔ Makes standard entries s := fun s => by
      simp only [Gives, hparse, Option.some.injEq, exists_eq_left']
      rfl
    simp only [Malformed, hgives, hparse, Option.some.injEq, forall_eq', ← not_exists, hmakes]
    simp

variable [Explains]

theorem parse_eq_ok_iff : parse t = .ok s ↔ Gives t s := by
  unfold parse
  split
  · next hparse => simp [Gives, hparse]
  · next entries hparse =>
    have hread : readEntries standard entries = .ok s ↔ Makes standard entries s :=
      readEntries_eq_ok_iff (distinct_of_parse? hparse)
    simp only [Gives, hparse, Option.some.injEq, exists_eq_left']
    refine Iff.trans ?_ hread
    cases readEntries standard entries <;> simp [Except.mapError]

/-- Reading a text that gives no settings fails; it does not fall back to any settings. -/
theorem exists_parse_eq_error_iff : (∃ explanation, parse t = .error explanation) ↔ Malformed t := by
  simp only [malformed_iff, ← parse_eq_ok_iff]
  cases parse t <;> simp

/-! ## Loading -/

/-- What loading the settings of a directory comes to, and when. Only where there is no settings file do
the standard ones hold without having been given. -/
inductive Finding (files : Files) (directory : Path) : Except Error Settings → Prop
  | absent (hread : files.read (directory.child fileName) = .error .notFound) :
    Finding files directory (.ok standard)
  | given {t : Text} {s : Settings}
    (hread : files.read (directory.child fileName) = .ok (Utf8.encode t)) (hgives : Gives t s) :
    Finding files directory (.ok s)
  | unreadable {fault : Fault} (hread : files.read (directory.child fileName) = .error fault)
    (hthere : fault ≠ .notFound) : Finding files directory (.error (.io fault))
  | notText {bytes : List UInt8} (hread : files.read (directory.child fileName) = .ok bytes)
    (htext : ∀ t, Utf8.encode t ≠ bytes) : Finding files directory (.error (.io .notText))
  | malformed {t explanation : Text}
    (hread : files.read (directory.child fileName) = .ok (Utf8.encode t)) (hmalformed : Malformed t)
    (hexplanation : parse t = .error explanation) :
    Finding files directory (.error (.settingsMalformed explanation))

variable {files : Files} {directory : Path}

theorem finding_load (files : Files) (directory : Path) :
    Finding files directory (load files directory).value := by
  cases hread : files.read (directory.child fileName) with
  | error fault =>
    by_cases hthere : fault = .notFound
    · subst hthere
      simp only [load, hread]
      exact .absent hread
    · simp only [load, hread]
      exact .unreadable hread hthere
  | ok bytes =>
    simp only [load, hread, ofBytes]
    cases htext : Utf8.decode? bytes with
    | none => exact .notText hread (Utf8.decode?_eq_none_iff.1 htext)
    | some t =>
      obtain rfl := Utf8.decode?_eq_some_iff.1 htext
      cases hparse : parse t with
      | error explanation =>
        simp only [hparse]
        exact .malformed hread (exists_parse_eq_error_iff.1 ⟨explanation, hparse⟩) hparse
      | ok s =>
        simp only [hparse]
        exact .given hread (parse_eq_ok_iff.1 hparse)

/-- There is one finding for each state of the files, the one that loading comes to. -/
theorem finding_iff {loaded : Except Error Settings} :
    Finding files directory loaded ↔ (load files directory).value = loaded := by
  refine ⟨fun h => ?_, fun h => h ▸ finding_load files directory⟩
  cases h with
  | absent hread => simp [load, hread]
  | given hread hgives =>
    simp [load, hread, ofBytes, Utf8.decode?_eq_some_iff.2 rfl, parse_eq_ok_iff.2 hgives]
  | unreadable hread _ => simp [load, hread]
  | notText hread htext => simp [load, hread, ofBytes, Utf8.decode?_eq_none_iff.2 htext]
  | malformed hread _ hexplanation =>
    simp [load, hread, ofBytes, Utf8.decode?_eq_some_iff.2 rfl, hexplanation]

theorem Finding.eq {a b : Except Error Settings} (ha : Finding files directory a)
    (hb : Finding files directory b) : a = b :=
  (finding_iff.1 ha).symm.trans (finding_iff.1 hb)

end CoverageOverlay.Settings
