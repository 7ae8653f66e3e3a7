-- SUMMARY: Names that a directory can hold, the steps of paths put together from them, and the order of these paths.
import Mathlib.Order.Defs.LinearOrder
import CoverageOverlay.Files.Tree

/-!
# Paths made of names

Below a directory a path goes on with names: no name is empty, a dot or two
dots, and none holds a slash. So the steps of such a path are the steps of the
directory and then the names, and its components are these names. The order of
paths, which is read off components, is on them the order of lists of names, and
not the order of the spellings: `a/b` comes before `a.b`, although a dot comes
before a slash.
-/

namespace CoverageOverlay

/-- A name that an entry of a directory can have. -/
structure Name.Allowed (n : Name) : Prop where
  ne_nil : n ≠ []
  ne_dot : n ≠ ['.']
  ne_dots : n ≠ ['.', '.']
  slash_not_mem : '/' ∉ n
  null_not_mem : ∀ c ∈ n, c.toNat ≠ 0
  short : Text.byteLength n ≤ FileTree.nameLimit

instance (n : Name) : Decidable (Name.Allowed n) :=
  decidable_of_iff
    (n ≠ [] ∧ n ≠ ['.'] ∧ n ≠ ['.', '.'] ∧ '/' ∉ n ∧ (n.all fun c => c.toNat ≠ 0) = true ∧
      Text.byteLength n ≤ FileTree.nameLimit)
    ⟨fun ⟨hnil, hdot, hdots, hslash, hnull, hshort⟩ =>
        ⟨hnil, hdot, hdots, hslash, by simpa using hnull, hshort⟩,
      fun ⟨hnil, hdot, hdots, hslash, hnull, hshort⟩ =>
        ⟨hnil, hdot, hdots, hslash, by simpa using hnull, hshort⟩⟩

namespace Name.Allowed

variable {n : Name}

theorem ofStep? (h : Allowed n) : Component.ofStep? n = some (.name n) := by
  simp [Component.ofStep?, h.ne_nil, h.ne_dot, h.ne_dots]

theorem head?_ne (h : Allowed n) : n.head? ≠ some '/' :=
  fun hhead => h.slash_not_mem (List.mem_of_mem_head? hhead)

theorem getLast?_ne (h : Allowed n) : n.getLast? ≠ some '/' :=
  fun hlast => h.slash_not_mem (List.mem_of_getLast? hlast)

theorem splitOn_eq (h : Allowed n) : n.splitOn '/' = [n] :=
  List.splitOn_eq_singleton h.slash_not_mem

end Name.Allowed

namespace Path

variable {p : Path} {n : Name} {names : List Name}

/-! ## Going on below a directory -/

/-- The text between whose slashes the steps stand. -/
def body (p : Path) : Text := if p.isAbsolute then p.chars.tail else p.chars

theorem steps_eq_splitOn (p : Path) : p.steps = p.body.splitOn '/' := rfl

theorem isAbsolute_append {t : Text} (hne : p.chars ≠ []) :
    Path.isAbsolute ⟨p.chars ++ t⟩ = p.isAbsolute := by
  obtain ⟨c, rest, hchars⟩ := List.exists_cons_of_ne_nil hne
  simp [isAbsolute, hchars]

theorem body_append {t : Text} (hne : p.chars ≠ []) : body ⟨p.chars ++ t⟩ = p.body ++ t := by
  simp only [body, isAbsolute_append hne]
  split
  · exact List.tail_append_of_ne_nil hne
  · rfl

/-- A path that a name can be put behind with a slash in between: it is not empty and does not end in a
slash. -/
structure Open (p : Path) : Prop where
  ne_nil : p.chars ≠ []
  getLast?_ne : p.chars.getLast? ≠ some '/'

theorem Open.child (h : p.Open) (n : Name) : p.child n = ⟨p.chars ++ '/' :: n⟩ := by
  simp [Path.child, h.ne_nil, h.getLast?_ne]

theorem open_append {t : Text} (hne : p.chars ≠ []) (hn : n.Allowed) :
    Open ⟨p.chars ++ t ++ n⟩ where
  ne_nil := by simp [hne]
  getLast?_ne := by
    rw [List.getLast?_append, List.getLast?_eq_some_getLast hn.ne_nil, Option.some_or,
      ← List.getLast?_eq_some_getLast]
    exact hn.getLast?_ne

theorem Open.open_child (h : p.Open) (hn : n.Allowed) : (p.child n).Open := by
  rw [h.child, List.append_cons]
  exact open_append h.ne_nil hn

theorem Open.steps_child (h : p.Open) (hn : n.Allowed) : (p.child n).steps = p.steps ++ [n] := by
  rw [steps_eq_splitOn, h.child, body_append h.ne_nil, List.splitOn_append_cons_self, hn.splitOn_eq,
    steps_eq_splitOn]

theorem Open.steps_descend (h : p.Open) (hnames : ∀ n ∈ names, n.Allowed) :
    (p.descend names).steps = p.steps ++ names := by
  induction names generalizing p with
  | nil => simp [descend]
  | cons n rest ih =>
    have hn : n.Allowed := hnames n List.mem_cons_self
    have hrest : ∀ n ∈ rest, n.Allowed := fun m hm => hnames m (List.mem_cons_of_mem _ hm)
    have hstep : (p.child n).steps = p.steps ++ [n] := h.steps_child hn
    have hrun : ((p.child n).descend rest).steps = (p.child n).steps ++ rest :=
      ih (h.open_child hn) hrest
    rw [descend, List.foldl_cons, ← descend, hrun, hstep, List.append_assoc, List.singleton_append]

/-- What is below a path has a longer spelling. -/
theorem prefix_descend (p : Path) (names : List Name) : p.chars <+: (p.descend names).chars := by
  induction names generalizing p with
  | nil => exact List.prefix_rfl
  | cons n rest ih =>
    have hchild : p.chars <+: (p.child n).chars := by
      unfold child
      split <;> exact List.prefix_append ..
    exact hchild.trans (ih (p.child n))

theorem isAbsolute_descend (hne : p.chars ≠ []) (names : List Name) :
    (p.descend names).isAbsolute = p.isAbsolute := by
  obtain ⟨rest, hrest⟩ := prefix_descend p names
  rw [← isAbsolute_append hne, hrest]

/-- A name put behind a slash takes the place of the empty step there. The slash may be the one at the
top. -/
theorem exists_steps_child (hlast : p.chars.getLast? = some '/') :
    ∃ head, p.steps = head ++ [[]] ∧ ∀ n : Name, n.Allowed → (p.child n).steps = head ++ [n] := by
  have hne : p.chars ≠ [] := fun hnil => by simp [hnil] at hlast
  have hchild (m : Name) : body (p.child m) = p.body ++ m := by
    have hchars : p.child m = ⟨p.chars ++ m⟩ := by simp [child, hlast]
    rw [hchars, body_append hne]
  have hbody : p.body = [] ∨ ∃ before, p.body = before ++ ['/'] := by
    obtain ⟨before, hchars⟩ := List.getLast?_eq_some_iff.1 hlast
    cases habsolute : p.isAbsolute with
    | false => exact .inr ⟨before, by rw [body, habsolute, hchars]; rfl⟩
    | true =>
      cases before with
      | nil => exact .inl (by simp [body, habsolute, hchars])
      | cons c before => exact .inr ⟨before, by simp [body, habsolute, hchars]⟩
  rcases hbody with hbody | ⟨before, hbody⟩
  · refine ⟨[], by rw [steps_eq_splitOn, hbody]; rfl, fun m hm => ?_⟩
    rw [steps_eq_splitOn, hchild, hbody, List.nil_append, hm.splitOn_eq, List.nil_append]
  · refine ⟨before.splitOn '/', ?_, fun m hm => ?_⟩
    · rw [steps_eq_splitOn, hbody, List.splitOn_append_cons_self]
      rfl
    · rw [steps_eq_splitOn, hchild, hbody, List.append_assoc, List.singleton_append,
        List.splitOn_append_cons_self, hm.splitOn_eq]

/-- Below a directory the steps of a path are those of the directory, without an empty one at the end,
and then the names. -/
theorem exists_steps_descend (hne : p.chars ≠ []) :
    ∃ head last, (last = [] ∨ last = [[]]) ∧ p.steps = head ++ last ∧
      ∀ names ≠ [], (∀ n ∈ names, n.Allowed) → (p.descend names).steps = head ++ names := by
  by_cases hlast : p.chars.getLast? = some '/'
  · obtain ⟨head, hsteps, hchild⟩ := exists_steps_child hlast
    refine ⟨head, [[]], .inr rfl, hsteps, fun names hnames hallowed => ?_⟩
    obtain ⟨n, rest, rfl⟩ := List.exists_cons_of_ne_nil hnames
    have hn : n.Allowed := hallowed n List.mem_cons_self
    have hopen : (p.child n).Open := by
      have hchars : p.child n = ⟨p.chars ++ [] ++ n⟩ := by simp [child, hlast]
      exact hchars ▸ open_append hne hn
    have hrest := hopen.steps_descend fun m hm => hallowed m (List.mem_cons_of_mem _ hm)
    rw [descend, List.foldl_cons, ← descend, hrest, hchild n hn, List.append_assoc,
      List.singleton_append]
  · exact ⟨p.steps, [], .inl rfl, (List.append_nil _).symm, fun names _ hallowed =>
      Open.steps_descend ⟨hne, hlast⟩ hallowed⟩

/-! ## Paths of names -/

theorem ofNames_cons_cons (n m : Name) (rest : List Name) :
    ofNames (n :: m :: rest) = ⟨n ++ '/' :: (ofNames (m :: rest)).chars⟩ := by
  simp [ofNames]

theorem ofNames_ne_nil (hne : names ≠ []) (hnames : ∀ n ∈ names, n.Allowed) :
    (ofNames names).chars ≠ [] := by
  cases names with
  | nil => exact absurd rfl hne
  | cons n rest =>
    have hn := (hnames n List.mem_cons_self).ne_nil
    cases rest <;> simp [ofNames, hn]

theorem isAbsolute_ofNames (hnames : ∀ n ∈ names, n.Allowed) :
    (ofNames names).isAbsolute = false := by
  cases names with
  | nil => rfl
  | cons n rest =>
    have hn : n.Allowed := hnames n List.mem_cons_self
    obtain ⟨c, tail, rfl⟩ := List.exists_cons_of_ne_nil hn.ne_nil
    have hc : c ≠ '/' := fun h => hn.head?_ne (h ▸ rfl)
    cases rest <;> simp [ofNames, isAbsolute, hc]

/-- Below a directory a path goes on with a slash and the path of the names. -/
theorem Open.descend_eq (h : p.Open) (hne : names ≠ []) (hnames : ∀ n ∈ names, n.Allowed) :
    p.descend names = ⟨p.chars ++ '/' :: (ofNames names).chars⟩ := by
  induction names generalizing p with
  | nil => exact absurd rfl hne
  | cons n rest ih =>
    have hn : n.Allowed := hnames n List.mem_cons_self
    cases rest with
    | nil => simp [descend, h.child, ofNames]
    | cons m rest =>
      have hrest := ih (h.open_child hn) (List.cons_ne_nil m rest) fun k hk =>
        hnames k (List.mem_cons_of_mem n hk)
      rw [descend, List.foldl_cons, ← descend, hrest, h.child, ofNames_cons_cons]
      simp

/-! ## Components of names -/

theorem filterMap_ofStep? (hnames : ∀ n ∈ names, n.Allowed) :
    names.filterMap Component.ofStep? = names.map .name := by
  induction names with
  | nil => rfl
  | cons n rest ih =>
    rw [List.filterMap_cons_some (hnames n List.mem_cons_self).ofStep?,
      ih fun m hm => hnames m (List.mem_cons_of_mem _ hm), List.map_cons]

theorem components_ofNames (hnames : ∀ n ∈ names, n.Allowed) :
    (ofNames names).components = names.map .name := by
  cases names with
  | nil => rfl
  | cons n rest =>
    have hn : n.Allowed := hnames n List.mem_cons_self
    have hrelative := isAbsolute_ofNames hnames
    have hsteps : (ofNames (n :: rest)).steps = n :: rest := by
      simp only [steps, hrelative]
      exact List.splitOn_intercalate '/' (fun m hm => (hnames m hm).slash_not_mem) (by simp)
    have hanchor : (ofNames (n :: rest)).anchor = [] := by
      simp [anchor, hrelative, hsteps, hn.ne_dot]
    rw [components, hanchor, hsteps, List.nil_append, filterMap_ofStep? hnames]

/-! ## Order -/

/-- A comparison of keys tells where the order `<` puts the things that have these keys. -/
structure Tells [LT α] (cmp : β → β → Ordering) (key : α → β) : Prop where
  lt_iff : ∀ a b, cmp (key a) (key b) = .lt ↔ a < b
  eq_iff : ∀ a b, cmp (key a) (key b) = .eq ↔ a = b

theorem Tells.map [LT α] {cmp : β → β → Ordering} {key : α → β} (h : Tells cmp key) :
    Tells (List.compareLex cmp) (List.map key) where
  lt_iff l m := by
    induction l generalizing m with
    | nil => cases m <;> simp [List.compareLex]
    | cons a l ih =>
      cases m with
      | nil => simp [List.compareLex]
      | cons b m =>
        simp [List.compareLex_cons_cons, Ordering.then_eq_lt, h.lt_iff, h.eq_iff, ih,
          List.cons_lt_cons_iff]
  eq_iff l m := by
    induction l generalizing m with
    | nil => cases m <;> simp [List.compareLex]
    | cons a l ih =>
      cases m with
      | nil => simp [List.compareLex]
      | cons b m =>
        simp [List.compareLex_cons_cons, Ordering.then_eq_eq, h.eq_iff, ih]

theorem tells_toNat : Tells (fun m n => compareOfLessAndEq m n) Char.toNat where
  lt_iff c d := by
    rw [compareOfLessAndEq_eq_lt]
    rfl
  eq_iff c d := by
    rw [compareOfLessAndEq_eq_eq Nat.le_refl Nat.not_le, Char.toNat_inj]

theorem tells_name :
    Tells (List.compareLex fun m n => compareOfLessAndEq m n) fun n : Name =>
      (Component.name n).key where
  lt_iff m n := tells_toNat.map.lt_iff m n
  eq_iff m n := tells_toNat.map.eq_iff m n

/-- Paths made of names are ordered as the lists of their names. -/
theorem le_ofNames_iff {others : List Name} (hnames : ∀ n ∈ names, n.Allowed)
    (hothers : ∀ n ∈ others, n.Allowed) :
    (ofNames names).le (ofNames others) = true ↔ names < others ∨ names = others := by
  simp only [le, key, components_ofNames hnames, components_ofNames hothers, List.map_map,
    Ordering.isLE_iff_eq_lt_or_eq_eq]
  exact or_congr (tells_name.map.lt_iff names others) (tells_name.map.eq_iff names others)

end Path

end CoverageOverlay
