-- SUMMARY: Sets of characters as ranges of code points, and their operations.
import CoverageOverlay.Text.Basic

/-!
# Character sets

A set of characters is the list of its ranges of code points. The operations
give ranges in order that neither overlap nor touch each other, whatever the
order of the ranges that they are given.
-/

namespace CoverageOverlay

/-- A set of characters. -/
structure CharSet where
  /-- The first and last code points of its ranges. -/
  ranges : List (Nat × Nat)
deriving DecidableEq, Repr, Inhabited

namespace CharSet

/-- Whether a code point is in a set. -/
def has (s : CharSet) (n : Nat) : Bool :=
  s.ranges.any fun (first, last) => first ≤ n && n ≤ last

/-- Whether a character is in a set. -/
def contains (s : CharSet) (c : Char) : Bool :=
  s.has c.toNat

/-- Whether every character of a set is below U+0080. -/
def isAscii (s : CharSet) : Bool :=
  s.ranges.all fun (_, last) => last ≤ 0x7F

/-! ## Normal form -/

/-- Join the range from `first` to `last` with the ranges that overlap or touch it. The ranges that
follow begin nowhere before `first` and are in order. -/
def joinFrom (first last : Nat) : List (Nat × Nat) → List (Nat × Nat)
  | [] => [(first, last)]
  | (a, b) :: rest =>
    if a ≤ last + 1 then joinFrom first (max last b) rest
    else (first, last) :: joinFrom a b rest

/-- Join ranges that are in order. -/
def join : List (Nat × Nat) → List (Nat × Nat)
  | [] => []
  | (first, last) :: rest => joinFrom first last rest

/-- The set of the code points in some ranges. -/
def ofRanges (ranges : List (Nat × Nat)) : CharSet :=
  ⟨join ((ranges.filter fun (first, last) => first ≤ last).mergeSort fun a b => a.1 ≤ b.1)⟩

/-! ## Operations -/

/-- The set without characters. -/
def empty : CharSet := ⟨[]⟩

/-- The set of one character. -/
def single (c : Char) : CharSet := ⟨[(c.toNat, c.toNat)]⟩

/-- The greatest code point. -/
def maxCode : Nat := 0x10FFFF

/-- The set of all characters. -/
def all : CharSet := ⟨[(0, maxCode)]⟩

/-- The characters of either set. -/
def union (s t : CharSet) : CharSet :=
  ofRanges (s.ranges ++ t.ranges)

/-- The gaps from `start` to `last` between ranges in order. -/
def gaps (start last : Nat) : List (Nat × Nat) → List (Nat × Nat)
  | [] => if start ≤ last then [(start, last)] else []
  | (a, b) :: rest =>
    if start < a then (start, a - 1) :: gaps (b + 1) last rest
    else gaps (max start (b + 1)) last rest

/-- The code points up to `last` that are not in a set. -/
def complementTo (last : Nat) (s : CharSet) : CharSet :=
  ⟨gaps 0 last s.ranges⟩

/-- The characters that are not in a set. -/
def complement (s : CharSet) : CharSet :=
  s.complementTo maxCode

/-- The characters of both sets. -/
def inter (s t : CharSet) : CharSet :=
  (s.complement.union t.complement).complement

/-- The characters of the first set that are not in the second. -/
def diff (s t : CharSet) : CharSet :=
  s.inter t.complement

/-- The characters that are in one of the sets only. -/
def symmDiff (s t : CharSet) : CharSet :=
  (s.diff t).union (t.diff s)

/-- A set with every group of code points of which it holds one. -/
def closeUnder (groups : List (List Nat)) (s : CharSet) : CharSet :=
  let met := groups.filter fun group => group.any s.has
  ofRanges (s.ranges ++ met.flatMap fun group => group.map fun n => (n, n))

/-! ## Membership -/

@[simp] theorem has_empty (n : Nat) : empty.has n = false := rfl

@[simp] theorem has_single (c : Char) (n : Nat) : (single c).has n = true ↔ n = c.toNat := by
  simp only [has, single, List.any_cons, List.any_nil, Bool.or_false, Bool.and_eq_true,
    decide_eq_true_eq]
  omega

theorem has_joinFrom {first last n : Nat} {rest : List (Nat × Nat)} (hle : first ≤ last)
    (hfirst : ∀ r ∈ rest, first ≤ r.1) (hsorted : rest.Pairwise fun a b => a.1 ≤ b.1)
    (hrange : ∀ r ∈ rest, r.1 ≤ r.2) :
    (⟨joinFrom first last rest⟩ : CharSet).has n =
      (⟨(first, last) :: rest⟩ : CharSet).has n := by
  induction rest generalizing first last with
  | nil => rfl
  | cons r rest ih =>
    obtain ⟨a, b⟩ := r
    have ha : first ≤ a := hfirst (a, b) (by simp)
    have hab : a ≤ b := hrange (a, b) (by simp)
    have hrange' : ∀ r ∈ rest, r.1 ≤ r.2 := fun r hr => hrange r (by simp [hr])
    obtain ⟨hmin, hsorted'⟩ := List.pairwise_cons.1 hsorted
    unfold joinFrom
    split
    · rw [ih (by omega) (fun r hr => hfirst r (by simp [hr])) hsorted' hrange', Bool.eq_iff_iff]
      simp only [has, List.any_cons, Bool.or_eq_true, Bool.and_eq_true, decide_eq_true_eq]
      grind
    · have := ih hab hmin hsorted' hrange'
      simp only [has, List.any_cons] at this ⊢
      rw [this]

@[simp] theorem has_ofRanges (ranges : List (Nat × Nat)) (n : Nat) :
    (ofRanges ranges).has n = ranges.any fun (first, last) => first ≤ n && n ≤ last := by
  let valid := ranges.filter fun (first, last) => first ≤ last
  let sorted := valid.mergeSort fun a b => a.1 ≤ b.1
  have hperm : sorted.Perm valid := List.mergeSort_perm _ _
  have hsorted : sorted.Pairwise fun a b => a.1 ≤ b.1 := by
    have := @List.pairwise_mergeSort (Nat × Nat) (fun a b => decide (a.1 ≤ b.1))
      (fun a b c hab hbc => by simp only [decide_eq_true_eq] at *; omega)
      (fun a b => by simp only [Bool.or_eq_true, decide_eq_true_eq]; omega) valid
    simpa using this
  have hrange : ∀ r ∈ sorted, r.1 ≤ r.2 := fun r hr => by
    simpa using (List.mem_filter.1 (hperm.mem_iff.1 hr)).2
  have hjoin : (⟨join sorted⟩ : CharSet).has n = (⟨sorted⟩ : CharSet).has n := by
    match hs : sorted with
    | [] => rfl
    | (first, last) :: rest =>
      rw [hs] at hsorted hrange
      obtain ⟨hmin, hsorted'⟩ := List.pairwise_cons.1 hsorted
      exact has_joinFrom (hrange (first, last) (by simp)) hmin hsorted'
        fun r hr => hrange r (by simp [hr])
  show (⟨join sorted⟩ : CharSet).has n = _
  rw [hjoin, Bool.eq_iff_iff]
  simp only [has, List.any_eq_true, Bool.and_eq_true, decide_eq_true_eq]
  constructor
  · rintro ⟨r, hr, h⟩
    exact ⟨r, (List.mem_filter.1 (hperm.mem_iff.1 hr)).1, h⟩
  · rintro ⟨r, hr, h⟩
    exact ⟨r, hperm.mem_iff.2 (List.mem_filter.2 ⟨hr, by simp; omega⟩), h⟩

@[simp] theorem has_union (s t : CharSet) (n : Nat) :
    (s.union t).has n = (s.has n || t.has n) := by
  rw [union, has_ofRanges, List.any_append]
  rfl

end CharSet

end CoverageOverlay
