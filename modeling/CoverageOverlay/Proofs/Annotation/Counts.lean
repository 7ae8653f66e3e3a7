-- SUMMARY: What a summary counts, state by state, and the summary of two sets together.
import CoverageOverlay.Annotation.Summary

/-!
# Counts

A summary is made by one step for each annotation, which changes one entry or
puts a new one where it belongs. Whatever the order of these steps, its entries
come to be those of the states that occur, in the order of the states, each
with the number of annotations that have it. A summary is therefore determined
by its counts, and the counts of two sets add up.
-/

namespace CoverageOverlay

/-- The number of annotations of a state. -/
def CoverageSet.countState (set : CoverageSet) (s : State) : Nat :=
  set.countP fun a => a.state = s

theorem CoverageSet.countState_append (set set' : CoverageSet) (s : State) :
    countState (set ++ set') s = set.countState s + set'.countState s :=
  List.countP_append

namespace Summary

/-- The entries for some counts: those of the states that do not have the count zero. -/
def entries (count : State → Nat) (states : List State) : List (State × Nat) :=
  (states.map fun s => (s, count s)).filter fun e => e.2 ≠ 0

/-- The counts of two sets together. -/
def add (x y : Summary) : Summary where
  byState := entries (fun s => x.count s + y.count s) State.all
  total := x.total + y.total

variable {count : State → Nat} {states : List State} {s t : State} {f : Nat → Nat}
  {set set' : CoverageSet}

/-! ## Entries -/

theorem entries_cons_of_eq_zero (h : count s = 0) : entries count (s :: states) = entries count states := by
  simp [entries, h]

theorem entries_cons_of_ne_zero (h : count s ≠ 0) :
    entries count (s :: states) = (s, count s) :: entries count states := by
  simp [entries, h]

theorem entries_congr {count' : State → Nat} (h : ∀ s ∈ states, count s = count' s) :
    entries count states = entries count' states := by
  rw [entries, entries, List.map_congr_left fun s hs => by rw [h s hs]]

theorem mem_of_mem_entries {e : State × Nat} (h : e ∈ entries count states) : e.1 ∈ states := by
  obtain ⟨s, hs, rfl⟩ := List.mem_map.1 (List.mem_filter.1 h).1
  exact hs

/-- A new state goes before the entries of states that come later. -/
theorem update_of_before (h : ∀ t ∈ states, State.all.idxOf s < State.all.idxOf t) :
    update s f (entries count states) = (s, f 0) :: entries count states := by
  cases hentries : entries count states with
  | nil => rfl
  | cons e rest =>
    have hmem : e ∈ entries count states := by simp [hentries]
    have he : State.all.idxOf s < State.all.idxOf e.1 := h e.1 (mem_of_mem_entries hmem)
    have hne : e.1 ≠ s := fun heq => by simp [heq] at he
    simp [update, hne, he]

/-- Changing the entry of a state is changing its count. -/
theorem update_entries {count' : State → Nat}
    (hsorted : states.Pairwise fun s t => State.all.idxOf s < State.all.idxOf t) (hs : s ∈ states)
    (hat : count' s = f (count s)) (hpos : count' s ≠ 0) (hother : ∀ t, t ≠ s → count' t = count t) :
    update s f (entries count states) = entries count' states := by
  induction states with
  | nil => simp at hs
  | cons t states ih =>
    obtain ⟨hbefore, hsorted⟩ := List.pairwise_cons.1 hsorted
    rcases List.mem_cons.1 hs with rfl | hs
    · have hrest : entries count' states = entries count states := by
        refine entries_congr fun t ht => hother t ?_
        rintro rfl
        exact Nat.lt_irrefl _ (hbefore t ht)
      rw [entries_cons_of_ne_zero hpos, hrest, hat]
      by_cases hzero : count s = 0
      · rw [entries_cons_of_eq_zero hzero, update_of_before hbefore, hzero]
      · rw [entries_cons_of_ne_zero hzero, update, if_pos rfl]
    · have hlater := hbefore s hs
      have hne : t ≠ s := fun heq => by simp [heq] at hlater
      have hsame : count' t = count t := hother t hne
      by_cases hzero : count t = 0
      · rw [entries_cons_of_eq_zero hzero, entries_cons_of_eq_zero (hsame.trans hzero),
          ih hsorted hs]
      · rw [entries_cons_of_ne_zero hzero, entries_cons_of_ne_zero (hsame ▸ hzero), hsame, update,
          if_neg hne, if_neg (Nat.lt_asymm hlater), ih hsorted hs]

theorem sorted_all : State.all.Pairwise fun s t => State.all.idxOf s < State.all.idxOf t := by
  decide

theorem lookup_entries (count : State → Nat) (states : List State) (s : State) :
    (entries count states).lookup s = if s ∈ states ∧ count s ≠ 0 then some (count s) else none := by
  induction states with
  | nil => rfl
  | cons t states ih =>
    by_cases hst : s = t
    · subst hst
      by_cases hzero : count s = 0
      · rw [entries_cons_of_eq_zero hzero, ih]
        simp [hzero]
      · rw [entries_cons_of_ne_zero hzero, List.lookup_cons_self]
        simp [hzero]
    · by_cases hzero : count t = 0
      · rw [entries_cons_of_eq_zero hzero, ih]
        simp [hst]
      · rw [entries_cons_of_ne_zero hzero, List.lookup_cons, beq_false_of_ne hst, ih]
        simp [hst]

/-! ## Summaries -/

theorem foldl_update (count : State → Nat) (set : CoverageSet) :
    set.foldl (fun entries a => update a.state (· + 1) entries) (entries count State.all) =
      entries (fun s => count s + set.countState s) State.all := by
  induction set generalizing count with
  | nil => rfl
  | cons a set ih =>
    let counted (s : State) : Nat := count s + if a.state = s then 1 else 0
    have hcounted : update a.state (· + 1) (entries count State.all) = entries counted State.all :=
      update_entries sorted_all (State.mem_all a.state) (by simp [counted]) (by simp [counted])
        fun t ht => by simp [counted, Ne.symm ht]
    rw [List.foldl_cons, hcounted, ih]
    refine entries_congr fun s _ => ?_
    simp only [counted, CoverageSet.countState, List.countP_cons, decide_eq_true_eq]
    omega

/-- A summary has an entry for each state that occurs, in the order of the states. -/
theorem ofSet_eq (set : CoverageSet) : ofSet set = ⟨entries set.countState State.all, set.length⟩ := by
  have hnone : entries (fun _ => 0) State.all = [] := by decide
  have hfold := foldl_update (fun _ => 0) set
  simp only [hnone, Nat.zero_add] at hfold
  rw [ofSet, hfold]

@[simp] theorem total_ofSet (set : CoverageSet) : (ofSet set).total = set.length := rfl

@[simp] theorem count_ofSet (set : CoverageSet) (s : State) :
    (ofSet set).count s = set.countState s := by
  rw [ofSet_eq, count, lookup_entries]
  by_cases hzero : set.countState s = 0 <;> simp [hzero, State.mem_all]

/-- The summary of two sets together is the sum of their summaries, state by state. -/
theorem ofSet_append (set set' : CoverageSet) :
    ofSet (set ++ set') = (ofSet set).add (ofSet set') := by
  rw [ofSet_eq (set ++ set'), funext (CoverageSet.countState_append set set')]
  simp [add]

end Summary

end CoverageOverlay
