-- SUMMARY: A summary neither loses nor invents annotations, and it knows no more of a set than how often each state occurs.
import CoverageOverlay.Proofs.Annotation.Counts
import CoverageOverlay.Proofs.Annotation.Shrinking

/-!
# Conservation

The entries of a summary are a division of the annotations by state: every
state that occurs has one entry, none of them is zero, and together they make up
the total, since each step of the count adds one to one entry. There is only one
summary of which this can be said. Which annotation comes first plays no part,
so two sets have one summary exactly if their states are the same up to order. A
set made by resolution has annotations of two states only, and its summary no
other entries.
-/

namespace CoverageOverlay

namespace CoverageSet

variable {set : CoverageSet} {s : State}

/-- The states of the annotations, with their duplicates. -/
def states (set : CoverageSet) : List State :=
  set.map Annotation.state

theorem countState_eq_count (set : CoverageSet) (s : State) : set.countState s = set.states.count s := by
  rw [states, List.count_eq_countP, List.countP_map, countState]
  exact List.countP_congr fun a _ => by simp

theorem countState_ne_zero_iff : set.countState s ≠ 0 ↔ s ∈ set.states := by
  rw [countState_eq_count, ← Nat.pos_iff_ne_zero, List.count_pos_iff]

/-- Resolution says of a range that it ran or that it did not. -/
theorem state_of_mem_ofRecords {records : List Record} {n : UInt64} {a : Annotation}
    (h : a ∈ (ofRecords records n).value) : a.state = .executed ∨ a.state = .notExecuted := by
  obtain ⟨r, -, -, hextent⟩ := exists_fits_of_mem_ofRecords h
  have hstate : (if r.executed then .executed else .notExecuted) = a.state :=
    congrArg (·.2.2) hextent
  rw [← hstate]
  cases r.executed
  · exact .inr rfl
  · exact .inl rfl

end CoverageSet

namespace Summary

variable {set : CoverageSet} {summary : Summary} {count : State → Nat} {states : List State}
  {s : State} {n : Nat}

/-- The entries of a summary divide the annotations of a set by their states. -/
structure Divides (summary : Summary) (set : CoverageSet) : Prop where
  total_eq : summary.total = set.length
  sum_eq : (summary.byState.map Prod.snd).sum = summary.total
  mem_iff : ∀ s n, (s, n) ∈ summary.byState ↔ s ∈ set.states ∧ n = set.countState s
  ne_zero : ∀ e ∈ summary.byState, e.2 ≠ 0
  ordered : summary.byState.Pairwise fun e e' => State.all.idxOf e.1 < State.all.idxOf e'.1
  count_eq : ∀ s, summary.count s = set.countState s

/-! ## The total -/

/-- One annotation more is one more in the sum of the entries. -/
theorem sum_update (s : State) (entries : List (State × Nat)) :
    ((update s (· + 1) entries).map Prod.snd).sum = (entries.map Prod.snd).sum + 1 := by
  fun_induction update s (· + 1) entries with
  | case1 => rfl
  | case2 n rest =>
    simp only [List.map_cons, List.sum_cons]
    omega
  | case3 t n rest hne hbefore =>
    simp only [List.map_cons, List.sum_cons]
    omega
  | case4 t n rest hne hbefore ih =>
    rw [List.map_cons, List.sum_cons, ih, List.map_cons, List.sum_cons, Nat.add_assoc]

/-- The sum counts the annotations, whatever has been counted before. -/
theorem sum_foldl_update (set : CoverageSet) (entries : List (State × Nat)) :
    ((set.foldl (fun entries a => update a.state (· + 1) entries) entries).map Prod.snd).sum =
      (entries.map Prod.snd).sum + set.length := by
  induction set generalizing entries with
  | nil => rfl
  | cons a set ih =>
    rw [List.foldl_cons, ih, sum_update, List.length_cons]
    omega

theorem sum_ofSet (set : CoverageSet) : ((ofSet set).byState.map Prod.snd).sum = set.length :=
  (sum_foldl_update set []).trans (Nat.zero_add _)

/-! ## The entries -/

theorem mem_entries_iff :
    (s, n) ∈ entries count states ↔ s ∈ states ∧ n = count s ∧ n ≠ 0 := by
  simp only [entries, List.mem_filter, List.mem_map, Prod.mk.injEq, decide_eq_true_eq]
  constructor
  · rintro ⟨⟨_, hs, rfl, rfl⟩, hne⟩
    exact ⟨hs, rfl, hne⟩
  · rintro ⟨hs, rfl, hne⟩
    exact ⟨⟨s, hs, rfl, rfl⟩, hne⟩

theorem ordered_entries (count : State → Nat) :
    (entries count State.all).Pairwise fun e e' => State.all.idxOf e.1 < State.all.idxOf e'.1 :=
  List.Pairwise.filter _ (List.pairwise_map.2 sorted_all)

theorem divides_ofSet (set : CoverageSet) : (ofSet set).Divides set where
  total_eq := rfl
  sum_eq := sum_ofSet set
  mem_iff s n := by
    rw [ofSet_eq, mem_entries_iff, ← CoverageSet.countState_ne_zero_iff]
    constructor
    · rintro ⟨-, rfl, hne⟩
      exact ⟨hne, rfl⟩
    · rintro ⟨hne, rfl⟩
      exact ⟨State.mem_all s, rfl, hne⟩
  ne_zero e he := by
    rw [ofSet_eq] at he
    exact (mem_entries_iff.1 he).2.2
  ordered := by
    rw [ofSet_eq]
    exact ordered_entries set.countState
  count_eq := count_ofSet set

theorem Divides.nodup (h : summary.Divides set) : summary.byState.Nodup := by
  refine h.ordered.imp ?_
  rintro e _ hlt rfl
  exact Nat.lt_irrefl _ hlt

/-- No other summary divides the annotations. -/
theorem Divides.eq_ofSet (h : summary.Divides set) : summary = ofSet set := by
  have hset := divides_ofSet set
  have hperm : summary.byState.Perm (ofSet set).byState :=
    (List.perm_ext_iff_of_nodup h.nodup hset.nodup).2 fun (s, n) =>
      (h.mem_iff s n).trans (hset.mem_iff s n).symm
  have hentries : summary.byState = (ofSet set).byState :=
    hperm.eq_of_pairwise (fun _ _ _ _ hlt hgt => absurd hgt (Nat.lt_asymm hlt)) h.ordered hset.ordered
  calc summary
      = ⟨summary.byState, summary.total⟩ := rfl
    _ = ⟨(ofSet set).byState, set.length⟩ := by rw [hentries, h.total_eq]
    _ = ofSet set := rfl

/-! ## Order -/

/-- A summary tells the states of a set up to their order, and nothing else. -/
theorem ofSet_eq_iff {set set' : CoverageSet} :
    ofSet set' = ofSet set ↔ set'.states.Perm set.states := by
  constructor
  · intro h
    refine List.perm_iff_count.2 fun s => ?_
    rw [← CoverageSet.countState_eq_count, ← CoverageSet.countState_eq_count, ← count_ofSet, h,
      count_ofSet]
  · intro h
    have hlength : set'.length = set.length := by
      simpa [CoverageSet.states] using h.length_eq
    have hcounts (s : State) : set'.countState s = set.countState s := by
      rw [CoverageSet.countState_eq_count, CoverageSet.countState_eq_count, h.count_eq]
    rw [ofSet_eq, ofSet_eq, hlength, entries_congr fun s _ => hcounts s]

/-! ## Resolution -/

/-- The only entries are those of ranges that ran and of ranges that did not. -/
def OfFlags (summary : Summary) : Prop :=
  ∀ e ∈ summary.byState, e.1 = .executed ∨ e.1 = .notExecuted

theorem ofFlags_ofRecords (records : List Record) (n : UInt64) :
    (ofSet (CoverageSet.ofRecords records n).value).OfFlags := by
  intro e he
  obtain ⟨hstate, -⟩ := ((divides_ofSet _).mem_iff e.1 e.2).1 he
  obtain ⟨a, ha, hstate⟩ := List.mem_map.1 hstate
  rw [← hstate]
  exact CoverageSet.state_of_mem_ofRecords ha

/-- A summary conserves the annotations of its set. It is the one summary whose entries divide them by
their states; a set with the same states in any order has the same summary, and no other set has; and
where resolution has made the set, out of records or of a text, there are entries for the two states of a
record only. -/
theorem ofSet_conserves :
    (∀ (set : CoverageSet) (summary : Summary), summary.Divides set ↔ summary = ofSet set) ∧
    (∀ set set' : CoverageSet, ofSet set' = ofSet set ↔ set'.states.Perm set.states) ∧
    (∀ set set' : CoverageSet, set'.Perm set → ofSet set' = ofSet set) ∧
    (∀ (records : List Record) (n : UInt64),
      (ofSet (CoverageSet.ofRecords records n).value).OfFlags) ∧
    ∀ (coverage : Text) (n : UInt64), (ofSet (CoverageSet.ofText coverage n).value).OfFlags := by
  refine ⟨fun set summary => ?_, fun _ _ => ofSet_eq_iff, fun set set' hperm => ?_,
    ofFlags_ofRecords, fun coverage n => ?_⟩
  · constructor
    · exact Divides.eq_ofSet
    · rintro rfl
      exact divides_ofSet set
  · exact ofSet_eq_iff.2 (hperm.map Annotation.state)
  · rw [CoverageSet.ofText_value]
    exact ofFlags_ofRecords _ n

/-- Three annotations of two states, and the same ones with the duplicates side by side. -/
theorem ofSet_conserves_duplicates :
    let a : Annotation := ⟨1, 3, .executed⟩
    let b : Annotation := ⟨4, 5, .notExecuted⟩
    [a, a, b].Perm [a, b, a] ∧ ofSet [a, a, b] = ofSet [a, b, a] ∧
      ofSet [a, b, a] = ⟨[(.executed, 2), (.notExecuted, 1)], 3⟩ := by
  intro a b
  have hperm : [a, a, b].Perm [a, b, a] := by decide
  exact ⟨hperm, ofSet_conserves.2.2.1 _ _ hperm, by decide⟩

end Summary

end CoverageOverlay
