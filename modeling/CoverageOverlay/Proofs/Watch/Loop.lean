-- SUMMARY: What each happening asks of the watch loop, and what it leaves.
import Mathlib.Data.List.Induction
import CoverageOverlay.Watch.Loop

/-!
# Happenings of the watch loop

Each happening is possible in some states of the loop only. The lemmas below
say in which, and what the loop is afterwards, so that a proof about the loop
goes through the happenings without looking into the machine.
-/

namespace CoverageOverlay.Watch.Loop

variable {l l' : Loop}

theorem after?_send_iff :
    l.after? .send = some l' ↔ l.connected = true ∧ l' = { l with queued := l.queued + 1 } := by
  cases hconnected : l.connected <;> simp [after?, hconnected, eq_comm]

theorem after?_hangUp_iff :
    l.after? .hangUp = some l' ↔ l.connected = true ∧ l' = { l with connected := false } := by
  cases hconnected : l.connected <;> simp [after?, hconnected, eq_comm]

theorem after?_receive_iff :
    l.after? .receive = some l' ↔
      (l.phase = .waiting ∨ l.phase = .gathering) ∧
        ∃ n, l.queued = n + 1 ∧ l' = { l with phase := .gathering, queued := n } := by
  obtain ⟨phase, queued, connected, reapplied⟩ := l
  cases phase <;> cases queued <;> simp [after?, eq_comm]

theorem after?_timeOut_iff :
    l.after? .timeOut = some l' ↔ l.phase = .gathering ∧ l' = { l with phase := .applying } := by
  obtain ⟨phase, queued, connected, reapplied⟩ := l
  cases phase <;> simp [after?, eq_comm]

theorem after?_disconnect_iff :
    l.after? .disconnect = some l' ↔
      (l.queued = 0 ∧ l.connected = false) ∧
        (l.phase = .gathering ∧ l' = { l with phase := .applying } ∨
          l.phase = .waiting ∧ l' = { l with phase := .done }) := by
  obtain ⟨phase, queued, connected, reapplied⟩ := l
  cases phase <;> cases queued <;> cases connected <;> simp [after?, eq_comm]

theorem after?_finish_iff :
    l.after? .finish = some l' ↔
      l.phase = .applying ∧ l' = { l with phase := .waiting, reapplied := l.reapplied + 1 } := by
  obtain ⟨phase, queued, connected, reapplied⟩ := l
  cases phase <;> simp [after?, eq_comm]

theorem isIdle_iff : l.isIdle = true ↔ l.phase = .waiting ∧ l.queued = 0 := by
  simp [isIdle]

/-! ## Runs -/

variable {happening : Happening} {happenings : List Happening}

@[simp] theorem run?_nil : l.run? [] = some l := rfl

theorem run?_cons_iff :
    l.run? (happening :: happenings) = some l' ↔
      ∃ next, l.after? happening = some next ∧ next.run? happenings = some l' := by
  rw [run?, List.foldlM_cons]
  exact Option.bind_eq_some_iff

theorem run?_concat_iff :
    l.run? (happenings ++ [happening]) = some l' ↔
      ∃ last, l.run? happenings = some last ∧ last.after? happening = some l' := by
  rw [run?, List.foldlM_append, Option.bind_eq_bind, Option.bind_eq_some_iff]
  simp [run?]

/-- What holds at the start of the loop and is kept by every happening holds after every run. -/
theorem invariant_of_run {p : List Happening → Loop → Prop} (hstart : p [] start)
    (hstep : ∀ {before last happening next}, start.run? before = some last → p before last →
      last.after? happening = some next → p (before ++ [happening]) next)
    (hrun : start.run? happenings = some l) : p happenings l := by
  induction happenings using List.reverseRecOn generalizing l with
  | nil =>
    obtain rfl : start = l := by simpa using hrun
    exact hstart
  | append_singleton before happening ih =>
    obtain ⟨last, hbefore, hhappening⟩ := run?_concat_iff.1 hrun
    exact hstep hbefore (ih hbefore) hhappening

end CoverageOverlay.Watch.Loop
