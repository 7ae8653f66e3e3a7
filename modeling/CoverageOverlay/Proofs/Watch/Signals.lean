-- SUMMARY: No signal to the watch loop is lost: each is received, and a re-apply begins after the last.
import CoverageOverlay.Proofs.Watch.Loop

/-!
# Signals of a run

Signals come in while the loop waits, gathers or re-applies, and the wait for a
further signal may time out just as one arrives. In every order of these
happenings a signal that was sent is in the queue, or is part of the burst that
is being gathered, or was received before a re-apply began. Where the loop
waits with an empty queue, or has ended, the first two are ruled out.
-/

namespace CoverageOverlay.Watch

/-! ## The way of the signals -/

/-- The signals of a run, numbered in the order in which they are sent. -/
structure Traffic where
  /-- The signals in the queue, the oldest first. -/
  queued : List Nat
  /-- The signals that were received, in their order. -/
  received : List Nat
deriving DecidableEq, Repr

namespace Traffic

/-- The signals after something happened: the next number is queued, or the oldest one is taken. -/
def after (t : Traffic) : Happening → Traffic
  | .send => { t with queued := t.queued ++ [t.received.length + t.queued.length] }
  | .receive => ⟨t.queued.tail, t.received ++ t.queued.head?.toList⟩
  | _ => t

/-- The signals of a run. -/
def ofRun (happenings : List Happening) : Traffic :=
  happenings.foldl after ⟨[], []⟩

theorem ofRun_concat (happenings : List Happening) (happening : Happening) :
    ofRun (happenings ++ [happening]) = (ofRun happenings).after happening := by
  simp [ofRun]

end Traffic

/-- A burst, or the re-apply for one, is under way. -/
def Phase.Busy (p : Phase) : Prop :=
  p = .gathering ∨ p = .applying

instance (p : Phase) : Decidable p.Busy :=
  inferInstanceAs (Decidable (_ ∨ _))

namespace Loop

/-! ## Runs of the loop -/

/-- After the run `before`, the happening begins a re-apply. -/
def Begins (before : List Happening) (happening : Happening) : Prop :=
  ∃ l l', start.run? before = some l ∧ l.after? happening = some l' ∧
    l.phase ≠ .applying ∧ l'.phase = .applying

/-- A re-apply begins in a run, after all signals of the run were sent. -/
def Answers (happenings : List Happening) : Prop :=
  ∃ before happening after, happenings = before ++ happening :: after ∧
    Begins before happening ∧ .send ∉ after

variable {l l' : Loop} {happenings : List Happening} {happening : Happening}

theorem Answers.concat (h : Answers happenings) (hsend : happening ≠ .send) :
    Answers (happenings ++ [happening]) := by
  obtain ⟨before, begin, after, rfl, hbegins, hafter⟩ := h
  refine ⟨before, begin, after ++ [happening], by simp, hbegins, ?_⟩
  simp [hafter, hsend.symm]

theorem answers_of_begins (h : Begins happenings happening) :
    Answers (happenings ++ [happening]) :=
  ⟨happenings, happening, [], rfl, h, List.not_mem_nil⟩

/-! ## What a run leaves -/

/-- The signals of a run that were not received are the ones in the queue. -/
structure Carries (happenings : List Happening) (l : Loop) : Prop where
  queued : (Traffic.ofRun happenings).queued.length = l.queued
  numbered : (Traffic.ofRun happenings).received ++ (Traffic.ofRun happenings).queued =
    List.range (happenings.count .send)
  received : (Traffic.ofRun happenings).received.length = happenings.count .receive

theorem Carries.of_others (h : Carries happenings l) (hsend : happening ≠ .send)
    (hreceive : happening ≠ .receive) (hqueued : l'.queued = l.queued) :
    Carries (happenings ++ [happening]) l' := by
  have htraffic : Traffic.ofRun (happenings ++ [happening]) = Traffic.ofRun happenings := by
    rw [Traffic.ofRun_concat]
    cases happening <;> simp_all [Traffic.after]
  constructor
  · rw [htraffic, h.queued, hqueued]
  · rw [htraffic, h.numbered]
    simp [hsend]
  · rw [htraffic, h.received]
    simp [hreceive]

theorem Carries.step (h : Carries happenings l) (hstep : l.after? happening = some l') :
    Carries (happenings ++ [happening]) l' := by
  have htraffic := Traffic.ofRun_concat happenings happening
  cases happening with
  | send =>
    obtain ⟨-, rfl⟩ := after?_send_iff.1 hstep
    have hsent : happenings.count .send =
        (Traffic.ofRun happenings).received.length + (Traffic.ofRun happenings).queued.length := by
      simpa using (congrArg List.length h.numbered).symm
    constructor
    · simp [htraffic, Traffic.after, h.queued]
    · rw [List.count_append, List.count_singleton_self, List.range_succ, ← h.numbered, hsent]
      simp [htraffic, Traffic.after]
    · simp [htraffic, Traffic.after, h.received]
  | receive =>
    obtain ⟨-, n, hn, rfl⟩ := after?_receive_iff.1 hstep
    have hlength := h.queued
    have hnumbered := h.numbered
    cases hqueue : (Traffic.ofRun happenings).queued with
    | nil => simp [hqueue, hn] at hlength
    | cons k rest =>
      rw [hqueue, hn, List.length_cons, Nat.add_right_cancel_iff] at hlength
      rw [hqueue] at hnumbered
      constructor
      · simpa [htraffic, Traffic.after, hqueue] using hlength
      · simpa [htraffic, Traffic.after, hqueue] using hnumbered
      · simp [htraffic, Traffic.after, hqueue, h.received]
  | hangUp =>
    obtain ⟨-, rfl⟩ := after?_hangUp_iff.1 hstep
    exact h.of_others (by simp) (by simp) rfl
  | timeOut =>
    obtain ⟨-, rfl⟩ := after?_timeOut_iff.1 hstep
    exact h.of_others (by simp) (by simp) rfl
  | disconnect =>
    obtain ⟨-, ⟨-, rfl⟩ | ⟨-, rfl⟩⟩ := after?_disconnect_iff.1 hstep
    · exact h.of_others (by simp) (by simp) rfl
    · exact h.of_others (by simp) (by simp) rfl
  | finish =>
    obtain ⟨-, rfl⟩ := after?_finish_iff.1 hstep
    exact h.of_others (by simp) (by simp) rfl

/-- The loop has gone through its re-applies, and every one of them has had a signal of its own. -/
structure Works (happenings : List Happening) (l : Loop) : Prop where
  reapplied : l.reapplied = happenings.count .finish
  spent : l.reapplied + (if l.phase.Busy then 1 else 0) ≤ happenings.count .receive
  /-- No signal is received for nothing. -/
  used : .receive ∈ happenings → 0 < l.reapplied ∨ l.phase.Busy

theorem Works.step (h : Works happenings l) (hstep : l.after? happening = some l') :
    Works (happenings ++ [happening]) l' := by
  obtain ⟨hreapplied, hspent, hused⟩ := h
  cases happening with
  | send =>
    obtain ⟨-, rfl⟩ := after?_send_iff.1 hstep
    exact ⟨by simpa using hreapplied, by simpa using hspent, by simpa using hused⟩
  | hangUp =>
    obtain ⟨-, rfl⟩ := after?_hangUp_iff.1 hstep
    exact ⟨by simpa using hreapplied, by simpa using hspent, by simpa using hused⟩
  | receive =>
    obtain ⟨-, n, -, rfl⟩ := after?_receive_iff.1 hstep
    have hbefore := Nat.le_of_add_right_le hspent
    exact ⟨by simpa using hreapplied, by simpa [Phase.Busy] using hbefore, fun _ => .inr (.inl rfl)⟩
  | timeOut =>
    obtain ⟨hphase, rfl⟩ := after?_timeOut_iff.1 hstep
    refine ⟨by simpa using hreapplied, ?_, fun _ => .inr (.inr rfl)⟩
    simpa [Phase.Busy, hphase] using hspent
  | disconnect =>
    obtain ⟨-, ⟨hphase, rfl⟩ | ⟨hphase, rfl⟩⟩ := after?_disconnect_iff.1 hstep
    · refine ⟨by simpa using hreapplied, ?_, fun _ => .inr (.inr rfl)⟩
      simpa [Phase.Busy, hphase] using hspent
    · refine ⟨by simpa using hreapplied, ?_, ?_⟩
      · simpa [Phase.Busy, hphase] using hspent
      · simpa [Phase.Busy, hphase] using hused
  | finish =>
    obtain ⟨hphase, rfl⟩ := after?_finish_iff.1 hstep
    refine ⟨by simpa using hreapplied, ?_, fun _ => .inl (Nat.succ_pos _)⟩
    simpa [Phase.Busy, hphase] using hspent

/-- After every signal a re-apply has begun or is due. -/
def Covered (happenings : List Happening) (l : Loop) : Prop :=
  .send ∈ happenings → Answers happenings ∨ 0 < l.queued ∨ l.phase = .gathering

theorem Covered.step (h : Covered happenings l) (hrun : start.run? happenings = some l)
    (hstep : l.after? happening = some l') : Covered (happenings ++ [happening]) l' := by
  intro hmem
  by_cases hsend : happening = .send
  · subst hsend
    obtain ⟨-, rfl⟩ := after?_send_iff.1 hstep
    exact .inr (.inl (Nat.succ_pos l.queued))
  have hbefore : .send ∈ happenings := by simpa [Ne.symm hsend] using hmem
  have hkept : Answers happenings → Answers (happenings ++ [happening]) := fun h => h.concat hsend
  have hbegins : l.phase ≠ .applying → l'.phase = .applying → Answers (happenings ++ [happening]) :=
    fun hphase hphase' => answers_of_begins ⟨l, l', hrun, hstep, hphase, hphase'⟩
  cases happening with
  | send => exact absurd rfl hsend
  | hangUp =>
    obtain ⟨-, rfl⟩ := after?_hangUp_iff.1 hstep
    exact (h hbefore).imp_left hkept
  | receive =>
    obtain ⟨-, n, -, rfl⟩ := after?_receive_iff.1 hstep
    exact .inr (.inr rfl)
  | timeOut =>
    obtain ⟨hphase, rfl⟩ := after?_timeOut_iff.1 hstep
    exact .inl (hbegins (by simp [hphase]) rfl)
  | disconnect =>
    obtain ⟨⟨hqueued, -⟩, ⟨hphase, rfl⟩ | ⟨hphase, rfl⟩⟩ := after?_disconnect_iff.1 hstep
    · exact .inl (hbegins (by simp [hphase]) rfl)
    · have hcovered := h hbefore
      simp only [hqueued, hphase] at hcovered
      exact .inl (hkept (by simpa using hcovered))
  | finish =>
    obtain ⟨hphase, rfl⟩ := after?_finish_iff.1 hstep
    have hcovered := h hbefore
    simp only [hphase] at hcovered
    simpa using hcovered.imp_left hkept

/-- The loop ends only with an empty queue that nobody can fill. -/
def EndsEmpty (l : Loop) : Prop :=
  l.phase = .done → l.queued = 0 ∧ l.connected = false

theorem EndsEmpty.step (h : l.EndsEmpty) (hstep : l.after? happening = some l') : l'.EndsEmpty := by
  intro hdone
  cases happening with
  | send =>
    obtain ⟨hconnected, rfl⟩ := after?_send_iff.1 hstep
    exact absurd hconnected (by simp [h hdone])
  | hangUp =>
    obtain ⟨-, rfl⟩ := after?_hangUp_iff.1 hstep
    exact ⟨(h hdone).1, rfl⟩
  | receive =>
    obtain ⟨-, n, -, rfl⟩ := after?_receive_iff.1 hstep
    simp at hdone
  | timeOut =>
    obtain ⟨-, rfl⟩ := after?_timeOut_iff.1 hstep
    simp at hdone
  | disconnect =>
    obtain ⟨hempty, ⟨-, rfl⟩ | ⟨-, rfl⟩⟩ := after?_disconnect_iff.1 hstep
    · simp at hdone
    · exact hempty
  | finish =>
    obtain ⟨-, rfl⟩ := after?_finish_iff.1 hstep
    simp at hdone

/-- What is kept by all happenings together. -/
structure Accounted (happenings : List Happening) (l : Loop) : Prop where
  carries : Carries happenings l
  works : Works happenings l
  covered : Covered happenings l
  endsEmpty : l.EndsEmpty

theorem accounted_of_run (hrun : start.run? happenings = some l) : Accounted happenings l := by
  refine invariant_of_run (p := Accounted) ⟨⟨rfl, rfl, rfl⟩, ?_, ?_, ?_⟩ ?_ hrun
  · exact ⟨rfl, by decide, by simp⟩
  · simp [Covered]
  · simp [EndsEmpty, start]
  · intro before last happening next hbefore h hstep
    exact ⟨h.carries.step hstep, h.works.step hstep, h.covered.step hbefore hstep,
      h.endsEmpty.step hstep⟩

/-! ## Coming to rest -/

/-- The happenings `more`, which send nothing, lead the loop to where it waits with an empty queue or,
where nobody can send any more, to its end. -/
def Settles (l : Loop) (more : List Happening) : Prop :=
  .send ∉ more ∧ .hangUp ∉ more ∧
    ∃ l', l.run? more = some l' ∧
      (l.connected = true ∧ l'.isIdle = true ∨ l.connected = false ∧ l'.phase = .done)

theorem Settles.cons {next : Loop} {more : List Happening} (h : next.Settles more)
    (hsend : happening ≠ .send) (hhangUp : happening ≠ .hangUp)
    (hstep : l.after? happening = some next) (hconnected : next.connected = l.connected) :
    l.Settles (happening :: more) := by
  obtain ⟨hmore, hmore', l', hrun, hrest⟩ := h
  refine ⟨by simp [hsend.symm, hmore], by simp [hhangUp.symm, hmore'], l', ?_, hconnected ▸ hrest⟩
  exact run?_cons_iff.2 ⟨next, hstep, hrun⟩

/-- A loop that waits gets through a re-apply for each signal in the queue. -/
theorem exists_settles_of_waiting (hphase : l.phase = .waiting) : ∃ more, l.Settles more := by
  obtain ⟨phase, queued, connected, reapplied⟩ := l
  obtain rfl : phase = .waiting := hphase
  induction queued generalizing reapplied with
  | zero =>
    cases connected with
    | true => exact ⟨[], by simp, by simp, _, rfl, .inl ⟨rfl, rfl⟩⟩
    | false => exact ⟨[.disconnect], by simp, by simp, _, rfl, .inr ⟨rfl, rfl⟩⟩
  | succ n ih =>
    obtain ⟨more, hmore⟩ := ih (reapplied + 1)
    have happlying : Settles ⟨.applying, n, connected, reapplied⟩ (.finish :: more) :=
      hmore.cons (by simp) (by simp) rfl rfl
    have hgathering : Settles ⟨.gathering, n, connected, reapplied⟩ (.timeOut :: .finish :: more) :=
      happlying.cons (by simp) (by simp) rfl rfl
    exact ⟨.receive :: _, hgathering.cons (by simp) (by simp) rfl rfl⟩

theorem exists_settles (hended : l.phase = .done → l.connected = false) : ∃ more, l.Settles more := by
  have happlying (l : Loop) (hphase : l.phase = .applying) : ∃ more, l.Settles more := by
    obtain ⟨more, hmore⟩ := exists_settles_of_waiting
      (l := { l with phase := .waiting, reapplied := l.reapplied + 1 }) rfl
    exact ⟨_, hmore.cons (by simp) (by simp) (after?_finish_iff.2 ⟨hphase, rfl⟩) rfl⟩
  cases hphase : l.phase with
  | waiting => exact exists_settles_of_waiting hphase
  | gathering =>
    obtain ⟨more, hmore⟩ := happlying { l with phase := .applying } rfl
    exact ⟨_, hmore.cons (by simp) (by simp) (after?_timeOut_iff.2 ⟨hphase, rfl⟩) rfl⟩
  | applying => exact happlying l hphase
  | done => exact ⟨[], by simp, by simp, l, rfl, .inr ⟨hended hphase, hphase⟩⟩

/-! ## Where the loop rests -/

/-- The loop waits for a first signal and there is none, or it has ended. -/
def AtRest (l : Loop) : Prop :=
  l.isIdle = true ∨ l.phase = .done

theorem EndsEmpty.queued_of_atRest (h : l.EndsEmpty) (hrest : l.AtRest) :
    l.queued = 0 ∧ ¬l.phase.Busy := by
  rcases hrest with hidle | hdone
  · obtain ⟨hphase, hqueued⟩ := isIdle_iff.1 hidle
    exact ⟨hqueued, by simp [Phase.Busy, hphase]⟩
  · exact ⟨(h hdone).1, by simp [Phase.Busy, hdone]⟩

/-- In every order of signals, waits that time out and re-applies: when no more signals are sent, the loop
settles. Wherever it waits with an empty queue, and where it has ended, a re-apply has begun after the last
signal that was sent; every signal was received once; and the count is the number of re-applies, which is at
most the number of signals, and zero only where there was none. -/
theorem answers_of_atRest (hrun : start.run? happenings = some l) :
    (∃ more, l.Settles more) ∧
      (l.AtRest →
        (.send ∈ happenings → Answers happenings) ∧
          (Traffic.ofRun happenings).received = List.range (happenings.count .send) ∧
          l.reapplied = happenings.count .finish ∧
          (l.reapplied = 0 ↔ .send ∉ happenings) ∧
          l.reapplied ≤ happenings.count .send) := by
  obtain ⟨hcarries, hworks, hcovered, hends⟩ := accounted_of_run hrun
  refine ⟨exists_settles fun hdone => (hends hdone).2, fun hrest => ?_⟩
  obtain ⟨hqueued, hbusy⟩ := hends.queued_of_atRest hrest
  have hempty : (Traffic.ofRun happenings).queued = [] :=
    List.length_eq_zero_iff.1 (hcarries.queued.trans hqueued)
  have hreceived : (Traffic.ofRun happenings).received = List.range (happenings.count .send) := by
    simpa [hempty] using hcarries.numbered
  have hcount : happenings.count .receive = happenings.count .send := by
    rw [← hcarries.received, hreceived, List.length_range]
  have hspent : l.reapplied ≤ happenings.count .send := by
    simpa [hbusy, hcount] using hworks.spent
  refine ⟨fun hsend => ?_, hreceived, hworks.reapplied, ⟨fun hzero hsend => ?_, fun hsend => ?_⟩,
    hspent⟩
  · rcases hcovered hsend with hanswers | hdue | hgathering
    · exact hanswers
    · exact absurd hqueued (Nat.ne_of_gt hdue)
    · exact absurd (.inl hgathering) hbusy
  · have hreceive : .receive ∈ happenings := by
      rw [← List.count_pos_iff, hcount]
      exact List.count_pos_iff.2 hsend
    rcases hworks.used hreceive with hreapplied | hstill
    · exact absurd hzero (Nat.ne_of_gt hreapplied)
    · exact hbusy hstill
  · rw [List.count_eq_zero.2 hsend] at hspent
    exact Nat.le_zero.1 hspent

/-- One signal is gathered with the first, one comes while the loop re-applies, and the last one arrives
just as a wait times out. Then nobody sends any more. -/
theorem answers_of_atRest_bursts :
    let happenings : List Happening :=
      [.send, .receive, .send, .receive, .timeOut, .send, .finish, .receive, .send, .timeOut, .finish,
        .hangUp, .receive, .disconnect, .finish, .disconnect]
    start.run? happenings = some ⟨.done, 0, false, 3⟩ ∧ Answers happenings ∧
      (Traffic.ofRun happenings).received = [0, 1, 2, 3] := by
  intro happenings
  have hrun : start.run? happenings = some ⟨.done, 0, false, 3⟩ := by decide
  obtain ⟨hanswers, hreceived, -⟩ := (answers_of_atRest hrun).2 (.inr rfl)
  exact ⟨hrun, hanswers (by decide), hreceived⟩

end Loop

end CoverageOverlay.Watch
