-- SUMMARY: What a step of a terminal is to write, told from the steps before it, and how much of it is written.
import CoverageOverlay.Proofs.Surface.Screen

/-!
# Intended bytes

What a step of a terminal is to write can be told from what happened before it,
without a look at the terminal. The screen has to be cleared if the last apply
or clear that got past its own clear phase was an apply that went well. A step
gets past that phase if there was nothing to clear, or if the clear sequence was
written whole, so that whether it did is told from its history and its bytes.

Of the intended bytes as many are written as there is room for. How the step
ends depends on whether all of them were, and for an apply on the flush.
-/

namespace CoverageOverlay

/-- A string of bytes at the head of others is written whole if there is room for it. -/
theorem Surface.prefix_accepted_append_iff {s : Surface} {bytes more : List UInt8} :
    bytes <+: s.accepted (bytes ++ more) ↔ s.Fits bytes.length := by
  cases hroom : s.room with
  | none => simp [accepted, Fits, hroom]
  | some room => simp [accepted, Fits, hroom, List.prefix_take_iff]

theorem Surface.room_after {s : Surface} {bytes : List UInt8} :
    (s.after bytes).room = s.room.map (· - (s.accepted bytes).length) := by
  cases hroom : s.room with
  | none => simp [after, hroom]
  | some room =>
    have hleft : room - bytes.length = room - min room bytes.length := by omega
    simpa [after, accepted, hroom] using hleft

namespace Terminal

/-! ## What the history says -/

namespace Step

/-- The bytes that the surface takes during a step. -/
def written (step : Step) : List UInt8 :=
  step.after.surface.taken.drop step.before.surface.taken.length

/-- The step is an apply or a clear for which the screen did not have to be cleared, or that wrote the
whole clear sequence. -/
def GetsPast (due : Prop) (step : Step) : Prop :=
  match step.action with
  | .limit _ _ => False
  | _ => due → Utf8.encode clearScreen <+: step.written

end Step

/-- After some steps the screen has to be cleared before anything else is written: of the steps that got
past their clear phase, the last one is an apply that went well. -/
def ClearDue (markup : Markup) (steps : List Step) : Prop :=
  markup = .ansi ∧ ∃ earlier step later, ∃ _ : steps = earlier ++ step :: later,
    step.Shows ∧ step.GetsPast (ClearDue markup earlier) ∧
      ∀ between next rest, (_ : later = between ++ next :: rest) →
        ¬next.GetsPast (ClearDue markup (earlier ++ step :: between))
termination_by steps.length
decreasing_by all_goals (subst_vars; simp only [List.length_append, List.length_cons]; omega)

/-- The bytes that show what an action shows, on a screen that is clear. -/
def Action.payload (composition : Composition) (markup : Markup) : Action → List UInt8
  | .apply document set => frame composition markup document set
  | .clear | .limit _ _ => []

open Classical in
/-- The bytes that an action is to write after some steps. -/
noncomputable def intended (composition : Composition) (markup : Markup) (steps : List Step)
    (action : Action) : List UInt8 :=
  match action with
  | .limit _ _ => []
  | _ =>
    (if ClearDue markup steps then Utf8.encode clearScreen else []) ++
      action.payload composition markup

variable {composition : Composition} {markup : Markup} {steps : List Step} {step : Step}
  {action : Action} {t : Terminal}

@[simp] theorem not_clearDue_nil : ¬ClearDue markup [] := by
  rw [ClearDue]
  rintro ⟨-, earlier, step, later, h, -⟩
  simp at h

/-- A step that gets past its clear phase decides alone whether the screen has to be cleared next; any
other one leaves that as it was. -/
theorem clearDue_concat :
    ClearDue markup (steps ++ [step]) ↔
      step.GetsPast (ClearDue markup steps) ∧ markup = .ansi ∧ step.Shows ∨
        ¬step.GetsPast (ClearDue markup steps) ∧ ClearDue markup steps := by
  constructor
  · intro hdue
    rw [ClearDue] at hdue
    obtain ⟨hmarkup, earlier, last, later, hsteps, hshows, hpast, hnone⟩ := hdue
    rcases concat_eq_append_cons_iff.1 hsteps with ⟨rfl, rfl, rfl⟩ | ⟨between, rfl, rfl⟩
    · exact .inl ⟨hpast, hmarkup, hshows⟩
    · have hbefore : ClearDue markup (earlier ++ last :: between) := by
        rw [ClearDue]
        exact ⟨hmarkup, earlier, last, between, rfl, hshows, hpast,
          fun inner next rest hinner => hnone inner next (rest ++ [step]) (by simp [hinner])⟩
      exact .inr ⟨hnone between step [] rfl, hbefore⟩
  · rintro (⟨hpast, hmarkup, hshows⟩ | ⟨hnot, hdue⟩)
    · rw [ClearDue]
      exact ⟨hmarkup, steps, step, [], rfl, hshows, hpast, by simp⟩
    · rw [ClearDue] at hdue ⊢
      obtain ⟨hmarkup, earlier, last, later, rfl, hshows, hpast, hnone⟩ := hdue
      refine ⟨hmarkup, earlier, last, later ++ [step], by simp, hshows, hpast, ?_⟩
      intro between next rest hlater
      rcases concat_eq_append_cons_iff.1 hlater with ⟨rfl, rfl, -⟩ | ⟨inner, -, hinner⟩
      · exact hnot
      · exact hnone between next inner hinner

theorem not_clearDue_plain : ¬ClearDue .plain steps := by
  rw [ClearDue]
  simp

/-- As long as no apply went well, nothing has to be cleared. -/
theorem not_clearDue_of_not_shows (h : ∀ step ∈ steps, ¬step.Shows) : ¬ClearDue markup steps := by
  rw [ClearDue]
  rintro ⟨-, earlier, step, later, rfl, hshows, -⟩
  exact h step (by simp) hshows

/-! ## What a terminal knows of it -/

theorem surface_act (t : Terminal) (hlimit : ∀ room flushFails, action ≠ .limit room flushFails) :
    (t.act action).2.surface =
      t.surface.after (t.clearing ++ action.payload t.composition t.markup) := by
  cases action with
  | apply document set => rw [act, surface_apply, surface_clear, Surface.after_after]; rfl
  | clear => rw [act, surface_clear, Action.payload, List.append_nil]
  | limit room flushFails => exact absurd rfl (hlimit room flushFails)

theorem written_act (t : Terminal) (hlimit : ∀ room flushFails, action ≠ .limit room flushFails) :
    Step.written ⟨t, action⟩ =
      t.surface.accepted (t.clearing ++ action.payload t.composition t.markup) := by
  rw [Step.written, Step.after, surface_act t hlimit, Surface.taken_after, List.drop_left]

/-- A terminal is as the steps taken so far say: a whole frame that can be cleared away stands on its
screen if the screen has to be cleared next. -/
structure Knows (composition : Composition) (markup : Markup) (t : Terminal) (steps : List Step) :
    Prop where
  composition_eq : t.composition = composition
  markup_eq : t.markup = markup
  clearDue_iff : ClearDue markup steps ↔ t.painted = true ∧ markup = .ansi

theorem knows_new (composition : Composition) (markup : Markup) :
    Knows composition markup (new markup composition) [] :=
  ⟨rfl, rfl, by simp [new]⟩

namespace Knows

theorem clearing_eq (h : Knows composition markup t steps) [Decidable (ClearDue markup steps)] :
    t.clearing = if ClearDue markup steps then Utf8.encode clearScreen else [] := by
  simp only [clearing, h.markup_eq, h.clearDue_iff]

/-- The terminal has before it the bytes that its history asks for. -/
theorem intended_eq (h : Knows composition markup t steps)
    (hlimit : ∀ room flushFails, action ≠ .limit room flushFails) :
    intended composition markup steps action =
      t.clearing ++ action.payload t.composition t.markup := by
  classical
  rw [h.clearing_eq, h.composition_eq, h.markup_eq]
  cases action with
  | apply document set => simp only [intended]
  | clear => simp only [intended]
  | limit room flushFails => exact absurd rfl (hlimit room flushFails)

theorem getsPast_iff (h : Knows composition markup t steps)
    (hlimit : ∀ room flushFails, action ≠ .limit room flushFails) :
    Step.GetsPast (ClearDue markup steps) ⟨t, action⟩ ↔ t.clear.1 = .ok () := by
  have hpast : Step.GetsPast (ClearDue markup steps) ⟨t, action⟩ ↔
      (ClearDue markup steps → Utf8.encode clearScreen <+: Step.written ⟨t, action⟩) := by
    cases action with
    | apply document set => exact Iff.rfl
    | clear => exact Iff.rfl
    | limit room flushFails => exact absurd rfl (hlimit room flushFails)
  rw [hpast, written_act t hlimit, clear_ok_iff]
  by_cases hdue : ClearDue markup steps
  · have hclearing : t.clearing = Utf8.encode clearScreen := by
      classical simp [h.clearing_eq, hdue]
    simp only [hdue, true_imp_iff, hclearing, Surface.prefix_accepted_append_iff]
  · have hclearing : t.clearing = [] := by
      classical simp [h.clearing_eq, hdue]
    simp [hdue, hclearing, Surface.fits_zero]

theorem act (h : Knows composition markup t steps) (action : Action) :
    Knows composition markup (t.act action).2 (steps ++ [⟨t, action⟩]) where
  composition_eq := (settings_act t action).1.trans h.composition_eq
  markup_eq := (settings_act t action).2.trans h.markup_eq
  clearDue_iff := by
    -- A clear breaks off only over a whole frame, which then has to be cleared away again.
    have hstands : t.clear.1 ≠ .ok () → t.painted = true := painted_of_clear_ne_ok
    rw [clearDue_concat]
    cases action with
    | apply document set =>
      have hclears : (t.apply document set).1 = .ok () → t.clear.1 = .ok () := clear_ok_of_apply_ok
      rw [h.getsPast_iff (by simp), h.clearDue_iff, Terminal.act, painted_apply]
      simp only [Step.Shows, Step.result, Terminal.act]
      by_cases hclear : t.clear.1 = .ok ()
      · simp [hclear, and_comm]
      · simp [hclear, hstands hclear]
    | clear =>
      rw [h.getsPast_iff (by simp), h.clearDue_iff, Terminal.act, painted_clear]
      simp only [Step.Shows, and_false, false_or]
      by_cases hclear : t.clear.1 = .ok ()
      · simp [hclear]
      · simp [hclear, hstands hclear]
    | limit room flushFails =>
      simp [Step.GetsPast, h.clearDue_iff, Terminal.act]

theorem run (h : Knows composition markup t steps) (actions : List Action) :
    Knows composition markup (t.run actions) (steps ++ t.steps actions) := by
  induction actions generalizing t steps with
  | nil => simpa [Terminal.steps] using h
  | cons action actions ih =>
    have hrest := ih (h.act action)
    rwa [List.append_assoc] at hrest

end Knows

/-! ## Runs -/

theorem steps_concat (t : Terminal) (actions : List Action) (action : Action) :
    t.steps (actions ++ [action]) = t.steps actions ++ [⟨t.run actions, action⟩] := by
  induction actions generalizing t with
  | nil => rfl
  | cons first actions ih => simp only [List.cons_append, steps, run_cons, ih]

/-- How an action ends on a surface, by the bytes that it is to write. -/
def Action.ending (s : Surface) (bytes : List UInt8) : Action → Except Error Unit
  | .limit _ _ => .ok ()
  | .clear => if s.Fits bytes.length then .ok () else .error (.io Surface.goneFault)
  | .apply _ _ =>
    if ¬s.Fits bytes.length then .error (.io Surface.goneFault)
    else if s.flushFails then .error (.io Surface.flushFault)
    else .ok ()

/-- The room that an action leaves: writing uses it up, and nothing else does. -/
def Action.roomLeft (s : Surface) (written : List UInt8) : Action → Option Nat
  | .limit room _ => room
  | _ => s.room.map (· - written.length)

namespace Knows

theorem written_eq (h : Knows composition markup t steps) (action : Action) :
    Step.written ⟨t, action⟩ = t.surface.accepted (intended composition markup steps action) := by
  cases action with
  | limit room flushFails =>
    simp [Step.written, Step.after, Terminal.act, Surface.limit, intended]
  | _ => rw [written_act t (by simp), h.intended_eq (by simp)]

theorem room_eq (h : Knows composition markup t steps) (action : Action) :
    (t.act action).2.surface.room =
      action.roomLeft t.surface (t.surface.accepted (intended composition markup steps action)) := by
  cases action with
  | limit room flushFails => rfl
  | _ =>
    rw [surface_act t (by simp), h.intended_eq (by simp), Surface.room_after]
    rfl

theorem result_eq (h : Knows composition markup t steps) (action : Action) :
    (t.act action).1 = action.ending t.surface (intended composition markup steps action) := by
  cases action with
  | apply document set =>
    rw [h.intended_eq (by simp), Terminal.act, apply_eq]
    simp only [Action.ending, Action.payload]
    cases hflush : t.surface.flushFails <;> simp [Surface.flush, hflush, Except.mapError]
  | clear =>
    rw [h.intended_eq (by simp), Terminal.act, clear_eq, Action.payload, List.append_nil,
      Action.ending]
  | limit room flushFails => rfl

end Knows

/-- Every step of a run writes as many of its intended bytes as there is room for, and ends as they and
the flush say. The intended bytes are told from the steps before it. They hold no clear sequence in
plain markup, nor as long as no apply went well. -/
theorem step_writesIntended (composition : Composition) (markup : Markup) (actions : List Action)
    (action : Action) :
    let steps := (new markup composition).steps actions
    let step : Step := ⟨(new markup composition).run actions, action⟩
    let bytes := intended composition markup steps action
    (new markup composition).steps (actions ++ [action]) = steps ++ [step] ∧
      step.after.surface.taken = step.before.surface.taken ++ step.written ∧
      step.written = step.before.surface.accepted bytes ∧
      step.after.surface.room = action.roomLeft step.before.surface step.written ∧
      step.result = action.ending step.before.surface bytes ∧
      (markup = .plain ∨ (∀ earlier ∈ steps, ¬earlier.Shows) →
        bytes = action.payload composition markup) := by
  intro steps step bytes
  have hknows : Knows composition markup step.before steps :=
    (knows_new composition markup).run actions
  have hwritten : step.written = step.before.surface.accepted bytes := hknows.written_eq action
  refine ⟨steps_concat _ actions action,
    (List.prefix_iff_eq_append.1 (taken_prefix_act step.before action)).symm, hwritten, ?_,
    hknows.result_eq action, ?_⟩
  · rw [hwritten]
    exact hknows.room_eq action
  · intro hnever
    have hnotDue : ¬ClearDue markup steps := by
      rcases hnever with rfl | hnone
      · exact not_clearDue_plain
      · exact not_clearDue_of_not_shows hnone
    cases action with
    | limit room flushFails => rfl
    | _ => simp [bytes, intended, hnotDue]

end Terminal

end CoverageOverlay
