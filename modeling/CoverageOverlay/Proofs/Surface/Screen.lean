-- SUMMARY: What stands on the screen of a terminal, and when it is the last frame and nothing else.
import CoverageOverlay.Proofs.Surface.Step

/-!
# The screen of a terminal

On the screen stands what the surface took since the screen was last cleared.
An apply clears the screen only over a whole frame. If it then breaks off
behind the first byte of its own frame, no whole frame stands on the screen,
though something does, and the next apply writes its frame behind that. So an
apply that goes well replaces what was shown unless such a remnant was left
behind, and no other apply went well in the meantime.
-/

namespace CoverageOverlay.Terminal

/-! ## Remnants -/

/-- The step clears the screen: what an apply or a clear writes first is the whole clear sequence. -/
def Step.Clears (step : Step) : Prop :=
  match step.action with
  | .limit _ _ => False
  | _ => step.before.clear.2.surface.taken = step.before.surface.taken ++ Utf8.encode clearScreen

/-- The step is an apply that goes well. -/
def Step.Shows (step : Step) : Prop :=
  match step.action with
  | .apply _ _ => step.result = .ok ()
  | _ => False

/-- The step is an apply that breaks off when the surface has taken a part of its frame, or all of it. -/
def Step.LeavesRemnant (step : Step) : Prop :=
  match step.action with
  | .apply _ _ =>
    step.before.clear.1 = .ok () ∧ step.result ≠ .ok () ∧
      step.after.surface.taken ≠ step.before.clear.2.surface.taken
  | _ => False

instance (step : Step) : Decidable step.Clears :=
  match step with
  | ⟨_, .limit _ _⟩ => inferInstanceAs (Decidable False)
  | ⟨_, .apply _ _⟩ | ⟨_, .clear⟩ => inferInstanceAs (Decidable (_ = _))

/-- A terminal, and how many bytes its surface had taken when the screen was last cleared. -/
structure Screen where
  terminal : Terminal
  cleared : Nat

namespace Screen

/-- The screen of a terminal that has shown nothing yet. -/
def new (markup : Markup) (composition : Composition) : Screen :=
  ⟨.new markup composition, 0⟩

/-- The bytes that stand on the screen. -/
def shown (screen : Screen) : List UInt8 :=
  screen.terminal.surface.taken.drop screen.cleared

/-- The screen after an action. -/
def act (screen : Screen) (action : Action) : Screen where
  terminal := (screen.terminal.act action).2
  cleared :=
    if Step.Clears ⟨screen.terminal, action⟩ then screen.terminal.clear.2.surface.taken.length
    else screen.cleared

/-- The screen after some actions. -/
def run (screen : Screen) (actions : List Action) : Screen :=
  actions.foldl act screen

/-- The bytes that the next frame is written behind. -/
def left (screen : Screen) : List UInt8 :=
  if screen.terminal.painted then [] else screen.shown

/-- The screen of a terminal that can be cleared, and was cleared at a time before now. -/
structure WellFormed (screen : Screen) : Prop where
  markup : screen.terminal.markup = .ansi
  cleared_le : screen.cleared ≤ screen.terminal.surface.taken.length

variable {screen : Screen} {action : Action} {document : Text} {set : CoverageSet}

@[simp] theorem terminal_act : (screen.act action).terminal = (screen.terminal.act action).2 := rfl

@[simp] theorem run_nil : screen.run [] = screen := rfl

@[simp] theorem run_cons (actions : List Action) :
    screen.run (action :: actions) = (screen.act action).run actions := rfl

theorem run_concat (actions : List Action) :
    screen.run (actions ++ [action]) = (screen.run actions).act action := by
  simp [run]

theorem terminal_run (actions : List Action) :
    (screen.run actions).terminal = screen.terminal.run actions := by
  induction actions generalizing screen with
  | nil => rfl
  | cons action actions ih => rw [run_cons, ih, terminal_act, Terminal.run_cons]

/-- The clear sequence is written whole if a frame stands on the screen and there is room for it. -/
theorem taken_clear_iff {t : Terminal} (hmarkup : t.markup = .ansi) :
    t.clear.2.surface.taken = t.surface.taken ++ Utf8.encode clearScreen ↔
      t.painted ∧ t.clear.1 = .ok () := by
  rw [surface_clear, Surface.taken_after, List.append_cancel_left_eq, clear_ok_iff]
  cases hpainted : t.painted with
  | false =>
    have hclearing : t.clearing = [] := by simp [clearing, hpainted]
    have hne : [] ≠ Utf8.encode clearScreen := by decide
    rw [hclearing, Surface.accepted_nil]
    simp [hne]
  | true =>
    have hclearing : t.clearing = Utf8.encode clearScreen := by simp [clearing, hpainted, hmarkup]
    rw [hclearing, Surface.accepted_eq_self_iff]
    simp

/-- A step that gets past its clear phase writes behind what that phase left. -/
theorem shown_act (h : screen.WellFormed) (hclear : screen.terminal.clear.1 = .ok ())
    (hclears : Step.Clears ⟨screen.terminal, action⟩ ↔
      screen.terminal.clear.2.surface.taken =
        screen.terminal.surface.taken ++ Utf8.encode clearScreen)
    {bytes : List UInt8}
    (htaken : (screen.terminal.act action).2.surface.taken =
      screen.terminal.clear.2.surface.taken ++ bytes) :
    (screen.act action).shown = screen.left ++ bytes := by
  rw [taken_clear_iff h.markup] at hclears
  -- Only a whole frame is cleared away; whatever else stands on the screen stays in front.
  cases hpainted : screen.terminal.painted with
  | true =>
    have hdrop : (screen.act action).cleared = screen.terminal.clear.2.surface.taken.length :=
      if_pos (hclears.2 ⟨hpainted, hclear⟩)
    simp [shown, left, hdrop, htaken, hpainted]
  | false =>
    have hdrop : (screen.act action).cleared = screen.cleared := by
      refine if_neg fun hcleared => ?_
      have hstands := (hclears.1 hcleared).1
      simp [hpainted] at hstands
    have hclearing : screen.terminal.clearing = [] := by simp [clearing, hpainted]
    have hbefore : screen.terminal.clear.2.surface = screen.terminal.surface := by
      rw [surface_clear, hclearing, Surface.after_nil]
    simp [shown, left, hdrop, htaken, hpainted, hbefore, List.drop_append_of_le_length h.cleared_le]

theorem left_of_painted (h : screen.terminal.painted = true) : screen.left = [] := if_pos h

theorem left_of_not_painted (h : screen.terminal.painted ≠ true) : screen.left = screen.shown :=
  if_neg h

@[simp] theorem left_limit {room : Option Nat} {flushFails : Bool} :
    (screen.act (.limit room flushFails)).left = screen.left := rfl

/-- A clear leaves nothing behind that was not left behind before. -/
theorem left_clear (h : screen.WellFormed) : (screen.act .clear).left = screen.left := by
  by_cases hclear : screen.terminal.clear.1 = .ok ()
  · have hpainted : (screen.act .clear).terminal.painted ≠ true :=
      fun hstands => painted_clear.1 hstands hclear
    rw [left_of_not_painted hpainted, shown_act h hclear Iff.rfl (List.append_nil _).symm,
      List.append_nil]
  · rw [left_of_painted (painted_of_clear_ne_ok hclear)]
    exact left_of_painted (painted_clear.2 hclear)

theorem shown_apply (h : screen.WellFormed) (hclear : screen.terminal.clear.1 = .ok ())
    (document : Text) (set : CoverageSet) :
    (screen.act (.apply document set)).shown =
      screen.left ++ screen.terminal.clear.2.surface.accepted
        (frame screen.terminal.composition screen.terminal.markup document set) := by
  refine shown_act h hclear Iff.rfl ?_
  rw [Terminal.act, surface_apply, Surface.taken_after]

/-- Nothing is left behind by an apply that goes well. By another one, what was left before it and what
was taken of its own frame. -/
theorem left_apply (h : screen.WellFormed) :
    (screen.act (.apply document set)).left = [] ↔
      Step.Shows ⟨screen.terminal, .apply document set⟩ ∨
        screen.left = [] ∧ ¬Step.LeavesRemnant ⟨screen.terminal, .apply document set⟩ := by
  simp only [Step.Shows, Step.LeavesRemnant, Step.result, Step.after, Terminal.act]
  by_cases hok : (screen.terminal.apply document set).1 = .ok ()
  · have hpainted : (screen.act (.apply document set)).terminal.painted = true :=
      painted_apply.2 (.inr hok)
    simp [left_of_painted hpainted, hok]
  · by_cases hclear : screen.terminal.clear.1 = .ok ()
    · have hpainted : (screen.act (.apply document set)).terminal.painted ≠ true := by
        intro hstands
        exact (painted_apply.1 hstands).elim (absurd hclear) hok
      rw [left_of_not_painted hpainted, shown_apply h hclear, List.append_eq_nil_iff]
      simp [hok, hclear, surface_apply]
    · have hbefore := left_of_painted (painted_of_clear_ne_ok hclear)
      have hafter : (screen.act (.apply document set)).left = [] :=
        left_of_painted (painted_apply.2 (.inl hclear))
      simp [hbefore, hafter, hclear]

/-! ## Runs -/

/-- The screen is as the steps taken so far say: something is left on it if an apply left a remnant,
and none showed a frame since. -/
structure Agrees (screen : Screen) (steps : List Step) : Prop extends WellFormed screen where
  left_iff : screen.left = [] ↔ ¬Since Step.LeavesRemnant Step.Shows steps

theorem WellFormed.act (h : screen.WellFormed) (action : Action) :
    (screen.act action).WellFormed where
  markup := (settings_act _ _).2.trans h.markup
  cleared_le := by
    by_cases hclears : Step.Clears ⟨screen.terminal, action⟩
    · have hdrop : (screen.act action).cleared = screen.terminal.clear.2.surface.taken.length :=
        if_pos hclears
      rw [hdrop, terminal_act]
      cases action with
      | apply document set =>
        rw [Terminal.act, surface_apply]
        exact (List.prefix_append _ _).length_le
      | clear => exact Nat.le_refl _
      | limit room flushFails => exact absurd hclears id
    · have hdrop : (screen.act action).cleared = screen.cleared := if_neg hclears
      rw [hdrop]
      exact Nat.le_trans h.cleared_le (taken_prefix_act _ _).length_le

theorem agrees_new (composition : Composition) : (new .ansi composition).Agrees [] where
  markup := rfl
  cleared_le := Nat.zero_le _
  left_iff := by simp [left, new, shown, Terminal.new, Surface.empty]

theorem Agrees.act {steps : List Step} (h : screen.Agrees steps) (action : Action) :
    (screen.act action).Agrees (steps ++ [⟨screen.terminal, action⟩]) where
  toWellFormed := h.toWellFormed.act action
  left_iff := by
    rw [since_concat]
    cases action with
    | apply document set =>
      rw [left_apply h.toWellFormed, h.left_iff]
      -- An apply that goes well leaves no remnant, so that the two properties exclude each other.
      generalize hstep : (⟨screen.terminal, .apply document set⟩ : Step) = step
      have hexclusive : step.Shows → ¬step.LeavesRemnant := by
        subst hstep
        exact fun hshows hleaves => hleaves.2.1 hshows
      by_cases hshows : step.Shows <;> simp [hshows, hexclusive, and_comm]
    | clear =>
      simp [left_clear h.toWellFormed, h.left_iff, Step.LeavesRemnant, Step.Shows]
    | limit room flushFails =>
      simp [h.left_iff, Step.LeavesRemnant, Step.Shows]

theorem Agrees.run {steps : List Step} (h : screen.Agrees steps) (actions : List Action) :
    (screen.run actions).Agrees (steps ++ screen.terminal.steps actions) := by
  induction actions generalizing screen steps with
  | nil => simpa [Terminal.steps] using h
  | cons action actions ih =>
    have hrest := ih (h.act action)
    rwa [List.append_assoc] at hrest

/-- When an apply goes well, its frame stands at the end of the screen. It stands there alone unless an
apply before it left a remnant of its frame, and none went well since. -/
theorem shown_apply_eq_frame_iff (composition : Composition) (actions : List Action)
    (document : Text) (set : CoverageSet)
    (hok : ((run (new .ansi composition) actions).terminal.apply document set).1 = .ok ()) :
    let shown := (run (new .ansi composition) (actions ++ [.apply document set])).shown
    frame composition .ansi document set <:+ shown ∧
      (shown = frame composition .ansi document set ↔
        ¬Since Step.LeavesRemnant Step.Shows
          ((Terminal.new .ansi composition).steps actions)) := by
  have hagrees : ((new .ansi composition).run actions).Agrees
      ((Terminal.new .ansi composition).steps actions) :=
    (agrees_new composition).run actions
  generalize hscreen : (new .ansi composition).run actions = screen at hagrees hok ⊢
  have hcomposition : screen.terminal.composition = composition := by
    rw [← hscreen, terminal_run]
    exact (settings_run _ _).1
  have hfits := fits_frame_of_apply_ok hok
  have hshown := shown_apply hagrees.toWellFormed (clear_ok_of_apply_ok hok) document set
  rw [Surface.accepted_eq_self_iff.2 hfits, hagrees.markup, hcomposition] at hshown
  rw [run_concat, hscreen, hshown]
  refine ⟨List.suffix_append _ _, ?_⟩
  rw [← hagrees.left_iff]
  exact List.append_left_eq_self

/-- A frame replaces a whole one. -/
theorem shown_apply_eq_frame_iff_twice :
    ((run (new .ansi .last) [.apply ['a', 'b'] []]).terminal.apply ['c', 'd'] []).1 = .ok () ∧
      (run (new .ansi .last) ([.apply ['a', 'b'] []] ++ [.apply ['c', 'd'] []])).shown =
        frame .last .ansi ['c', 'd'] [] := by
  refine ⟨rfl, (shown_apply_eq_frame_iff .last [.apply ['a', 'b'] []] ['c', 'd'] [] rfl).2.2 ?_⟩
  intro hsince
  rcases (@since_concat _ _ [] _).1 hsince with hleaves | ⟨hsince, -⟩
  · exact hleaves.2.1 rfl
  · exact not_since_nil _ _ hsince

/-- The first frame breaks off behind its first byte. The second one goes well, but the screen is not
cleared for it. -/
theorem shown_remnant :
    let actions : List Action := [.limit (some 1) false, .apply ['a', 'b'] [], .limit none false]
    let shown := (run (new .ansi .last) (actions ++ [.apply ['c', 'd'] []])).shown
    ((run (new .ansi .last) actions).terminal.apply ['c', 'd'] []).1 = .ok () ∧
      shown = Utf8.encode ['a', 'c', 'd', '\n'] ∧
      frame .last .ansi ['c', 'd'] [] = Utf8.encode ['c', 'd', '\n'] ∧
      shown ≠ frame .last .ansi ['c', 'd'] [] := by
  refine ⟨rfl, ?_, ?_, ?_⟩
  · decide
  · decide
  · decide

end Screen

end CoverageOverlay.Terminal
