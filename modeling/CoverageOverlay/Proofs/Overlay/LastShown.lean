-- SUMMARY: An overlay keeps the set of the last apply that went well, whatever happens to the files.
import Mathlib
import CoverageOverlay.Files.Tree
import CoverageOverlay.Proofs.History
import CoverageOverlay.Proofs.Overlay.Apply

/-!
# The last set that was shown

Files come and go, and an overlay is applied and cleared in between. What a
layer of decorations holds at any time is the set of one apply: of the last one
that went well, resolved from the files as they were then. Applies that found
no document or no records do not count, and a clear ends it.
-/

namespace CoverageOverlay

/-! ## One apply on a layer of decorations -/

namespace Overlay

/-- The outcome of an apply says which of the two files there were, and how many decorations are held
if there were both. -/
theorem outcome_apply (o : Overlay DecorationLayer) (files : Files) (document : Path) :
    let result := (o.apply files document).value
    let coverage := Document.coveragePathOf document o.settings.suffix
    (result.1 = .error (.documentNotFound document) ↔ ¬files.Readable document) ∧
      (result.1 = .ok (.missing coverage) ↔
        files.Readable document ∧ ¬files.Readable coverage) ∧
      (result.1 = .ok (.applied result.2.renderer.decorations.length) ↔
        files.Readable document ∧ files.Readable coverage) := by
  by_cases hdocument : files.Readable document
  · by_cases hcoverage : files.Readable (Document.coveragePathOf document o.settings.suffix)
    · obtain ⟨d, hload⟩ := Document.exists_load_iff.2 ⟨hdocument, hcoverage⟩
      simp [o.apply_covered hload, hdocument, hcoverage, Renderer.apply]
    · simp [o.apply_uncovered hdocument hcoverage, hdocument, hcoverage]
  · simp [o.apply_absent hdocument, hdocument]

end Overlay

/-! ## Steps -/

/-- A file tree with an overlay that shows documents of it. -/
structure Scene where
  tree : FileTree
  overlay : Overlay DecorationLayer

namespace Scene

/-- What can happen to the files and to the overlay. -/
inductive Action
  | put (p : Path) (e : Entry)
  | remove (p : Path)
  | apply (document : Path)
  | clear

/-- A scene after an action. -/
def act (s : Scene) : Action → Scene
  | .put p e => { s with tree := s.tree.put p e }
  | .remove p => { s with tree := s.tree.remove p }
  | .apply document => { s with overlay := (s.overlay.apply s.tree.files document).value.2 }
  | .clear => { s with overlay := s.overlay.clear.2 }

/-- An action with the scene that it happens to. -/
structure Step where
  scene : Scene
  action : Action

/-- The steps of some actions in order. -/
def steps (s : Scene) : List Action → List Step
  | [] => []
  | action :: actions => ⟨s, action⟩ :: (s.act action).steps actions

/-- A scene after some actions. -/
def run (s : Scene) (actions : List Action) : Scene :=
  actions.foldl act s

/-- The decorations that are held. -/
def held (s : Scene) : List Decoration :=
  s.overlay.renderer.decorations

/-- The step is an apply that goes well. -/
def Step.Shows (step : Step) : Prop :=
  match step.action with
  | .apply document =>
    ∃ n, (step.scene.overlay.apply step.scene.tree.files document).value.1 = .ok (.applied n)
  | _ => False

/-- The step is a clear. -/
def Step.Clears (step : Step) : Prop :=
  match step.action with
  | .clear => True
  | _ => False

/-- Some decorations are the image of what the step, an apply, reads from the files that it finds. -/
def Step.Draws (step : Step) (suffix : Text) (decorations : List Decoration) : Prop :=
  match step.action with
  | .apply document =>
    ∃ d, (Document.load step.scene.tree.files document suffix).value = .ok d ∧
      decorations = d.annotations.map Decoration.ofRange
  | _ => False

variable {s : Scene} {document : Path} {d : Document}

/-- An apply that finds both files goes well, and then exactly its own set is held. -/
theorem held_apply
    (hload : (Document.load s.tree.files document s.overlay.settings.suffix).value = .ok d) :
    Step.Shows ⟨s, .apply document⟩ ∧
      (s.act (.apply document)).held = d.annotations.map Decoration.ofRange := by
  have happly := s.overlay.apply_covered hload
  exact ⟨⟨d.annotations.length, by rw [happly]; rfl⟩, by rw [held, act, happly]; rfl⟩

/-- An apply that does not go well changes nothing. -/
theorem act_apply_of_not_shows (h : ¬Step.Shows ⟨s, .apply document⟩) :
    s.act (.apply document) = s := by
  have hfiles : ¬(s.tree.files.Readable document ∧
      s.tree.files.Readable (Document.coveragePathOf document s.overlay.settings.suffix)) := by
    intro hboth
    obtain ⟨d, hload⟩ := Document.exists_load_iff.2 hboth
    exact h (held_apply hload).1
  rw [act, s.overlay.apply_of_not_readable hfiles]

theorem exists_load_of_shows (h : Step.Shows ⟨s, .apply document⟩) :
    ∃ d, (Document.load s.tree.files document s.overlay.settings.suffix).value = .ok d := by
  obtain ⟨n, hn⟩ := h
  by_cases hdocument : s.tree.files.Readable document
  · by_cases hcoverage :
        s.tree.files.Readable (Document.coveragePathOf document s.overlay.settings.suffix)
    · exact Document.exists_load_iff.2 ⟨hdocument, hcoverage⟩
    · simp [s.overlay.apply_uncovered hdocument hcoverage] at hn
  · simp [s.overlay.apply_absent hdocument] at hn

@[simp] theorem settings_act (s : Scene) (action : Action) :
    (s.act action).overlay.settings = s.overlay.settings := by
  cases action with
  | put p e => rfl
  | remove p => rfl
  | apply document => exact s.overlay.settings_apply s.tree.files document
  | clear => rfl

/-! ## Runs -/

/-- The decorations are what the steps taken so far say: the image of the last apply that went well, or
none if there was no such apply or a clear came after it. -/
structure Agrees (s : Scene) (settings : Settings) (history : List Step) : Prop where
  settings_eq : s.overlay.settings = settings
  draws : ∀ step, IsLatest Step.Shows Step.Clears history step → step.Draws settings.suffix s.held
  empty : (∀ step, ¬IsLatest Step.Shows Step.Clears history step) → s.held = []

variable {settings : Settings} {history : List Step}

theorem agrees_start (settings : Settings) (tree : FileTree) :
    Agrees ⟨tree, ⟨settings, .empty⟩⟩ settings [] where
  settings_eq := rfl
  draws := by simp
  empty := by simp [held, DecorationLayer.empty]

/-- A step that neither shows nor clears anything, and leaves the decorations alone, adds nothing to the
history. -/
theorem Agrees.quiet (h : s.Agrees settings history) {action : Action}
    (hshows : ¬Step.Shows ⟨s, action⟩) (hclears : ¬Step.Clears ⟨s, action⟩)
    (hheld : (s.act action).held = s.held) :
    (s.act action).Agrees settings (history ++ [⟨s, action⟩]) where
  settings_eq := by rw [settings_act, h.settings_eq]
  draws := by
    intro step hstep
    rw [isLatest_concat_iff] at hstep
    rcases hstep with ⟨-, hshows'⟩ | ⟨hlatest, -⟩
    · exact absurd hshows' hshows
    · rw [hheld]
      exact h.draws step hlatest
  empty := by
    intro hnone
    rw [hheld]
    exact h.empty fun step hstep => hnone step (isLatest_concat_iff.2 (.inr ⟨hstep, hshows, hclears⟩))

theorem Agrees.act (h : s.Agrees settings history) (action : Action) :
    (s.act action).Agrees settings (history ++ [⟨s, action⟩]) := by
  cases action with
  | put p e => exact h.quiet id id rfl
  | remove p => exact h.quiet id id rfl
  | apply document =>
    by_cases hshows : Step.Shows ⟨s, .apply document⟩
    · obtain ⟨d, hload⟩ := exists_load_of_shows hshows
      refine ⟨by rw [settings_act, h.settings_eq], fun step hstep => ?_, fun hnone => ?_⟩
      · rcases isLatest_concat_iff.1 hstep with ⟨rfl, -⟩ | ⟨-, hnot, -⟩
        · exact ⟨d, h.settings_eq ▸ hload, (held_apply hload).2⟩
        · exact absurd hshows hnot
      · exact absurd (isLatest_concat_iff.2 (.inl ⟨rfl, hshows⟩)) (hnone _)
    · exact h.quiet hshows id (by rw [act_apply_of_not_shows hshows])
  | clear =>
    refine ⟨by rw [settings_act, h.settings_eq], fun step hstep => ?_, fun _ => rfl⟩
    rcases isLatest_concat_iff.1 hstep with ⟨-, hshows⟩ | ⟨-, -, hnot⟩
    · exact absurd hshows id
    · exact absurd trivial hnot

theorem Agrees.run (h : s.Agrees settings history) (actions : List Action) :
    (s.run actions).Agrees settings (history ++ s.steps actions) := by
  induction actions generalizing s history with
  | nil => simpa [steps, run] using h
  | cons action actions ih =>
    have hrest := ih (h.act action)
    rwa [List.append_assoc] at hrest

/-- After any changes of files, applies and clears, the decorations held are the annotations that the
last apply which went well read from the files as they were then, and none if there was no such apply
or a clear came after it. How an apply goes depends on which of its two files there are; if one is
missing, no renderer notices. -/
theorem held_lastShown (settings : Settings) (tree : FileTree) (actions : List Action) :
    let start : Scene := ⟨tree, ⟨settings, .empty⟩⟩
    let now := start.run actions
    (∀ step, IsLatest Step.Shows Step.Clears (start.steps actions) step →
        step.Draws settings.suffix now.held) ∧
      ((∀ step, ¬IsLatest Step.Shows Step.Clears (start.steps actions) step) → now.held = []) ∧
      (∀ document,
        let (outcome, overlay) := (now.overlay.apply now.tree.files document).value
        let coverage := Document.coveragePathOf document settings.suffix
        (outcome = .error (.documentNotFound document) ↔ ¬now.tree.files.Readable document) ∧
        (outcome = .ok (.missing coverage) ↔
          now.tree.files.Readable document ∧ ¬now.tree.files.Readable coverage) ∧
        (outcome = .ok (.applied overlay.renderer.decorations.length) ↔
          now.tree.files.Readable document ∧ now.tree.files.Readable coverage)) ∧
      ∀ (ρ : Type) [Renderer ρ] (o : Overlay ρ) (files : Files) (document : Path),
        ¬(files.Readable document ∧
          files.Readable (Document.coveragePathOf document o.settings.suffix)) →
        (o.apply files document).value.2 = o := by
  intro start now
  have hagrees : now.Agrees settings (start.steps actions) :=
    (agrees_start settings tree).run actions
  refine ⟨hagrees.draws, hagrees.empty, fun document => ?_, ?_⟩
  · have houtcome := now.overlay.outcome_apply now.tree.files document
    rwa [hagrees.settings_eq] at houtcome
  · intro ρ _ o files document hfiles
    exact o.apply_of_not_readable hfiles

/-- The record file of a document that is shown goes away, and another apply changes nothing. -/
theorem held_lastShown_uncovered :
    let document : Path := .ofString "f"
    let written : List Action :=
      [.put document (.file (Utf8.encode "abcd".toList)),
        .put (.ofString "f.cov") (.file (Utf8.encode "A:T,1,2".toList))]
    let later : List Action := [.remove (.ofString "f.cov"), .apply document]
    let start : Scene := ⟨.empty, ⟨.standard, .empty⟩⟩
    let shown : Step := ⟨start.run written, .apply document⟩
    IsLatest Step.Shows Step.Clears (start.steps (written ++ .apply document :: later)) shown ∧
      (start.run (written ++ .apply document :: later)).held =
        [⟨⟨2, 4, .executed⟩, "coverage-executed"⟩] := by
  intro document written later start shown
  have hlatest :
      IsLatest Step.Shows Step.Clears (start.steps (written ++ .apply document :: later)) shown := by
    refine ⟨start.steps written, (shown.scene.act shown.action).steps later, rfl, ⟨1, by cbv⟩, ?_⟩
    have hmissing : ¬Step.Shows ⟨(shown.scene.act shown.action).run [.remove (.ofString "f.cov")],
        .apply document⟩ := by
      rintro ⟨n, hn⟩
      have houtcome : Except.ok (Outcome.missing (.ofString "f.cov")) =
          (Except.ok (.applied n) : Except Error Outcome) := by
        rw [← hn]
        cbv
      simp at houtcome
    simp only [later, steps, List.mem_cons, List.not_mem_nil, or_false, forall_eq_or_imp, forall_eq]
    exact ⟨⟨id, id⟩, hmissing, id⟩
  obtain ⟨d, hload, hheld⟩ := (held_lastShown .standard .empty _).1 shown hlatest
  have hread : (Document.load (start.run written).tree.files document Settings.standard.suffix).value =
      .ok ⟨"abcd".toList, "A:T,1,2".toList, .ofString "f.cov"⟩ := by cbv
  rw [hread, Except.ok.injEq] at hload
  subst hload
  exact ⟨hlatest, hheld.trans (by cbv)⟩

end Scene

end CoverageOverlay
