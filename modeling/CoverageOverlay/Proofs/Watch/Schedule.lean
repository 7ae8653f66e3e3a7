-- SUMMARY: A watch among file changes: the steps that can happen, in every order in which they can.
import Mathlib.Logic.Relation
import CoverageOverlay.Proofs.Overlay.Frame
import CoverageOverlay.Proofs.Watch.Loop
import CoverageOverlay.Watch.Session

/-!
# Schedules of a watch

A watch takes its steps one after the other: it reads the files and shows them,
creates a watcher, attaches it to the directory, and then goes through its
loop. Files may change between any two of these steps, also between the reading
and the showing of one apply, which reads its two files in one step. Once the
watcher is attached, a change of the document or of its record file makes at
least one signal, which takes a while to get into the queue of the loop. What is
said of a watch holds for every schedule of these steps.
-/

namespace CoverageOverlay

/-! ## Files that agree -/

namespace Files

/-- Two views of the files give the same contents for some paths. -/
def AgreeOn (files files' : Files) (paths : List Path) : Prop :=
  ∀ p ∈ paths, files.read p = files'.read p

variable {files files' files'' : Files} {paths : List Path}

theorem agreeOn_refl (files : Files) (paths : List Path) : files.AgreeOn files paths :=
  fun _ _ => rfl

theorem AgreeOn.trans (h : files.AgreeOn files' paths) (h' : files'.AgreeOn files'' paths) :
    files.AgreeOn files'' paths :=
  fun p hp => (h p hp).trans (h' p hp)

theorem AgreeOn.symm (h : files.AgreeOn files' paths) : files'.AgreeOn files paths :=
  fun p hp => (h p hp).symm

end Files

namespace Watch

/-! ## Sessions -/

/-- How far a watch has come. -/
inductive Stage
  /-- Nothing is read yet. -/
  | fresh
  /-- The first apply has read the files and is to show them. -/
  | starting
  /-- The first apply is complete. -/
  | shown
  /-- There is a watcher, which watches nothing yet. -/
  | created
  /-- The loop runs. -/
  | following
  /-- The loop runs, and its re-apply has read the files and is to show them. -/
  | reapplying
deriving DecidableEq

/-- A watch with what is around it. -/
structure Session where
  stage : Stage
  /-- The files as they are. -/
  files : Files
  /-- The files as the last apply found them. -/
  found : Files
  /-- The number of signals on their way to the queue. -/
  undelivered : Nat
  loop : Loop
  overlay : Overlay Terminal
  /-- The last frame that was written. -/
  frame : Option (List UInt8)

namespace Session

/-- A watch that has not begun. -/
def start (o : Overlay Terminal) (files : Files) : Session where
  stage := .fresh
  files := files
  found := files
  undelivered := 0
  loop := .start
  overlay := o
  frame := none

/-- The watcher is attached to the directory. -/
def Attached (s : Session) : Prop :=
  s.stage = .following ∨ s.stage = .reapplying

/-- The session after an apply left the overlay `o`. -/
def display (s : Session) (o : Overlay Terminal) : Session :=
  { s with
    overlay := o
    frame := (Terminal.frameBetween? s.overlay.renderer o.renderer).or s.frame }

/-- The session after the watcher was attached. -/
def attach (s : Session) : Session :=
  { s with stage := .following }

/-- The last frame is the one of a document as its files are. -/
def UpToDate (s : Session) (document : Path) : Prop :=
  s.frame = s.overlay.rendering? s.files document

/-- The loop waits for a first signal, and there is none. -/
def Quiet (s : Session) : Prop :=
  s.stage = .following ∧ s.loop.isIdle = true ∧ s.undelivered = 0

/-- What can happen in a watch of a document. -/
inductive Step (document : Path) : Session → Session → Prop
  /-- Files change before the watcher is attached. -/
  | changeUnwatched {s : Session} (files : Files) (hstage : ¬s.Attached) :
    Step document s { s with files }
  /-- Files change afterwards. There are signals if one of the two files is among them. -/
  | change {s : Session} (files : Files) (signals : Nat) (hstage : s.Attached)
    (hsignals : files.AgreeOn s.files (watchedPaths document s.overlay.settings.suffix) ∨
      0 < signals) :
    Step document s { s with files, undelivered := s.undelivered + signals }
  /-- The first apply reads the files. -/
  | look {s : Session} (hstage : s.stage = .fresh) :
    Step document s { s with stage := .starting, found := s.files }
  /-- The first apply shows what it has read. If it fails there is nothing more to happen. -/
  | draw {s : Session} {warnings : Text} {o : Overlay Terminal} (hstage : s.stage = .starting)
    (hresult : (Watch.start s.overlay s.found document).value = (.ok warnings, o)) :
    Step document s { s.display o with stage := .shown }
  | create {s : Session} (hstage : s.stage = .shown) : Step document s { s with stage := .created }
  | attach {s : Session} (hstage : s.stage = .created) : Step document s s.attach
  /-- A signal gets into the queue. -/
  | deliver {s : Session} {n : Nat} {loop : Loop} (hundelivered : s.undelivered = n + 1)
    (hloop : s.loop.after? .send = some loop) : Step document s { s with undelivered := n, loop }
  | receive {s : Session} {loop : Loop} (hstage : s.stage = .following)
    (hloop : s.loop.after? .receive = some loop) : Step document s { s with loop }
  | timeOut {s : Session} {loop : Loop} (hstage : s.stage = .following)
    (hloop : s.loop.after? .timeOut = some loop) : Step document s { s with loop }
  /-- A re-apply reads the files. -/
  | relook {s : Session} (hstage : s.stage = .following) (hphase : s.loop.phase = .applying) :
    Step document s { s with stage := .reapplying, found := s.files }
  /-- A re-apply shows what it has read, or reports why it cannot. -/
  | redraw {s : Session} {loop : Loop} (hstage : s.stage = .reapplying)
    (hloop : s.loop.after? .finish = some loop) :
    Step document s
      { s.display (reapply s.overlay s.found document).value.2 with stage := .following, loop }

/-- What any number of steps lead to. -/
abbrev Reaches (document : Path) : Session → Session → Prop :=
  Relation.ReflTransGen (Step document)

end Session

/-! ## Applies -/

variable {ρ : Type} [Renderer ρ]

theorem applyOnce_overlay (o : Overlay ρ) (files : Files) (document : Path) :
    (applyOnce o files document).value.2 = (o.apply files document).value.2 := by
  simp only [applyOnce, Logged.bind_value]
  generalize (o.apply files document).value = applied
  obtain ⟨_ | (_ | _), o⟩ := applied <;> rfl

theorem start_overlay (o : Overlay ρ) (files : Files) (document : Path) :
    (start o files document).value.2 = (o.apply files document).value.2 := by
  rw [← applyOnce_overlay]
  simp only [start, Logged.bind_value]
  generalize (applyOnce o files document).value = applied
  obtain ⟨_ | _, o⟩ := applied <;> rfl

theorem reapply_overlay (o : Overlay ρ) (files : Files) (document : Path) :
    (reapply o files document).value.2 = (o.apply files document).value.2 := by
  rw [← applyOnce_overlay]
  simp only [reapply, Logged.bind_value]
  generalize (applyOnce o files document).value = applied
  obtain ⟨_ | _, o⟩ := applied <;> rfl

/-! ## Schedules that are possible -/

namespace Session

variable {document : Path} {o : Overlay Terminal} {files : Files} {s : Session}

/-- A watch whose first apply found the files `files`, and whose watcher was then created. In between
the files came to be `files'`. -/
def startedOn (document : Path) (o : Overlay Terminal) (files files' : Files) : Session :=
  { (start o files).display (Watch.start o files document).value.2 with
    stage := .created
    files := files' }

/-- A watch that starts well gets to where its watcher is created, whatever becomes of the files. -/
theorem reaches_startedOn
    (hstart : ∃ warnings, (Watch.start o files document).value.1 = .ok warnings) (files' : Files) :
    Reaches document (start o files) (startedOn document o files files') := by
  obtain ⟨warnings, hstart⟩ := hstart
  let starting : Session := { start o files with stage := .starting }
  let shown : Session :=
    { starting.display (Watch.start o files document).value.2 with stage := .shown }
  have hlook : Step document (start o files) starting := .look rfl
  have hdraw : Step document starting shown := .draw rfl (Prod.ext hstart rfl)
  have hcreate : Step document shown { shown with stage := .created } := .create rfl
  have hchange : Step document { shown with stage := .created } (startedOn document o files files') :=
    .changeUnwatched files' (by simp [Attached])
  exact (((Relation.ReflTransGen.single hlook).tail hdraw).tail hcreate).tail hchange

/-- A watch after its files came to be `files` and a re-apply found them so. -/
def refreshed (document : Path) (s : Session) (files : Files) : Session :=
  { s.display (reapply s.overlay files document).value.2 with
    files := files
    found := files
    loop := { s.loop with reapplied := s.loop.reapplied + 1 } }

/-- After any change a quiet watch can get through a re-apply. -/
theorem reaches_refreshed (hquiet : s.Quiet) (hconnected : s.loop.connected = true) (files : Files) :
    Reaches document s (s.refreshed document files) := by
  obtain ⟨stage, before, found, undelivered, ⟨phase, queued, connected, n⟩, o, frame⟩ := s
  obtain ⟨hstage, hidle, hundelivered⟩ := hquiet
  obtain ⟨hphase, hqueued⟩ := Loop.isIdle_iff.1 hidle
  simp only at hstage hphase hqueued hundelivered hconnected
  subst hstage hphase hqueued hundelivered hconnected
  let reapplying : Session := ⟨.reapplying, files, files, 0, ⟨.applying, 0, true, n⟩, o, frame⟩
  have hgathered : Reaches document ⟨.following, before, found, 0, ⟨.waiting, 0, true, n⟩, o, frame⟩
      ⟨.following, files, found, 0, ⟨.gathering, 0, true, n⟩, o, frame⟩ :=
    .head (.change files 1 (.inl rfl) (.inr Nat.one_pos)) <|
      .head (.deliver rfl rfl) <| .single (.receive rfl rfl)
  have hreapplying : Reaches document
      ⟨.following, files, found, 0, ⟨.gathering, 0, true, n⟩, o, frame⟩ reapplying :=
    .head (.timeOut rfl rfl) <| .single (.relook rfl rfl)
  exact (hgathered.trans hreapplying).tail (.redraw (s := reapplying) rfl rfl)

theorem quiet_refreshed (hquiet : s.Quiet) (document : Path) (files : Files) :
    (s.refreshed document files).Quiet := hquiet

end Session

end Watch

end CoverageOverlay
