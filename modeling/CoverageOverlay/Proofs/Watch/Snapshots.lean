-- SUMMARY: A watch as the sequence of its applies: what it writes and says, by the files that each apply found.
import Mathlib
import CoverageOverlay.Proofs.Error.Notices
import CoverageOverlay.Proofs.Overlay.Frame
import CoverageOverlay.Proofs.Watch.Loop
import CoverageOverlay.Proofs.Watch.Schedule

/-!
# A watch by its applies

However signals come in and files change, only the applies of a watch write
anything or say anything to people, and each of them goes by the files that it
finds. So the files found, in order, determine all that is written and said:
the frames of those that can be read together with their records, with the
screen cleared in between, and a message for each of the others. No apply but
the first can end the watch.
-/

namespace CoverageOverlay

/-! ## Frames in a row -/

namespace Terminal

/-- What stands between two frames in a row. -/
def separator : Markup → List UInt8
  | .ansi => Utf8.encode clearScreen
  | .plain => []

theorem clearing_eq (t : Terminal) :
    t.clearing = if t.painted then separator t.markup else [] := by
  cases hmarkup : t.markup <;> simp [clearing, separator, hmarkup]

theorem intercalate_concat (separator : List UInt8) (frames : List (List UInt8))
    (frame : List UInt8) :
    separator.intercalate (frames ++ [frame]) =
      separator.intercalate frames ++ ((if frames.isEmpty then [] else separator) ++ frame) := by
  induction frames with
  | nil => simp
  | cons first rest ih =>
    cases rest with
    | nil => simp
    | cons second rest =>
      simp only [List.cons_append, List.intercalate_cons_cons] at ih ⊢
      simp [ih]

end Terminal

namespace Overlay

variable {o o' : Overlay Terminal} {document : Path} {seen : List Files}

/-- On a surface that takes everything, an apply writes the frame of the files that it finds, behind what
clears the screen, if it finds both. -/
theorem renderer_apply (h : o.renderer.Unlimited) (files : Files) (document : Path) :
    let shown? := o.rendering? files document
    let renderer := (o.apply files document).value.2.renderer
    renderer.surface.taken =
        o.renderer.surface.taken ++ (shown?.elim [] fun shown => o.renderer.clearing ++ shown) ∧
      renderer.painted = (o.renderer.painted || shown?.isSome) := by
  by_cases hfiles : files.Readable document ∧
      files.Readable (Document.coveragePathOf document o.settings.suffix)
  · obtain ⟨d, hload⟩ := Document.exists_load_iff.2 hfiles
    simp [apply_of_unlimited h hload, rendering?, hload, Except.toOption]
  · have hnone : o.rendering? files document = none := by
      rw [← Option.not_isSome_iff_eq_none, isSome_rendering?_iff]
      exact hfiles
    simp [o.apply_of_not_readable hfiles, hnone]

/-- The frames of a document in some states of the files, as far as both of its files can be read. -/
def renderings (o : Overlay Terminal) (document : Path) (seen : List Files) : List (List UInt8) :=
  seen.filterMap fun files => o.rendering? files document

theorem renderings_concat (o : Overlay Terminal) (document : Path) (seen : List Files)
    (files : Files) :
    o.renderings document (seen ++ [files]) =
      o.renderings document seen ++ (o.rendering? files document).toList := by
  cases hshown : o.rendering? files document <;>
    simp [renderings, List.filterMap_append, hshown]

/-- The overlay `o'` is what becomes of `o` when applies find the files `seen`, one after the other. -/
structure Wrote (document : Path) (o : Overlay Terminal) (seen : List Files)
    (o' : Overlay Terminal) : Prop where
  continues : o.Continues o'
  taken : o'.renderer.surface.taken =
    (Terminal.separator o.renderer.markup).intercalate (o.renderings document seen)
  painted : o'.renderer.painted = !(o.renderings document seen).isEmpty

theorem wrote_new (settings : Settings) (markup : Markup) (composition : Composition)
    (document : Path) :
    Wrote document ⟨settings, .new markup composition⟩ [] ⟨settings, .new markup composition⟩ where
  continues := ⟨rfl, rfl, rfl, Terminal.unlimited_new markup composition⟩
  taken := rfl
  painted := rfl

/-- A further apply adds its frame to those that were written. -/
theorem Wrote.apply (h : Wrote document o seen o') (files : Files) :
    Wrote document o (seen ++ [files]) (o'.apply files document).value.2 := by
  obtain ⟨htaken, hpainted⟩ := renderer_apply h.continues.unlimited files document
  rw [h.continues.rendering?_eq] at htaken hpainted
  have hclearing : o'.renderer.clearing =
      if (o.renderings document seen).isEmpty then [] else Terminal.separator o.renderer.markup := by
    rw [Terminal.clearing_eq, h.painted, h.continues.markup]
    cases (o.renderings document seen).isEmpty <;> rfl
  refine ⟨h.continues.trans (continues_apply h.continues.unlimited files document).1, ?_, ?_⟩
  · rw [htaken, h.taken, renderings_concat, hclearing]
    cases o.rendering? files document with
    | none => simp
    | some shown => exact (Terminal.intercalate_concat _ _ _).symm
  · rw [hpainted, h.painted, renderings_concat]
    cases o.rendering? files document <;> simp

end Overlay

namespace Watch

/-! ## Messages -/

/-- What people are told when an apply finds the files so: that the document cannot be read, that its
records cannot, or nothing. -/
def complaint (document : Path) (suffix : Text) (files : Files) : Text :=
  match files.read document, files.read (Document.coveragePathOf document suffix) with
  | .error _, _ => (Error.documentNotFound document).notice
  | .ok _, .error _ =>
    "warning: no coverage records at ".toList ++ (Document.coveragePathOf document suffix).chars
      ++ ", keeping previous overlay\n".toList
  | .ok _, .ok _ => []

variable {o : Overlay Terminal} {files : Files} {document : Path}

theorem applyOnce_absent (hdocument : ¬files.Readable document) :
    (applyOnce o files document).value.1 = .error (.documentNotFound document) := by
  simp only [applyOnce, Logged.bind_value, o.apply_absent hdocument]
  rfl

/-- On a surface that takes everything, an apply fails only for want of the document. -/
theorem applyOnce_found (h : o.renderer.Unlimited) (hdocument : files.Readable document) :
    (applyOnce o files document).value.1 =
      .ok (complaint document o.settings.suffix files) := by
  obtain ⟨bytes, hbytes⟩ := hdocument
  simp only [applyOnce, Logged.bind_value]
  by_cases hcoverage : files.Readable (Document.coveragePathOf document o.settings.suffix)
  · obtain ⟨d, hload⟩ := Document.exists_load_iff.2 ⟨⟨bytes, hbytes⟩, hcoverage⟩
    obtain ⟨coverage, hcoverage⟩ := hcoverage
    rw [Overlay.apply_of_unlimited h hload]
    simp only [complaint, hbytes, hcoverage]
    rfl
  · rw [o.apply_uncovered ⟨bytes, hbytes⟩ hcoverage]
    obtain ⟨fault, hfault⟩ := Files.not_readable_iff.1 hcoverage
    simp only [complaint, hbytes, hfault]
    rfl

theorem start_found (h : o.renderer.Unlimited) (hdocument : files.Readable document) :
    (start o files document).value.1 = .ok (complaint document o.settings.suffix files) := by
  have happlied := applyOnce_found h hdocument
  simp only [start, Logged.bind_value]
  generalize (applyOnce o files document).value = applied at happlied ⊢
  obtain ⟨result, o'⟩ := applied
  subst happlied
  rfl

theorem readable_of_start_ok {warnings : Text}
    (h : (start o files document).value.1 = .ok warnings) : files.Readable document := by
  by_contra hdocument
  have happlied := applyOnce_absent (o := o) hdocument
  simp only [start, Logged.bind_value] at h
  generalize (applyOnce o files document).value = applied at happlied h
  obtain ⟨result, o'⟩ := applied
  subst happlied
  cases h

/-- A later apply says what is missing, and nothing else. -/
theorem reapply_messages (h : o.renderer.Unlimited) (files : Files) (document : Path) :
    (reapply o files document).value.1 = complaint document o.settings.suffix files := by
  have happlied : (applyOnce o files document).value.1 =
      .ok (complaint document o.settings.suffix files) ∨
      (applyOnce o files document).value.1 = .error (.documentNotFound document) ∧
        complaint document o.settings.suffix files = (Error.documentNotFound document).notice := by
    by_cases hdocument : files.Readable document
    · exact .inl (applyOnce_found h hdocument)
    · obtain ⟨fault, hfault⟩ := Files.not_readable_iff.1 hdocument
      exact .inr ⟨applyOnce_absent hdocument, by simp only [complaint, hfault]⟩
  simp only [reapply, Logged.bind_value]
  generalize (applyOnce o files document).value = applied at happlied ⊢
  obtain ⟨result, o'⟩ := applied
  rcases happlied with rfl | ⟨rfl, hcomplaint⟩
  · rfl
  · exact (Error.shown_eq_notice _).trans hcomplaint.symm

namespace Session

/-! ## Schedules with their applies -/

variable {document : Path} {o : Overlay Terminal} {s s₀ s' : Session} {seen : List Files}
  {said : Text}

/-- From the session `s` to `s'`, an apply deals with the files that it has found. -/
def Applies (s s' : Session) : Prop :=
  (s.stage = .starting ∨ s.stage = .reapplying) ∧ s'.stage ≠ s.stage

/-- What the apply of a session says to people. -/
def messages (document : Path) (s : Session) : Text :=
  if s.stage = .starting then
    (Watch.start s.overlay s.found document).value.1.toOption.getD []
  else (reapply s.overlay s.found document).value.1

/-- A schedule leads from the session `s₀` to another one. Its applies find the files `seen`, in this
order, and say `said` altogether. -/
inductive Recorded (document : Path) (s₀ : Session) : Session → List Files → Text → Prop
  | start : Recorded document s₀ s₀ [] []
  | silent {s s' : Session} {seen : List Files} {said : Text}
    (h : Recorded document s₀ s seen said) (hstep : Step document s s') (hsilent : ¬s.Applies s') :
    Recorded document s₀ s' seen said
  | apply {s s' : Session} {seen : List Files} {said : Text}
    (h : Recorded document s₀ s seen said) (hstep : Step document s s') (happlies : s.Applies s') :
    Recorded document s₀ s' (seen ++ [s.found]) (said ++ s.messages document)

/-- Every schedule can be recorded. -/
theorem exists_recorded_iff_reaches :
    (∃ seen said, Recorded document s₀ s seen said) ↔ Reaches document s₀ s := by
  constructor
  · rintro ⟨seen, said, h⟩
    induction h with
    | start => exact .refl
    | silent _ hstep _ ih => exact ih.tail hstep
    | apply _ hstep _ ih => exact ih.tail hstep
  · intro h
    induction h with
    | refl => exact ⟨[], [], .start⟩
    | @tail s s' _ hstep ih =>
      obtain ⟨seen, said, h⟩ := ih
      by_cases happlies : s.Applies s'
      · exact ⟨_, _, h.apply hstep happlies⟩
      · exact ⟨_, _, h.silent hstep happlies⟩

/-! ## One step -/

/-- The first apply is complete. -/
def Begun (s : Session) : Prop :=
  s.stage ≠ .fresh ∧ s.stage ≠ .starting

/-- From the session `s` to `s'`, nothing happens that can be seen from outside. -/
structure Silent (s s' : Session) : Prop where
  overlay : s'.overlay = s.overlay
  reapplied : s'.loop.reapplied = s.loop.reapplied
  connected : s'.loop.connected = s.loop.connected
  begun : s'.Begun ↔ s.Begun

theorem Step.silent (hstep : Step document s s') (h : ¬s.Applies s') : s.Silent s' := by
  cases hstep with
  | changeUnwatched files hstage => exact ⟨rfl, rfl, rfl, .rfl⟩
  | change files signals hstage hsignals => exact ⟨rfl, rfl, rfl, .rfl⟩
  | look hstage => exact ⟨rfl, rfl, rfl, by simp [Begun, hstage]⟩
  | draw hstage hresult => exact absurd ⟨.inl hstage, by simp [hstage]⟩ h
  | create hstage => exact ⟨rfl, rfl, rfl, by simp [Begun, hstage]⟩
  | attach hstage => exact ⟨rfl, rfl, rfl, by simp [Begun, Session.attach, hstage]⟩
  | deliver hundelivered hloop =>
    obtain ⟨-, rfl⟩ := Loop.after?_send_iff.1 hloop
    exact ⟨rfl, rfl, rfl, .rfl⟩
  | receive hstage hloop =>
    obtain ⟨-, n, -, rfl⟩ := Loop.after?_receive_iff.1 hloop
    exact ⟨rfl, rfl, rfl, .rfl⟩
  | timeOut hstage hloop =>
    obtain ⟨-, rfl⟩ := Loop.after?_timeOut_iff.1 hloop
    exact ⟨rfl, rfl, rfl, .rfl⟩
  | relook hstage hphase => exact ⟨rfl, rfl, rfl, by simp [Begun, hstage]⟩
  | redraw hstage hloop => exact absurd ⟨.inr hstage, by simp [hstage]⟩ h

/-- From the session `s` to `s'`, the apply of a document is displayed, with its messages. -/
structure Displayed (document : Path) (s s' : Session) : Prop where
  overlay : s'.overlay = (s.overlay.apply s.found document).value.2
  messages : s.messages document = complaint document s.overlay.settings.suffix s.found
  begun : s'.Begun
  /-- The first apply does not count. -/
  reapplied : s.Begun ∧ s'.loop.reapplied = s.loop.reapplied + 1 ∨
    ¬s.Begun ∧ s'.loop.reapplied = s.loop.reapplied
  connected : s'.loop.connected = s.loop.connected

theorem Step.displayed (hstep : Step document s s') (h : s.Applies s')
    (hunlimited : s.overlay.renderer.Unlimited) : Displayed document s s' := by
  cases hstep with
  | draw hstage hresult =>
    have hdocument := readable_of_start_ok (congrArg Prod.fst hresult)
    refine ⟨?_, ?_, by simp [Begun], .inr ⟨by simp [Begun, hstage], rfl⟩, rfl⟩
    · rw [← start_overlay, hresult]
      rfl
    · rw [Session.messages, if_pos hstage, start_found hunlimited hdocument]
      rfl
  | redraw hstage hloop =>
    obtain ⟨-, rfl⟩ := Loop.after?_finish_iff.1 hloop
    refine ⟨reapply_overlay s.overlay s.found document, ?_, by simp [Begun],
      .inl ⟨by simp [Begun, hstage], rfl⟩, rfl⟩
    rw [Session.messages, if_neg (by simp [hstage])]
    exact reapply_messages hunlimited s.found document
  | look hstage | create hstage | attach hstage => simp [Applies, hstage] at h
  | relook hstage hphase => simp [Applies, hstage] at h
  | _ => exact absurd rfl h.2

/-! ## Whole schedules -/

/-- A session is what its applies make of it. -/
structure Explained (document : Path) (o : Overlay Terminal) (s : Session) (seen : List Files)
    (said : Text) : Prop where
  wrote : o.Wrote document seen s.overlay
  said : said = seen.flatMap (complaint document o.settings.suffix)
  begun : s.Begun ↔ seen ≠ []
  reapplied : s.loop.reapplied = seen.length - 1
  connected : s.loop.connected = true

theorem Explained.silent (h : Explained document o s seen said) (hsilent : s.Silent s') :
    Explained document o s' seen said where
  wrote := hsilent.overlay ▸ h.wrote
  said := h.said
  begun := hsilent.begun.trans h.begun
  reapplied := hsilent.reapplied.trans h.reapplied
  connected := hsilent.connected.trans h.connected

theorem Explained.displayed (h : Explained document o s seen said)
    (hdisplayed : Displayed document s s') :
    Explained document o s' (seen ++ [s.found]) (said ++ s.messages document) where
  wrote := hdisplayed.overlay ▸ h.wrote.apply s.found
  said := by
    rw [hdisplayed.messages, h.wrote.continues.settings, h.said, List.flatMap_append,
      List.flatMap_singleton]
  begun := by simp [hdisplayed.begun]
  reapplied := by
    rcases hdisplayed.reapplied with ⟨hbegun, hreapplied⟩ | ⟨hbegun, hreapplied⟩
    · have hseen := List.length_pos_iff.2 (h.begun.1 hbegun)
      rw [hreapplied, h.reapplied, List.length_append, List.length_singleton]
      omega
    · have hseen : seen = [] := by simpa [h.begun] using hbegun
      rw [hreapplied, h.reapplied, hseen]
      rfl
  connected := hdisplayed.connected.trans h.connected

theorem Recorded.explained {files : Files} (h : Recorded document (.start o files) s seen said)
    (hnew : o.Wrote document [] o) : Explained document o s seen said := by
  induction h with
  | start => exact ⟨hnew, rfl, by simp [Begun, Session.start], rfl, rfl⟩
  | silent _ hstep hsilent ih => exact ih.silent (hstep.silent hsilent)
  | apply _ hstep happlies ih =>
    exact ih.displayed (hstep.displayed happlies ih.wrote.continues.unlimited)

/-! ## Schedules with given files -/

/-- The loop waits for the first signal of a burst. -/
def Waiting (s : Session) : Prop :=
  s.stage = .following ∧ s.loop.phase = .waiting

/-- A watch that finds its document gets to wait for changes. -/
theorem exists_recorded_first (hunlimited : o.renderer.Unlimited) {files : Files}
    (hdocument : files.Readable document) :
    ∃ s said, Recorded document (.start o files) s [files] said ∧ s.Waiting := by
  let starting : Session := { start o files with stage := .starting }
  let shown : Session :=
    { starting.display (Watch.start o files document).value.2 with stage := .shown }
  have hlook : Step document (start o files) starting := .look rfl
  have hdraw : Step document starting shown :=
    .draw rfl (Prod.ext (start_found hunlimited hdocument) rfl)
  have hcreate : Step document shown { shown with stage := .created } := .create rfl
  have hattach : Step document { shown with stage := .created }
      (attach { shown with stage := .created }) := .attach rfl
  have hshown : Recorded document (.start o files) shown [files] (starting.messages document) :=
    (Recorded.start.silent hlook (by simp [Applies, start])).apply hdraw ⟨.inl rfl, by simp [starting, shown]⟩
  refine ⟨_, _, (hshown.silent hcreate (by simp [Applies, shown])).silent hattach
    (by simp [Applies]), rfl, rfl⟩

/-- A watch that waits for changes gets through a re-apply, whatever this finds, and waits again. -/
theorem exists_recorded_next (h : Recorded document s₀ s seen said) (hwaiting : s.Waiting)
    (hconnected : s.loop.connected = true) (files : Files) :
    ∃ s' said', Recorded document s₀ s' (seen ++ [files]) said' ∧ s'.Waiting := by
  obtain ⟨stage, before, found, undelivered, ⟨phase, queued, connected, n⟩, o, frame⟩ := s
  obtain ⟨hstage, hphase⟩ := hwaiting
  simp only at hstage hphase hconnected
  subst hstage hphase hconnected
  have hchanged := h.silent (.change files 1 (.inl rfl) (.inr Nat.one_pos)) (by simp [Applies])
  have hdelivered := hchanged.silent (.deliver rfl rfl) (by simp [Applies])
  have hreceived := hdelivered.silent (.receive rfl rfl) (by simp [Applies])
  have hgathered := hreceived.silent (.timeOut rfl rfl) (by simp [Applies])
  have hlooked := hgathered.silent (.relook rfl rfl) (by simp [Applies])
  exact ⟨_, _, hlooked.apply (.redraw rfl rfl) ⟨.inr rfl, by simp⟩, rfl, rfl⟩

/-- A watch that finds its document at first can find any files afterwards. -/
theorem exists_recorded (hnew : o.Wrote document [] o) {initial : Files}
    (hdocument : initial.Readable document) (later : List Files) :
    ∃ s said, Recorded document (.start o initial) s (initial :: later) said ∧ s.Waiting := by
  induction later using List.reverseRecOn with
  | nil => exact exists_recorded_first hnew.continues.unlimited hdocument
  | append_singleton later files ih =>
    obtain ⟨s, said, h, hwaiting⟩ := ih
    exact exists_recorded_next h hwaiting (h.explained hnew).connected files

/-- A watch whose surface takes everything and whose first apply finds the document: whatever files its
re-applies are to find, there is a schedule in which they do. In every schedule in which they do, it has
written the frames of the files found, as far as document and records could be read, with the screen
cleared between them; it has said for each of the other files what was missing; it has counted the
re-applies; and where it waits for changes, it gets through a further re-apply. -/
theorem recorded_exact (settings : Settings) (markup : Markup) (composition : Composition)
    (document : Path) (initial : Files) (later : List Files)
    (hdocument : initial.Readable document) :
    let o : Overlay Terminal := ⟨settings, .new markup composition⟩
    (∃ s said, Recorded document (.start o initial) s (initial :: later) said ∧ s.Waiting) ∧
      ∀ files s said, Recorded document (.start o files) s (initial :: later) said →
        s.overlay.renderer.surface.taken =
            (Terminal.separator markup).intercalate (o.renderings document (initial :: later)) ∧
          said = (initial :: later).flatMap (complaint document settings.suffix) ∧
          s.loop.reapplied = later.length ∧
          (s.Waiting → ∀ next, ∃ s' said',
            Recorded document (.start o files) s' (initial :: later ++ [next]) said' ∧
              s'.Waiting) := by
  intro o
  have hnew : o.Wrote document [] o := Overlay.wrote_new settings markup composition document
  refine ⟨exists_recorded hnew hdocument later, fun files s said h => ?_⟩
  have hexplained := h.explained hnew
  exact ⟨hexplained.wrote.taken, hexplained.said, hexplained.reapplied, fun hwaiting next =>
    exists_recorded_next h hwaiting hexplained.connected next⟩

/-- The records of a document come late, then the document is gone for a while: there are two frames, with
the screen cleared once between them, and two messages. -/
theorem recorded_exact_recovered :
    let document : Path := .ofString "f"
    let absent : Files := .ofReads [] fun _ => []
    let uncovered : Files := .ofReads [(document, .ok [])] fun _ => []
    let covered (text : String) : Files :=
      .ofReads [(document, .ok (Utf8.encode text.toList)),
        (.ofString "f.cov", .ok (Utf8.encode "A:T,0,1".toList))] fun _ => []
    let o : Overlay Terminal := ⟨.standard, .new .ansi .last⟩
    ∃ s said, Recorded document (.start o uncovered) s
        [uncovered, covered "ab", absent, covered "cd"] said ∧
      s.overlay.renderer.surface.taken =
        Utf8.encode "\x1b[32ma\x1b[0mb\n\x1b[2J\x1b[H\x1b[32mc\x1b[0md\n".toList ∧
      said = "warning: no coverage records at f.cov, keeping previous overlay\n".toList
        ++ "\x1b[1m# Error: Document Not Found\x1b[0m\n\n".toList
        ++ "`f` does not exist or cannot be read.\n".toList ∧
      s.loop.reapplied = 3 := by
  intro document absent uncovered covered o
  obtain ⟨⟨s, said, hrecorded, -⟩, hall⟩ :=
    recorded_exact .standard .ansi .last document uncovered [covered "ab", absent, covered "cd"]
      ⟨[], by cbv⟩
  obtain ⟨htaken, hsaid, hreapplied, -⟩ := hall uncovered s said hrecorded
  refine ⟨s, said, hrecorded, htaken.trans ?_, hsaid.trans ?_, hreapplied⟩
  · cbv
  · have huncovered : complaint document Settings.standard.suffix uncovered =
        "warning: no coverage records at ".toList ++ ['f', '.', 'c', 'o', 'v']
          ++ ", keeping previous overlay\n".toList := rfl
    have habsent : complaint document Settings.standard.suffix absent =
        "\x1b[1m# Error: Document Not Found\x1b[0m\n\n".toList ++
          Error.said ("`".toList ++ ['f'] ++ "` does not exist or cannot be read.\n".toList) := rfl
    have hcovered (text : String) : complaint document Settings.standard.suffix (covered text) = [] :=
      rfl
    have hsentence : Error.said ("`".toList ++ ['f'] ++ "` does not exist or cannot be read.\n".toList) =
        "`f` does not exist or cannot be read.\n".toList := by decide +kernel
    simp only [List.flatMap_cons, List.flatMap_nil, huncovered, habsent, hcovered, hsentence]
    decide +kernel

end Session

end Watch

end CoverageOverlay
