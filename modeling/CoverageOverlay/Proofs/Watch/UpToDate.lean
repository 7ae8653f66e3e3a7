-- SUMMARY: When a watch that has come to rest shows its document as the files are.
import Mathlib
import CoverageOverlay.Proofs.Watch.Loop
import CoverageOverlay.Proofs.Watch.Schedule

/-!
# What a quiet watch shows

Every change after the watcher is attached leads to a re-apply that reads the
files later than the change. So when no re-apply is due, the files are still as
the last re-apply found them, or as they were when the watcher was attached if
there was no re-apply yet.

The first apply reads the files before there is a watcher. A change between the
two is seen by nobody, and what the first apply showed stays until something
else changes.
-/

namespace CoverageOverlay

namespace Watch

variable {o : Overlay Terminal} {files files' : Files} {document : Path}

theorem rendering?_eq_of_agreeOn
    (h : files.AgreeOn files' (watchedPaths document o.settings.suffix)) :
    o.rendering? files document = o.rendering? files' document :=
  Overlay.rendering?_congr (h _ (by simp [watchedPaths])) (h _ (by simp [watchedPaths]))

namespace Session

/-! ## What every step keeps -/

variable {a b s s' : Session}

/-- An apply is displayed with the frame of the files that it found, if it found both. -/
theorem display_apply (h : o.Continues s.overlay) (files : Files) (document : Path) :
    o.Continues (s.display (s.overlay.apply files document).value.2).overlay ∧
      (s.display (s.overlay.apply files document).value.2).frame =
        (o.rendering? files document).or s.frame := by
  obtain ⟨hcontinues, hwrote⟩ := Overlay.continues_apply h.unlimited files document
  refine ⟨h.trans hcontinues, ?_⟩
  rw [display, hwrote, h.rendering?_eq]

theorem display_start (h : o.Continues s.overlay) {warnings : Text} {o' : Overlay Terminal}
    (hresult : (Watch.start s.overlay s.found document).value = (.ok warnings, o')) :
    o.Continues (s.display o').overlay ∧
      (s.display o').frame = (o.rendering? s.found document).or s.frame := by
  have hoverlay : o' = (s.overlay.apply s.found document).value.2 := by
    rw [← start_overlay, hresult]
  rw [hoverlay]
  exact display_apply h s.found document

theorem display_reapply (h : o.Continues s.overlay) (document : Path) :
    let o' := (reapply s.overlay s.found document).value.2
    o.Continues (s.display o').overlay ∧
      (s.display o').frame = (o.rendering? s.found document).or s.frame := by
  rw [reapply_overlay]
  exact display_apply h s.found document

theorem continues_step (h : o.Continues s.overlay) (hstep : Step document s s') :
    o.Continues s'.overlay := by
  cases hstep with
  | draw hstage hresult => exact (display_start h hresult).1
  | redraw hstage hloop => exact (display_reapply h document).1
  | _ => exact h

theorem continues_of_reaches (h : o.Continues s.overlay) (hreaches : Reaches document s s') :
    o.Continues s'.overlay := by
  induction hreaches with
  | refl => exact h
  | tail _ hstep ih => exact continues_step ih hstep

/-! ## Before the watcher is attached -/

/-- While nothing is watched, there are no signals, and the first apply, once it is complete, shows what
it has found. -/
structure Starting (document : Path) (o : Overlay Terminal) (s : Session) : Prop where
  loop : s.loop = .start
  undelivered : s.undelivered = 0
  shown : s.stage = .shown ∨ s.stage = .created →
    ∀ shown, o.rendering? s.found document = some shown → s.frame = some shown

theorem Starting.step (hcontinues : o.Continues s.overlay)
    (h : ¬s.Attached → s.Starting document o) (hstep : Step document s s')
    (hstage' : ¬s'.Attached) : s'.Starting document o := by
  cases hstep with
  | changeUnwatched files hstage => exact { h hstage with }
  | change files signals hstage hsignals => exact absurd hstage hstage'
  | look hstage =>
    have hstarting := h (by simp [Attached, hstage])
    exact ⟨hstarting.loop, hstarting.undelivered, by simp⟩
  | draw hstage hresult =>
    have hstarting := h (by simp [Attached, hstage])
    refine ⟨hstarting.loop, hstarting.undelivered, fun _ shown hshown => ?_⟩
    have hframe := (display_start hcontinues hresult).2
    simpa [show o.rendering? s.found document = some shown from hshown] using hframe
  | create hstage =>
    have hstarting := h (by simp [Attached, hstage])
    exact ⟨hstarting.loop, hstarting.undelivered, fun _ => hstarting.shown (.inl hstage)⟩
  | attach hstage => exact absurd (.inl rfl) hstage'
  | deliver hundelivered hloop =>
    have hnone := (h hstage').undelivered
    omega
  | receive hstage hloop => exact absurd (.inl hstage) hstage'
  | timeOut hstage hloop => exact absurd (.inl hstage) hstage'
  | relook hstage hphase => exact absurd (.inr rfl) hstage'
  | redraw hstage hloop => exact absurd (.inl rfl) hstage'

theorem starting_of_reaches (hunlimited : o.renderer.Unlimited)
    (hreaches : Reaches document (.start o files) s) (hstage : ¬s.Attached) :
    s.Starting document o := by
  have hstart : o.Continues (Session.start o files).overlay := ⟨rfl, rfl, rfl, hunlimited⟩
  revert hstage
  induction hreaches with
  | refl => exact fun _ => ⟨rfl, rfl, by simp [Session.start]⟩
  | tail hbefore hstep ih => exact Starting.step (continues_of_reaches hstart hbefore) ih hstep

/-! ## Afterwards -/

/-- A re-apply is still to come that will read the files: a signal is on its way or in the queue, a burst
is being gathered, or the re-apply for it has not read them yet. -/
def Due (s : Session) : Prop :=
  0 < s.undelivered ∨ 0 < s.loop.queued ∨ s.loop.phase = .gathering ∨
    s.loop.phase = .applying ∧ s.stage = .following

/-- The files as they were when they were last looked at: by the re-apply under way, by the last
re-apply, or, before the first of them, when the watcher was attached in the session `a`. -/
def seen (a s : Session) : Files :=
  if s.stage = .following ∧ s.loop.reapplied = 0 then a.files else s.found

/-- Since the watcher was attached in the session `a`, no change was lost. -/
structure Follows (document : Path) (a s : Session) : Prop where
  attached : s.Attached
  continues : a.overlay.Continues s.overlay
  current : s.Due ∨
    (seen a s).AgreeOn s.files (watchedPaths document a.overlay.settings.suffix)
  untouched : s.loop.reapplied = 0 → s.frame = a.frame
  shown : s.stage = .following → s.loop.reapplied ≠ 0 →
    ∀ shown, a.overlay.rendering? s.found document = some shown → s.frame = some shown

theorem follows_attach (hunlimited : s.overlay.renderer.Unlimited) (hloop : s.loop = .start) :
    Follows document s.attach s.attach where
  attached := .inl rfl
  continues := ⟨rfl, rfl, rfl, hunlimited⟩
  current := .inr (by simp [seen, attach, hloop, Loop.start, Files.agreeOn_refl])
  untouched := fun _ => rfl
  shown := by simp [attach, hloop, Loop.start]

theorem Follows.step (h : Follows document a s) (hstep : Step document s s') :
    Follows document a s' := by
  have hcontinues' := continues_step h.continues hstep
  cases hstep with
  | changeUnwatched files hstage => exact absurd h.attached hstage
  | change files signals hstage hsignals =>
    refine ⟨h.attached, hcontinues', ?_, h.untouched, h.shown⟩
    rw [h.continues.settings] at hsignals
    -- What has changed unseen has signalled, and what has not signalled is the same.
    rcases hsignals with hagree | hsignals
    · rcases h.current with hdue | hseen
      · exact .inl (hdue.imp_left fun hundelivered => Nat.add_pos_left hundelivered signals)
      · exact .inr (hseen.trans hagree.symm)
    · exact .inl (.inl (Nat.add_pos_right s.undelivered hsignals))
  | look hstage => exact absurd h.attached (by simp [Attached, hstage])
  | draw hstage hresult => exact absurd h.attached (by simp [Attached, hstage])
  | create hstage => exact absurd h.attached (by simp [Attached, hstage])
  | attach hstage => exact absurd h.attached (by simp [Attached, hstage])
  | deliver hundelivered hloop =>
    obtain ⟨-, rfl⟩ := Loop.after?_send_iff.1 hloop
    exact ⟨h.attached, hcontinues', .inl (.inr (.inl (Nat.succ_pos _))), h.untouched, h.shown⟩
  | receive hstage hloop =>
    obtain ⟨-, n, -, rfl⟩ := Loop.after?_receive_iff.1 hloop
    exact ⟨h.attached, hcontinues', .inl (.inr (.inr (.inl rfl))), h.untouched, h.shown⟩
  | timeOut hstage hloop =>
    obtain ⟨-, rfl⟩ := Loop.after?_timeOut_iff.1 hloop
    exact ⟨h.attached, hcontinues', .inl (.inr (.inr (.inr ⟨rfl, hstage⟩))), h.untouched, h.shown⟩
  | relook hstage hphase =>
    exact ⟨.inr rfl, hcontinues', .inr (by simp [seen, Files.agreeOn_refl]), h.untouched, by simp⟩
  | redraw hstage hloop =>
    obtain ⟨hphase, rfl⟩ := Loop.after?_finish_iff.1 hloop
    refine ⟨.inl rfl, hcontinues', ?_, by simp, fun _ _ shown hshown => ?_⟩
    · rcases h.current with hdue | hseen
      · left
        simpa [Due, hphase, hstage, display] using hdue
      · right
        simpa [seen, hstage, display] using hseen
    · have hframe := (display_reapply h.continues document).2
      simpa [show a.overlay.rendering? s.found document = some shown from hshown] using hframe

theorem Follows.reaches (h : Follows document a s) (hreaches : Reaches document s s') :
    Follows document a s' := by
  induction hreaches with
  | refl => exact h
  | tail _ hstep ih => exact ih.step hstep

/-! ## Where the loop is quiet -/

/-- Where the loop is quiet, the files are as they were last seen. -/
theorem Follows.agreeOn_of_quiet (h : Follows document a s) (hquiet : s.Quiet) :
    (seen a s).AgreeOn s.files (watchedPaths document a.overlay.settings.suffix) := by
  obtain ⟨hstage, hidle, hundelivered⟩ := hquiet
  obtain ⟨hphase, hqueued⟩ := Loop.isIdle_iff.1 hidle
  refine h.current.resolve_left ?_
  simp [Due, hundelivered, hqueued, hphase]

/-- A re-apply brings the document up to date. -/
theorem Follows.upToDate_of_reapplied (h : Follows document a s) (hquiet : s.Quiet)
    (hreapplied : s.loop.reapplied ≠ 0) {shown : List UInt8}
    (hshown : a.overlay.rendering? s.files document = some shown) : s.UpToDate document := by
  have hagree := h.agreeOn_of_quiet hquiet
  rw [seen, if_neg (by simp [hreapplied])] at hagree
  have hframe : s.frame = some shown :=
    h.shown hquiet.1 hreapplied shown ((rendering?_eq_of_agreeOn hagree).trans hshown)
  rw [UpToDate, h.continues.rendering?_eq, hframe, hshown]

/-- Before the first re-apply the document is as much up to date as when the watcher was attached. -/
theorem Follows.upToDate_iff_of_not_reapplied (h : Follows document a s) (hquiet : s.Quiet)
    (hreapplied : s.loop.reapplied = 0) : s.UpToDate document ↔ a.UpToDate document := by
  have hagree := h.agreeOn_of_quiet hquiet
  rw [seen, if_pos ⟨hquiet.1, hreapplied⟩] at hagree
  rw [UpToDate, h.continues.rendering?_eq, h.untouched hreapplied, UpToDate,
    rendering?_eq_of_agreeOn hagree]

/-- In the session `b` the watcher was attached, and this has led to the session `s`. -/
structure AttachedIn (document : Path) (o : Overlay Terminal) (files : Files) (b s : Session) :
    Prop where
  reached : Reaches document (.start o files) b
  created : b.stage = .created
  followed : Reaches document b.attach s

/-- Every watcher that is attached was attached at some time. -/
theorem exists_attachedIn (hreaches : Reaches document (.start o files) s) (hattached : s.Attached) :
    ∃ b, AttachedIn document o files b s := by
  induction hreaches with
  | refl => simp [Attached, Session.start] at hattached
  | @tail s s' hbefore hstep ih =>
    by_cases hs : s.Attached
    · obtain ⟨b, hb⟩ := ih hs
      exact ⟨b, hb.reached, hb.created, hb.followed.tail hstep⟩
    · cases hstep with
      | attach hstage => exact ⟨s, hbefore, hstage, .refl⟩
      | change files signals hstage hsignals => exact absurd hstage hs
      | changeUnwatched files hstage => exact absurd hattached hstage
      | look hstage => simp [Attached] at hattached
      | draw hstage hresult => simp [Attached] at hattached
      | create hstage => simp [Attached] at hattached
      | deliver hundelivered hloop => exact absurd hattached hs
      | receive hstage hloop => exact absurd (.inl hstage) hs
      | timeOut hstage hloop => exact absurd (.inl hstage) hs
      | relook hstage hphase => exact absurd (.inl hstage) hs
      | redraw hstage hloop => exact absurd (.inr hstage) hs

/-- A quiet watch of a document that can be read, with its records, shows it as the files are exactly if
there was a re-apply, or if the first apply showed what was there when the watcher was attached. So it
does if the files have not changed between the first apply and the attaching. -/
theorem upToDate_iff (hunlimited : o.renderer.Unlimited)
    (hreaches : Reaches document (.start o files) s) (hquiet : s.Quiet)
    (hdocument : s.files.Readable document)
    (hcoverage : s.files.Readable (Document.coveragePathOf document o.settings.suffix)) :
    (∃ b, AttachedIn document o files b s) ∧
      ∀ b, AttachedIn document o files b s →
        (s.UpToDate document ↔ s.loop.reapplied ≠ 0 ∨ b.UpToDate document) ∧
        (b.found.AgreeOn b.files (watchedPaths document o.settings.suffix) →
          s.UpToDate document) := by
  refine ⟨exists_attachedIn hreaches (.inl hquiet.1), fun b hb => ?_⟩
  have hcontinues : o.Continues b.overlay :=
    continues_of_reaches (s := .start o files) ⟨rfl, rfl, rfl, hunlimited⟩ hb.reached
  have hstarting : b.Starting document o :=
    starting_of_reaches hunlimited hb.reached (by simp [Attached, hb.created])
  have hfollows : Follows document b.attach s :=
    (follows_attach hcontinues.unlimited hstarting.loop).reaches hb.followed
  obtain ⟨shown, hshown⟩ : ∃ shown, o.rendering? s.files document = some shown :=
    Option.isSome_iff_exists.1 (Overlay.isSome_rendering?_iff.2 ⟨hdocument, hcoverage⟩)
  have hiff : s.UpToDate document ↔ s.loop.reapplied ≠ 0 ∨ b.UpToDate document := by
    by_cases hreapplied : s.loop.reapplied = 0
    · have hattached : s.UpToDate document ↔ b.UpToDate document :=
        hfollows.upToDate_iff_of_not_reapplied hquiet hreapplied
      simpa [hreapplied] using hattached
    · simpa [hreapplied] using hfollows.upToDate_of_reapplied hquiet hreapplied
        ((hcontinues.rendering?_eq s.files document).trans hshown)
  refine ⟨hiff, fun hagree => hiff.2 ?_⟩
  by_cases hreapplied : s.loop.reapplied = 0
  · right
    have hseen := hfollows.agreeOn_of_quiet hquiet
    rw [seen, if_pos ⟨hquiet.1, hreapplied⟩] at hseen
    have hfound : o.rendering? b.found document = some shown :=
      (rendering?_eq_of_agreeOn (hagree.trans (hcontinues.settings ▸ hseen))).trans hshown
    rw [UpToDate, hstarting.shown (.inr hb.created) shown hfound, hcontinues.rendering?_eq,
      ← rendering?_eq_of_agreeOn hagree, hfound]
  · exact .inl hreapplied

/-- A document changes between the first apply and the attaching. When its records are saved once more,
there is a re-apply, and the document is up to date. -/
theorem upToDate_iff_refreshed :
    let document : Path := .ofString "f"
    let files (text : String) : Files :=
      .ofReads [(document, .ok (Utf8.encode text.toList)), (.ofString "f.cov", .ok [])] fun _ => []
    let o : Overlay Terminal := ⟨.standard, .new .plain .last⟩
    let s := (startedOn document o (files "a") (files "b")).attach.refreshed document (files "b")
    Reaches document (.start o (files "a")) s ∧ s.Quiet ∧ s.UpToDate document ∧
      s.frame = some (Utf8.encode "b\n".toList) := by
  intro document files o s
  have hstarted : Reaches document (.start o (files "a")) (startedOn document o (files "a") (files "b")) :=
    reaches_startedOn ⟨[], by cbv⟩ (files "b")
  have hattached := hstarted.tail (.attach rfl)
  have hquiet : (startedOn document o (files "a") (files "b")).attach.Quiet := ⟨rfl, rfl, rfl⟩
  have hreaches : Reaches document (.start o (files "a")) s :=
    hattached.trans (reaches_refreshed hquiet rfl (files "b"))
  have hupToDate : s.UpToDate document := by
    obtain ⟨⟨b, hb⟩, hall⟩ := upToDate_iff (Terminal.unlimited_new .plain .last) hreaches
      (quiet_refreshed hquiet document (files "b")) ⟨_, rfl⟩ ⟨_, rfl⟩
    exact ((hall b hb).1).2 (.inl (Nat.succ_ne_zero _))
  refine ⟨hreaches, quiet_refreshed hquiet document (files "b"), hupToDate, hupToDate.trans ?_⟩
  cbv

/-- A document changes between the first apply and the attaching, and nothing happens any more: what is
shown is not the document. -/
theorem not_upToDate :
    let document : Path := .ofString "f"
    let files (text : String) : Files :=
      .ofReads [(document, .ok (Utf8.encode text.toList)), (.ofString "f.cov", .ok [])] fun _ => []
    let o : Overlay Terminal := ⟨.standard, .new .plain .last⟩
    let s := (startedOn document o (files "a") (files "b")).attach
    o.renderer.Unlimited ∧ Reaches document (.start o (files "a")) s ∧ s.Quiet ∧
      s.files.Readable document ∧ s.files.Readable (.ofString "f.cov") ∧
      s.frame = some (Utf8.encode "a\n".toList) ∧
      s.overlay.rendering? s.files document = some (Utf8.encode "b\n".toList) ∧
      ¬s.UpToDate document := by
  intro document files o s
  have hframe : s.frame = some (Utf8.encode "a\n".toList) := by cbv
  have hrendering : s.overlay.rendering? s.files document = some (Utf8.encode "b\n".toList) := by cbv
  refine ⟨Terminal.unlimited_new .plain .last,
    (reaches_startedOn ⟨[], by cbv⟩ (files "b")).tail (.attach rfl), ⟨rfl, rfl, rfl⟩,
    ⟨_, rfl⟩, ⟨_, rfl⟩, hframe, hrendering, ?_⟩
  rw [UpToDate, hframe, hrendering]
  decide

end Session

end Watch

end CoverageOverlay
