-- SUMMARY: What a step of a terminal writes, how it ends, and what it leaves to the next one.
import Mathlib.Data.List.TakeDrop
import CoverageOverlay.Proofs.History
import CoverageOverlay.Surface.Terminal

/-!
# Steps of a terminal

A step of a terminal writes one string of bytes, though it writes it in pieces:
the sequence that clears the screen where one is due, and for an apply the
frame behind it. A surface takes of the pieces what it would take of the whole,
so where the writing breaks off depends only on how much room there is. How the
step ends, and whether a whole frame stands on the screen afterwards, can then
be read off the lengths of the two parts.
-/

namespace CoverageOverlay

/-! ## Writing on a surface -/

namespace Surface

/-- There is room for `length` bytes. -/
def Fits (s : Surface) (length : Nat) : Prop :=
  ∀ room ∈ s.room, length ≤ room

instance (s : Surface) (length : Nat) : Decidable (s.Fits length) :=
  inferInstanceAs (Decidable (∀ room ∈ s.room, length ≤ room))

/-- The part of some bytes that there is room for. -/
def accepted (s : Surface) (bytes : List UInt8) : List UInt8 :=
  match s.room with
  | none => bytes
  | some room => bytes.take room

/-- The surface after bytes were written on it. -/
def after (s : Surface) (bytes : List UInt8) : Surface :=
  { s with taken := s.taken ++ s.accepted bytes, room := s.room.map (· - bytes.length) }

variable {s : Surface} {bytes more : List UInt8}

@[simp] theorem taken_after : (s.after bytes).taken = s.taken ++ s.accepted bytes := rfl

@[simp] theorem flushFails_after : (s.after bytes).flushFails = s.flushFails := rfl

@[simp] theorem flush_after : (s.after bytes).flush = s.flush := rfl

@[simp] theorem accepted_nil : s.accepted [] = [] := by
  cases hroom : s.room <;> simp [accepted, hroom]

@[simp] theorem after_nil : s.after [] = s := by
  simp [after]

theorem fits_zero : s.Fits 0 := fun room _ => Nat.zero_le room

theorem Fits.mono {m n : Nat} (h : s.Fits n) (hle : m ≤ n) : s.Fits m :=
  fun room hroom => Nat.le_trans hle (h room hroom)

theorem write_eq (s : Surface) (bytes : List UInt8) :
    s.write bytes =
      (if s.Fits bytes.length then .ok () else .error goneFault, s.after bytes) := by
  cases hroom : s.room with
  | none => simp [write, Fits, after, accepted, hroom]
  | some room =>
    by_cases hle : bytes.length ≤ room <;>
      simp [write, Fits, after, accepted, hroom, hle]

theorem accepted_eq_self_iff : s.accepted bytes = bytes ↔ s.Fits bytes.length := by
  cases hroom : s.room with
  | none => simp [accepted, Fits, hroom]
  | some room => simp [accepted, Fits, hroom, List.take_eq_self_iff]

/-- Bytes written one after the other are taken as if they were written at once. -/
theorem after_after (s : Surface) (bytes more : List UInt8) :
    (s.after bytes).after more = s.after (bytes ++ more) := by
  cases hroom : s.room with
  | none => simp [after, accepted, hroom]
  | some room => simp [after, accepted, hroom, List.take_append, Nat.sub_sub]

theorem fits_after_iff (h : s.Fits bytes.length) (more : List UInt8) :
    (s.after bytes).Fits more.length ↔ s.Fits (bytes ++ more).length := by
  cases hroom : s.room with
  | none => simp [Fits, after, hroom]
  | some room =>
    have hle : bytes.length ≤ room := h room hroom
    simp only [Fits, after, hroom, Option.map_some, Option.mem_def, Option.some.injEq,
      forall_eq', List.length_append]
    omega

/-- Of bytes that do not fit, nothing behind them is taken. -/
theorem after_append_of_not_fits (h : ¬s.Fits bytes.length) :
    s.after (bytes ++ more) = s.after bytes := by
  cases hroom : s.room with
  | none => simp [Fits, hroom] at h
  | some room =>
    have hlt : room < bytes.length := by simpa [Fits, hroom] using h
    have hzero : room - (bytes.length + more.length) = room - bytes.length := by omega
    simp [after, accepted, hroom, hzero, List.take_append_of_le_length (Nat.le_of_lt hlt)]

end Surface

/-! ## One step -/

namespace Terminal

/-- The bytes of the frame that shows a set over a document. -/
def frame (composition : Composition) (markup : Markup) (document : Text) (set : CoverageSet) :
    List UInt8 :=
  let drawn := set.draw document composition markup
  Utf8.encode (drawn ++ lineEnd drawn)

/-- The bytes that clear the screen, if a frame stands on it. -/
def clearing (t : Terminal) : List UInt8 :=
  if t.painted ∧ t.markup = .ansi then Utf8.encode clearScreen else []

variable {t : Terminal} {document : Text} {set : CoverageSet}

@[simp] theorem andThen_ok (t : Terminal) (next : Terminal → Except Error Unit × Terminal) :
    andThen (.ok (), t) next = next t := rfl

@[simp] theorem andThen_error (error : Error) (t : Terminal)
    (next : Terminal → Except Error Unit × Terminal) :
    andThen (.error error, t) next = (.error error, t) := rfl

theorem write_eq (t : Terminal) (text : Text) :
    t.write text =
      (if t.surface.Fits (Utf8.encode text).length then .ok () else .error (.io Surface.goneFault),
        { t with surface := t.surface.after (Utf8.encode text) }) := by
  simp only [write, Surface.write_eq]
  split <;> rfl

/-- A clear that breaks off changes nothing but the surface. -/
theorem clear_eq (t : Terminal) :
    t.clear =
      (if t.surface.Fits t.clearing.length then .ok () else .error (.io Surface.goneFault),
        { t with
          surface := t.surface.after t.clearing
          painted := !decide (t.surface.Fits t.clearing.length) }) := by
  by_cases hdue : t.painted ∧ t.markup = .ansi
  · have hclearing : t.clearing = Utf8.encode clearScreen := if_pos hdue
    rw [clear, if_pos hdue, write_eq, hclearing]
    by_cases hfits : t.surface.Fits (Utf8.encode clearScreen).length
    · simp [hfits]
    · simp [hfits, hdue.1]
  · have hclearing : t.clearing = [] := if_neg hdue
    rw [clear, if_neg hdue, hclearing]
    simp [Surface.after_nil, Surface.fits_zero]

/-- Two texts written one after the other are written as one. -/
theorem write_write (t : Terminal) (first second : Text)
    (next : Terminal → Except Error Unit × Terminal) :
    andThen (t.write first) (fun t => andThen (t.write second) next) =
      andThen (t.write (first ++ second)) next := by
  have hencode : Utf8.encode (first ++ second) = Utf8.encode first ++ Utf8.encode second :=
    List.flatMap_append
  by_cases hfirst : t.surface.Fits (Utf8.encode first).length
  · simp only [write_eq, hencode, if_pos hfirst, andThen_ok, Surface.fits_after_iff hfirst,
      Surface.after_after]
  · have hboth : ¬t.surface.Fits (Utf8.encode first ++ Utf8.encode second).length :=
      fun h => hfirst (h.mono (by simp))
    simp only [write_eq, hencode, if_neg hfirst, if_neg hboth, andThen_error,
      Surface.after_append_of_not_fits hfirst]

theorem write_frame (t : Terminal) (composition : Composition) (markup : Markup) (document : Text)
    (set : CoverageSet) :
    (andThen (t.write (set.draw document composition markup)) fun t =>
      andThen (t.write (lineEnd (set.draw document composition markup))) finish) =
      let bytes := frame composition markup document set
      (if t.surface.Fits bytes.length then t.surface.flush.mapError .io
        else .error (.io Surface.goneFault),
        { t with
          surface := t.surface.after bytes
          painted := t.painted ∨ t.surface.Fits bytes.length ∧ t.surface.flushFails = false }) := by
  have hframe : Utf8.encode (set.draw document composition markup ++
      lineEnd (set.draw document composition markup)) = frame composition markup document set := rfl
  rw [write_write, write_eq, hframe]
  by_cases hfits : t.surface.Fits (frame composition markup document set).length
  · cases hflush : t.surface.flushFails <;>
      simp [finish, Surface.flush, hfits, hflush, Except.mapError]
  · simp [hfits]

/-- An apply writes the frame behind what clears the screen. It goes well if both fit and the flush does
not fail. Afterwards a whole frame stands on the screen if the apply went well, or if an earlier one
could not be cleared. -/
theorem apply_eq (t : Terminal) (document : Text) (set : CoverageSet) :
    t.apply document set =
      let bytes := t.clearing ++ frame t.composition t.markup document set
      (if t.surface.Fits bytes.length then t.surface.flush.mapError .io
        else .error (.io Surface.goneFault),
        { t with
          surface := t.surface.after bytes
          painted := ¬t.surface.Fits t.clearing.length ∨
            t.surface.Fits bytes.length ∧ t.surface.flushFails = false }) := by
  rw [apply, clear_eq]
  by_cases hclearing : t.surface.Fits t.clearing.length
  · have hframe := Surface.fits_after_iff hclearing (frame t.composition t.markup document set)
    rw [if_pos hclearing, andThen_ok, write_frame]
    by_cases hfits : t.surface.Fits (t.clearing ++ frame t.composition t.markup document set).length
    · simp [hframe.2 hfits, hfits, hclearing, Surface.after_after, -List.length_append]
    · simp [mt hframe.1 hfits, hfits, hclearing, Surface.after_after, -List.length_append]
  · have hboth : ¬t.surface.Fits (t.clearing ++ frame t.composition t.markup document set).length :=
      fun h => hclearing (h.mono (by simp))
    simp [hclearing, hboth, Surface.after_append_of_not_fits hclearing, -List.length_append]

theorem surface_clear (t : Terminal) : t.clear.2.surface = t.surface.after t.clearing := by
  rw [clear_eq]

theorem clear_ok_iff : t.clear.1 = .ok () ↔ t.surface.Fits t.clearing.length := by
  rw [clear_eq]
  by_cases hfits : t.surface.Fits t.clearing.length <;> simp [hfits]

theorem painted_clear : t.clear.2.painted = true ↔ t.clear.1 ≠ .ok () := by
  rw [ne_eq, clear_ok_iff, clear_eq]
  simp

theorem surface_apply (t : Terminal) (document : Text) (set : CoverageSet) :
    (t.apply document set).2.surface =
      t.clear.2.surface.after (frame t.composition t.markup document set) := by
  rw [apply_eq, surface_clear, Surface.after_after]

theorem apply_ok_iff :
    (t.apply document set).1 = .ok () ↔
      t.surface.Fits (t.clearing ++ frame t.composition t.markup document set).length ∧
        t.surface.flushFails = false := by
  rw [apply_eq]
  by_cases hfits : t.surface.Fits (t.clearing ++ frame t.composition t.markup document set).length
  · cases hflush : t.surface.flushFails <;>
      simp [hfits, hflush, Surface.flush, Except.mapError, -List.length_append]
  · simp [hfits, -List.length_append]

/-- After an apply a whole frame stands on the screen if the apply went well, or if an earlier frame
could not be cleared. -/
theorem painted_apply :
    (t.apply document set).2.painted = true ↔
      t.clear.1 ≠ .ok () ∨ (t.apply document set).1 = .ok () := by
  rw [ne_eq, clear_ok_iff, apply_ok_iff, apply_eq]
  simp

theorem clear_ok_of_apply_ok (h : (t.apply document set).1 = .ok ()) : t.clear.1 = .ok () := by
  have hfits := (apply_ok_iff.1 h).1
  exact clear_ok_iff.2 (hfits.mono (by simp))

theorem fits_frame_of_apply_ok (h : (t.apply document set).1 = .ok ()) :
    t.clear.2.surface.Fits (frame t.composition t.markup document set).length := by
  have hclear := clear_ok_iff.1 (clear_ok_of_apply_ok h)
  rw [surface_clear]
  exact (Surface.fits_after_iff hclear _).2 (apply_ok_iff.1 h).1

/-- A clear fails only over a whole frame. -/
theorem painted_of_clear_ne_ok (h : t.clear.1 ≠ .ok ()) : t.painted = true := by
  cases hpainted : t.painted with
  | false =>
    have hclearing : t.clearing = [] := by simp [clearing, hpainted]
    exact absurd (clear_ok_iff.2 (hclearing ▸ Surface.fits_zero)) h
  | true => rfl

/-! ## Runs -/

/-- What can happen to a terminal. -/
inductive Action
  | apply (document : Text) (set : CoverageSet)
  | clear
  /-- The surface is given other limits. -/
  | limit (room : Option Nat) (flushFails : Bool)
deriving Repr

/-- Take an action. -/
def act (t : Terminal) : Action → Except Error Unit × Terminal
  | .apply document set => t.apply document set
  | .clear => t.clear
  | .limit room flushFails => (.ok (), { t with surface := t.surface.limit room flushFails })

/-- An action with the terminal that it is taken on. -/
structure Step where
  before : Terminal
  action : Action

namespace Step

/-- How a step ends. -/
def result (step : Step) : Except Error Unit := (step.before.act step.action).1

/-- The terminal after a step. -/
def after (step : Step) : Terminal := (step.before.act step.action).2

end Step

/-- The steps of taking some actions in order, whatever becomes of each. -/
def steps (t : Terminal) : List Action → List Step
  | [] => []
  | action :: actions => ⟨t, action⟩ :: (t.act action).2.steps actions

/-- The terminal after some actions. -/
def run (t : Terminal) (actions : List Action) : Terminal :=
  actions.foldl (fun t action => (t.act action).2) t

@[simp] theorem run_nil (t : Terminal) : t.run [] = t := rfl

@[simp] theorem run_cons (t : Terminal) (action : Action) (actions : List Action) :
    t.run (action :: actions) = (t.act action).2.run actions := rfl

/-- No action changes how a terminal draws. -/
theorem settings_act (t : Terminal) (action : Action) :
    (t.act action).2.composition = t.composition ∧ (t.act action).2.markup = t.markup := by
  cases action with
  | apply document set =>
    rw [act, apply_eq]
    exact ⟨rfl, rfl⟩
  | clear =>
    rw [act, clear_eq]
    exact ⟨rfl, rfl⟩
  | limit room flushFails => exact ⟨rfl, rfl⟩

theorem settings_run (t : Terminal) (actions : List Action) :
    (t.run actions).composition = t.composition ∧ (t.run actions).markup = t.markup := by
  induction actions generalizing t with
  | nil => exact ⟨rfl, rfl⟩
  | cons action actions ih =>
    obtain ⟨hcomposition, hmarkup⟩ := settings_act t action
    obtain ⟨hcomposition', hmarkup'⟩ := ih (t.act action).2
    exact ⟨hcomposition'.trans hcomposition, hmarkup'.trans hmarkup⟩

/-- A surface never takes back what it took. -/
theorem taken_prefix_act (t : Terminal) (action : Action) :
    t.surface.taken <+: (t.act action).2.surface.taken := by
  cases action with
  | apply document set =>
    rw [act, surface_apply, surface_clear, Surface.after_after]
    exact List.prefix_append _ _
  | clear =>
    rw [act, surface_clear]
    exact List.prefix_append _ _
  | limit room flushFails => exact List.prefix_refl _

/-- Some step had the property `p`, and no step after it had the property `q`. -/
def Since (p q : Step → Prop) (steps : List Step) : Prop :=
  ∃ earlier step later, steps = earlier ++ step :: later ∧ p step ∧ ∀ s ∈ later, ¬q s

@[simp] theorem not_since_nil (p q : Step → Prop) : ¬Since p q [] := by
  rintro ⟨earlier, step, later, h, -⟩
  simp at h

/-- A last step with the property `p` decides, and so does one with `q`; any other one changes nothing. -/
theorem since_concat {p q : Step → Prop} {steps : List Step} {step : Step} :
    Since p q (steps ++ [step]) ↔ p step ∨ Since p q steps ∧ ¬q step := by
  constructor
  · rintro ⟨earlier, marked, later, hsteps, hp, hq⟩
    rcases concat_eq_append_cons_iff.1 hsteps with ⟨-, rfl, -⟩ | ⟨between, rfl, hbefore⟩
    · exact .inl hp
    · obtain ⟨hbetween, hlast⟩ := List.forall_mem_append.1 hq
      exact .inr ⟨⟨earlier, marked, between, hbefore, hp, hbetween⟩, hlast step (by simp)⟩
  · rintro (hp | ⟨⟨earlier, marked, later, rfl, hp, hq⟩, hlast⟩)
    · exact ⟨steps, step, [], rfl, hp, by simp⟩
    · exact ⟨earlier, marked, later ++ [step], by simp, hp,
        List.forall_mem_append.2 ⟨hq, by simpa using hlast⟩⟩

end Terminal

end CoverageOverlay
