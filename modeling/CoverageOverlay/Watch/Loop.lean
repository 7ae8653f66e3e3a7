-- SUMMARY: The loop that waits for changes and gathers bursts of them, as a machine.

/-!
# The watch loop

Signals of changes wait in a queue. The loop takes one, goes on taking signals
while they come in quick succession, and then re-applies once for the whole
burst. A burst ends when the wait for a further signal times out, even if one
arrives at that moment, or when nobody can send any more. The loop ends when it
waits for the first signal of a burst and nobody can send any more.
-/

namespace CoverageOverlay.Watch

/-- What the loop is doing. -/
inductive Phase
  /-- Waiting for the first signal of a burst. -/
  | waiting
  /-- Waiting for a further signal of a burst, but not for long. -/
  | gathering
  /-- Re-applying. -/
  | applying
  /-- Nothing any more. -/
  | done
deriving DecidableEq, Repr, Inhabited

/-- The loop with its queue. -/
structure Loop where
  /-- What the loop is doing. -/
  phase : Phase
  /-- The number of signals in the queue. -/
  queued : Nat
  /-- Whether somebody can still send signals. -/
  connected : Bool
  /-- The number of re-applies that are complete. -/
  reapplied : Nat
deriving DecidableEq, Repr, Inhabited

/-- What can happen to the loop. -/
inductive Happening
  /-- A signal is sent. -/
  | send
  /-- Nobody will send any more. -/
  | hangUp
  /-- The loop takes a signal from the queue. -/
  | receive
  /-- The wait for a further signal times out. -/
  | timeOut
  /-- The loop finds the queue empty and nobody to fill it. -/
  | disconnect
  /-- A re-apply is complete. -/
  | finish
deriving DecidableEq, Repr, Inhabited

namespace Loop

/-- The loop at its start. -/
def start : Loop := ⟨.waiting, 0, true, 0⟩

/-- The loop after something happened, if that can happen to it. -/
def after? (l : Loop) : Happening → Option Loop
  | .send => if l.connected then some { l with queued := l.queued + 1 } else none
  | .hangUp => if l.connected then some { l with connected := false } else none
  | .receive =>
    match l.phase, l.queued with
    | .waiting, n + 1 | .gathering, n + 1 => some { l with phase := .gathering, queued := n }
    | _, _ => none
  | .timeOut =>
    match l.phase with
    | .gathering => some { l with phase := .applying }
    | _ => none
  | .disconnect =>
    match l.phase, l.queued, l.connected with
    | .gathering, 0, false => some { l with phase := .applying }
    | .waiting, 0, false => some { l with phase := .done }
    | _, _, _ => none
  | .finish =>
    match l.phase with
    | .applying => some { l with phase := .waiting, reapplied := l.reapplied + 1 }
    | _ => none

/-- The loop after a run of happenings, if each of them can happen. -/
def run? (l : Loop) (happenings : List Happening) : Option Loop :=
  happenings.foldlM after? l

/-- Whether the loop waits for a first signal and none is in the queue. -/
def isIdle (l : Loop) : Bool :=
  l.phase = .waiting && l.queued = 0

end Loop

end CoverageOverlay.Watch
