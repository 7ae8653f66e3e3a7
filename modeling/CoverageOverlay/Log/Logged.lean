-- SUMMARY: Results together with the events that happened on the way to them.
import CoverageOverlay.Log.Event

/-!
# Logged results

A computation that reports events is its result and the list of its events in
order. Running one computation after another joins their lists.
-/

namespace CoverageOverlay

/-- A result and the events on the way to it. -/
structure Logged (α : Type) where
  value : α
  events : List Log.Event

namespace Logged

instance : Monad Logged where
  map f x := ⟨f x.value, x.events⟩
  pure a := ⟨a, []⟩
  bind x f :=
    let y := f x.value
    ⟨y.value, x.events ++ y.events⟩

/-- Report one event. -/
def report (e : Log.Event) : Logged Unit := ⟨(), [e]⟩

@[simp] theorem pure_value (a : α) : (pure a : Logged α).value = a := rfl

@[simp] theorem pure_events (a : α) : (pure a : Logged α).events = [] := rfl

@[simp] theorem bind_value (x : Logged α) (f : α → Logged β) :
    (x >>= f).value = (f x.value).value := rfl

@[simp] theorem bind_events (x : Logged α) (f : α → Logged β) :
    (x >>= f).events = x.events ++ (f x.value).events := rfl

@[simp] theorem map_value (f : α → β) (x : Logged α) : (f <$> x).value = f x.value := rfl

@[simp] theorem map_events (f : α → β) (x : Logged α) : (f <$> x).events = x.events := rfl

@[simp] theorem report_events (e : Log.Event) : (report e).events = [e] := rfl

@[ext] theorem ext {x y : Logged α} (hv : x.value = y.value) (he : x.events = y.events) : x = y := by
  cases x; cases y; simp_all

instance : LawfulMonad Logged :=
  LawfulMonad.mk' Logged (fun x => by ext1 <;> simp) (fun a f => by ext1 <;> simp)
    (fun x f g => by ext1 <;> simp) (fun _ _ => rfl) (fun _ _ => rfl) (fun _ _ => rfl)
    (fun f x => by ext1 <;> simp)

end Logged

end CoverageOverlay
