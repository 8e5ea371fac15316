/-
Results that come with what was reported on the way to them.

* `Logged α`: a value beside the events reported before it was there, oldest
  first.
* `Logged.report`: an event on its own.
* The monad: what is done first reports first (`Logged.events_bind`), and
  reporting never changes a value (`Logged.value_bind`).
-/
import PromptLine.Event

namespace PromptLine

/-- A value and the events reported on the way to it, in order. -/
structure Logged (α : Type) where
  value : α
  events : List Event := []

namespace Logged

/-- Reports one event. -/
def report (event : Event) : Logged Unit := ⟨(), [event]⟩

instance : Monad Logged where
  pure a := ⟨a, []⟩
  bind x f := ⟨(f x.value).value, x.events ++ (f x.value).events⟩

variable {α β : Type}

@[simp] theorem value_pure (a : α) : (pure a : Logged α).value = a := rfl

@[simp] theorem events_pure (a : α) : (pure a : Logged α).events = [] := rfl

@[simp] theorem value_bind (x : Logged α) (f : α → Logged β) :
    (x >>= f).value = (f x.value).value := rfl

@[simp] theorem events_bind (x : Logged α) (f : α → Logged β) :
    (x >>= f).events = x.events ++ (f x.value).events := rfl

@[simp] theorem value_map (f : α → β) (x : Logged α) :
    (f <$> x).value = f x.value := rfl

@[simp] theorem events_map (f : α → β) (x : Logged α) :
    (f <$> x).events = x.events := by simp [Functor.map]

@[simp] theorem events_report (event : Event) :
    (report event).events = [event] := rfl

instance : LawfulMonad Logged := LawfulMonad.mk' Logged
  (fun x => by simp [Functor.map])
  (fun _ _ => rfl)
  (fun x f g => by simp [bind])

end Logged

end PromptLine
