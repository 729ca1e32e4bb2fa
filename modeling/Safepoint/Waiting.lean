/-!
# Threads that wait

A thread that has to wait for something looks whether it has come about, goes to sleep if it has
not, and looks again whenever it is woken.  Looking and going to sleep are one step, so nobody can
bring it about in between; whoever does so later wakes the sleepers.
-/

namespace Safepoint

/-- How far a thread has come that is to wait. -/
inductive Stage where
  /-- It knows what for, and does not wait yet. -/
  | ahead
  /-- It is about to look whether it has to wait any longer. -/
  | checking
  | asleep
  | released
  deriving DecidableEq, Repr

/-- A thread that waits. -/
structure WaitingThread (Awaited : Type) where
  /-- What it waits for. -/
  awaited : Awaited
  stage : Stage
  deriving DecidableEq, Repr

namespace WaitingThread

variable {Awaited : Type}

/-- Starts to wait. -/
def begin (thread : WaitingThread Awaited) : WaitingThread Awaited :=
  match thread.stage with
  | .ahead => { thread with stage := .checking }
  | _ => thread

/-- Looks whether it is released, and goes to sleep if it is not. -/
def check (isReleased : Awaited → Bool) (thread : WaitingThread Awaited) : WaitingThread Awaited :=
  match thread.stage with
  | .checking =>
      { thread with stage := if isReleased thread.awaited then .released else .asleep }
  | _ => thread

/-- Wakes up, for whatever reason. -/
def wake (thread : WaitingThread Awaited) : WaitingThread Awaited :=
  match thread.stage with
  | .asleep => { thread with stage := .checking }
  | _ => thread

/-- Goes on as far as it gets without being woken. -/
def advance (isReleased : Awaited → Bool) (thread : WaitingThread Awaited) :
    WaitingThread Awaited :=
  thread.begin.check isReleased

variable {thread : WaitingThread Awaited} {isReleased : Awaited → Bool}

theorem awaited_advance : (thread.advance isReleased).awaited = thread.awaited := by
  obtain ⟨awaited, stage⟩ := thread
  cases stage <;> rfl

theorem asleep_of_advance (asleep : (thread.advance isReleased).stage = .asleep) :
    thread.stage = .asleep ∨ isReleased thread.awaited = false := by
  obtain ⟨awaited, stage⟩ := thread
  cases stage with
  | ahead | checking =>
      cases released : isReleased awaited with
      | true => simp [advance, begin, check, released] at asleep
      | false => exact Or.inr rfl
  | asleep => exact Or.inl rfl
  | released => cases asleep

end WaitingThread

end Safepoint
