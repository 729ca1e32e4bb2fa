import Safepoint.Proofs.Pauses.Cycles
import Mathlib.Data.List.Forall2

/-!
# Waiting for the end of a pause

A thread takes a ticket at any moment, starts to wait at any later one, and looks whether it is
released whenever it is woken.  `fair_of_fresh` says that it is released exactly when a resumption
has returned since it took the ticket: it sleeps on through anything else, and it does not sleep
when one has returned, be it before it started to wait.
-/

namespace Safepoint.Pauses

open Rendezvous (State Ticket)

variable {Record Host : Type} {process : Process Record Host}
  {world before after : World Record Host} {thread : WaitingThread Ticket} {since resumed : Nat}

/-- How a thread stands after some resumptions that took its ticket after `since` of them. -/
structure ThreadSound (resumed : Nat) (thread : WaitingThread Ticket) (since : Nat) : Prop where
  ticket_eq : thread.awaited.epoch.toNat = since
  not_early : thread.stage = .released → since < resumed
  not_late : thread.stage = .asleep → ¬since < resumed

namespace ThreadSound

theorem isPauseOver_iff (sound : ThreadSound resumed thread since)
    (epoch_eq : process.rendezvous.epoch.toNat = resumed) :
    process.isPauseOver thread.awaited = true ↔ since < resumed := by
  rw [Process.isPauseOver, Waiter.isReleased, State.isPast_iff, sound.ticket_eq, epoch_eq]

/-- Who takes a ticket now may wait for the next resumption. -/
theorem of_ticket {ticket : Ticket} (ticket_eq : ticket.epoch.toNat = resumed) {stage : Stage}
    (not_released : stage ≠ .released) : ThreadSound resumed ⟨ticket, stage⟩ resumed where
  ticket_eq := ticket_eq
  not_early released := absurd released not_released
  not_late _ := Nat.lt_irrefl _

theorem begin (sound : ThreadSound resumed thread since) :
    ThreadSound resumed thread.begin since := by
  unfold WaitingThread.begin
  split
  · exact ⟨sound.ticket_eq, by simp, by simp⟩
  · exact sound

theorem check (sound : ThreadSound resumed thread since)
    (epoch_eq : process.rendezvous.epoch.toNat = resumed) :
    ThreadSound resumed (thread.check process.isPauseOver) since := by
  have over_iff := sound.isPauseOver_iff epoch_eq
  unfold WaitingThread.check
  split
  · cases ended : process.isPauseOver thread.awaited with
    | true => exact ⟨sound.ticket_eq, fun _ => over_iff.mp ended, by simp⟩
    | false =>
        rw [ended] at over_iff
        exact ⟨sound.ticket_eq, by simp, fun _ earlier =>
          Bool.false_ne_true (over_iff.mpr earlier)⟩
  · exact sound

theorem wake (sound : ThreadSound resumed thread since) :
    ThreadSound resumed thread.wake since := by
  unfold WaitingThread.wake
  split
  · exact ⟨sound.ticket_eq, by simp, by simp⟩
  · exact sound

/-- A resumption wakes every thread that sleeps. -/
theorem wake_succ (sound : ThreadSound resumed thread since) :
    ThreadSound (resumed + 1) thread.wake since := by
  unfold WaitingThread.wake
  split
  · exact ⟨sound.ticket_eq, by simp, by simp⟩
  · rename_i awake
    exact ⟨sound.ticket_eq,
      fun released => Nat.lt_succ_of_lt (sound.not_early released),
      fun asleep => absurd asleep awake⟩

end ThreadSound

theorem forall₂_modify {First Second : Type} {related : First → Second → Prop}
    {change : First → First} (kept : ∀ {first second}, related first second →
      related (change first) second) (number : Nat) {firsts : List First} {seconds : List Second}
    (all : List.Forall₂ related firsts seconds) :
    List.Forall₂ related (firsts.modify number change) seconds := by
  induction all generalizing number with
  | nil =>
      rw [List.modify_nil]
      exact .nil
  | cons head tail ih =>
      cases number with
      | zero => exact .cons (kept head) tail
      | succ number => exact .cons head (ih number)

/-- Rendezvous and tally go together, and every thread that waits stands as it should. -/
structure Scene.Sound (scene : Scene Record Host) : Prop where
  paced : Paced scene.process.rendezvous scene.tally
  threads : List.Forall₂ (ThreadSound scene.tally.resumed) scene.process.pauseWaiters scene.since

namespace Scene.Sound

theorem move (sound : world.scene.Sound) (move : Move) : (move.apply world).scene.Sound := by
  obtain ⟨paced, threads⟩ := sound
  have epoch_eq : world.rendezvous.epoch.toNat = world.host.tally.resumed := paced.epoch_eq
  cases move with
  | look => exact ⟨paced, threads⟩
  | take =>
      exact ⟨paced, List.rel_append threads (.cons (.of_ticket epoch_eq (by decide)) .nil)⟩
  | block =>
      exact ⟨paced, List.rel_append threads (.cons (.of_ticket epoch_eq (by decide)) .nil)⟩
  | wait number => exact ⟨paced, forall₂_modify .begin number threads⟩
  | check number => exact ⟨paced, forall₂_modify (fun sound => sound.check epoch_eq) number threads⟩
  | wake number => exact ⟨paced, forall₂_modify .wake number threads⟩

theorem idle (idle : Idle before after) (sound : before.scene.Sound) : after.scene.Sound := by
  cases idle with
  | apart apart =>
      obtain ⟨inner, host_eq⟩ := apart.host_eq
      have paced : Paced after.rendezvous after.host.tally := by
        rw [apart.rendezvous_eq, host_eq]
        exact sound.paced
      have threads : List.Forall₂ (ThreadSound after.host.tally.resumed) after.pauseWaiters
          after.host.since := by
        rw [apart.pauseWaiters_eq, host_eq]
        exact sound.threads
      exact ⟨paced, threads⟩
  | move move => exact sound.move move

end Scene.Sound

/-- Every thread that waits stands as it should in everything that is seen. -/
def World.Sound (world : World Record Host) : Prop := ∀ scene ∈ world.scenes, scene.Sound

namespace World.Sound

theorem drift (sound : before.Sound) (drift : Drift before after) : after.Sound :=
  drift.always .idle sound

theorem opened (sound : world.Sound) {demand : Demand}
    (phase_eq : world.rendezvous.phase = demand.opens) : (world.opened demand).Sound := by
  obtain ⟨now, seen⟩ := List.forall_mem_cons.mp sound
  exact List.forall_mem_cons.mpr ⟨⟨now.paced.start phase_eq, now.threads⟩, seen⟩

/-- Whoever holds a ticket keeps it, but only a resumption wakes those who sleep. -/
theorem step (sound : before.Sound) (kept : Kept after) (step : Step before after) :
    after.Sound := by
  have before_now := (List.forall_mem_cons.mp sound).1
  cases step with
  | idle drift => exact sound.drift drift
  | @stop parked running drift =>
      obtain ⟨now, seen⟩ := List.forall_mem_cons.mp ((sound.opened running).drift drift)
      have newcomer : ThreadSound parked.host.tally.resumed ⟨before.rendezvous.ticket, .ahead⟩
          before.host.tally.resumed := by
        rw [drift.resumed_of_opened]
        exact .of_ticket before_now.paced.epoch_eq (by decide)
      exact List.forall_mem_cons.mpr
        ⟨⟨kept.now, List.rel_append now.threads (.cons newcomer .nil)⟩, seen⟩
  | @resume freed suspended drift =>
      obtain ⟨now, seen⟩ := List.forall_mem_cons.mp ((sound.opened suspended).drift drift)
      refine List.forall_mem_cons.mpr ⟨⟨kept.now, ?_⟩, seen⟩
      exact List.forall₂_map_left_iff.mpr (now.threads.imp fun _ _ => .wake_succ)
  | fault demand phase_eq drift =>
      obtain ⟨now, seen⟩ := List.forall_mem_cons.mp ((sound.opened phase_eq).drift drift)
      exact List.forall_mem_cons.mpr ⟨⟨kept.now, now.threads⟩, seen⟩

theorem run (fresh : world.Fresh) {turns : List (Turn Record Host)}
    (proper : ∀ turn ∈ turns, turn.Proper) (few : turns.countP Turn.isCall < Word.count) :
    (world.run turns).Sound := by
  have start : world.Sound := by
    refine List.forall_mem_cons.mpr ⟨⟨(Kept.fresh fresh).now, ?_⟩, ?_⟩
    · simp [World.scene, fresh.pauseWaiters_eq, fresh.since_eq]
    · simp [fresh.seen_eq]
  exact (run_induction fresh start (fun drift sound => sound.drift drift)
    (fun kept room step sound => sound.step (kept.step step room) step) proper few).2.2

end World.Sound

end Safepoint.Pauses
