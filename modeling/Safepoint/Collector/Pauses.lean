import Safepoint.Collector.Waits

/-!
# Pauses of a collector

A pause stops every mutator, hands each one to a visitor, and lets all of them run again.  The
visitor is called by the runtime while it parks mutators, or in one pass over the roster when all
are parked.  The end of a pause wakes the threads that wait for it.
-/

namespace Safepoint

open Rendezvous (Ticket)

namespace Collector

variable {Record Host : Type}

/--
Visits what a pass over the roster hands out.  A visitor that keeps rearming the pass would be
called for ever, and is stopped after `visits` calls.
-/
def visitPass (visit : Mutator → Action (Process Record Host) Unit) : (visits : Nat) →
    Action (Process Record Host) Unit
  | 0 => do
      if (← Process.onRoster Roster.next).isSome then
        throw .endlessPass
  | visits + 1 => do
      match ← Process.onRoster Roster.next with
      | none => return
      | some mutator =>
          visit mutator
          visitPass visit visits

/-- Calls of a visitor after which a pass counts as endless: one for each mutator and each word. -/
def visitLimit (process : Process Record Host) : Nat :=
  process.roster.attached.length + Word.count

/--
Parks every mutator and hands each one to `visit`.  Answers a ticket for the epoch before the pause,
which lasts until `resumeAll`.
-/
def stopAll (collector : Collector Record Host)
    (visit : Mutator → Action (Process Record Host) Unit) :
    Action (Process Record Host) Ticket := do
  let ticket := (← get).rendezvous.ticket
  Process.onRendezvous (Rendezvous.State.shift .running .requestingSuspend)
  Process.onRendezvous Rendezvous.State.startTiming
  if collector.settings.visitsWhileParking then
    (collector.runtime.suspendAll true).run visit
  else
    (collector.runtime.suspendAll false).run fun _ => pure ()
    Process.onRoster Roster.resetPass
    visitPass visit (visitLimit (← get))
  Process.onRendezvous (Rendezvous.State.shift .requestingSuspend .suspended)
  return ticket

/-- Lets every mutator run again, ends the epoch and wakes the threads that wait for that. -/
def resumeAll (collector : Collector Record Host) : Action (Process Record Host) Unit := do
  Process.onRendezvous (Rendezvous.State.shift .suspended .resuming)
  collector.runtime.resumeAll
  Process.onRendezvous do
    Rendezvous.State.advance
    Rendezvous.State.shift .resuming .running
  modify Process.wakePauseWaiters
  Process.onRendezvous Rendezvous.State.stopTiming

/-- A thread comes with a ticket; answers its number among the threads that wait for a pause. -/
def enterPause (ticket : Ticket) (stage : Stage) : Action (Process Record Host) Nat :=
  fun process => .ok process.pauseWaiters.length (process.addPauseWaiter ticket stage)

/-- A thread waits until the epoch has passed its ticket. -/
def waitPast (ticket : Ticket) : Action (Process Record Host) Nat := enterPause ticket .checking

/-- A thread waits for the end of the pause under way or of the next one. -/
def blockUntilPauseDone : Action (Process Record Host) Nat := do
  waitPast (← get).rendezvous.ticket

/-- Runs `trigger`, which asks for a pause, in a thread that then waits for the end of one. -/
def collectAndWait (trigger : Action (Process Record Host) Unit) :
    Action (Process Record Host) Nat := do
  let number ← enterPause (← get).rendezvous.ticket .ahead
  trigger
  modify (Process.stepPauseWaiter number .begin)
  return number

end Collector

end Safepoint
