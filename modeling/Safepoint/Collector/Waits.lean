import Safepoint.Process

/-!
# Waiting for the collector

Threads wait for the end of a pause or of a collection of their own.  A `Waiter` says what a thread
waits for and whether it still has to; the thread looks for itself, sleeps, and is woken by the call
of the collector that brings it about.
-/

namespace Safepoint

open Rendezvous (Ticket)

/-- What a thread waits for. -/
inductive Waiter where
  /-- For the end of a pause after the ticket was taken. -/
  | forPause (ticket : Ticket)
  /-- For the end of the collection that the mutator asked for. -/
  | forCollection (mutator : Mutator)
  deriving DecidableEq, Repr

variable {Record Host : Type}

/-- Whether a waiting thread may go on. -/
def Waiter.isReleased (waiter : Waiter) (process : Process Record Host) : Bool :=
  match waiter with
  | forPause ticket => process.rendezvous.isPast ticket
  | forCollection mutator => process.status mutator.id ≠ .active

namespace Process

/-- Whether a thread with the ticket may go on. -/
def isPauseOver (process : Process Record Host) (ticket : Ticket) : Bool :=
  (Waiter.forPause ticket).isReleased process

/-- Whether a thread may go on that waits for the mutator. -/
def isCollectionOver (process : Process Record Host) (mutator : Mutator) : Bool :=
  (Waiter.forCollection mutator).isReleased process

/-- A thread that waits for the end of a pause goes on as far as it gets. -/
def runPauseWaiter (number : Nat) (process : Process Record Host) : Process Record Host :=
  process.stepPauseWaiter number (.advance process.isPauseOver)

/-- A thread that waits for the end of a collection goes on as far as it gets. -/
def runCollectionWaiter (number : Nat) (process : Process Record Host) : Process Record Host :=
  process.stepCollectionWaiter number (.advance process.isCollectionOver)

end Process

end Safepoint
