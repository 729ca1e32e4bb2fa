import Safepoint.Collector.Roots
import Safepoint.Collector.Waits

/-!
# Collections of one mutator

A mutator may ask for a collection of its own private objects and wait for it while all others run
on.  Requests queue up; serving one parks the mutator, hands its roots to a sink, clears the request,
wakes whoever waits for that and lets the mutator run again.
-/

namespace Safepoint.Collector

open Roots (RootSink)

variable {Record Host : Type}

/-- Asks for a collection of a mutator's own objects. -/
def request (mutator : Mutator) : Action (Process Record Host) Unit := fun process =>
  if process.status mutator.id = .inactive then
    let marked := process.setStatus mutator.id .active
    .ok () { marked with requests := marked.requests ++ [mutator] }
  else
    .error (.alreadyRequested mutator.id) process

/-- A thread waits until no collection of the mutator is outstanding; answers its number. -/
def block (mutator : Mutator) : Action (Process Record Host) Nat := fun process =>
  .ok process.collectionWaiters.length (process.addCollectionWaiter mutator .checking)

/-- Takes the first request of the queue, if there is one. -/
def nextRequest : Action (Process Record Host) (Option Mutator) := fun process =>
  match process.requests with
  | [] => .ok none process
  | mutator :: rest => .ok (some mutator) { process with requests := rest }

/--
Collects a mutator that asked for it, and answers how many roots it had.  The request is cleared
when the roots are known and before the mutator runs again.
-/
def collectOne (collector : Collector Record Host) (mutator : Mutator)
    (sink : RootSink (Process Record Host)) : Action (Process Record Host) Nat := do
  unless (← get).status mutator.id = .active do
    throw (.notRequested mutator.id)
  let ((), roots) ← Action.withLocal 0
    ((collector.runtime.suspendOne mutator).beside.run fun parked => do
      let found ← Action.beside (collector.scanRoots parked sink)
      Action.modifyLocal (· + found))
  modify (Process.clearRequest mutator)
  collector.runtime.resumeOne mutator
  return roots

/--
Serves the first request of the queue; answers whose it was and how many roots there were.
Without a request there is nothing to serve.
-/
def serve (collector : Collector Record Host) (sink : RootSink (Process Record Host)) :
    Action (Process Record Host) (Option (Mutator × Nat)) := do
  match ← nextRequest with
  | none => return none
  | some mutator =>
      let roots ← collector.collectOne mutator sink
      return some (mutator, roots)

end Safepoint.Collector
