import Safepoint.Mutators.Roster
import Safepoint.Publication.Barriers
import Safepoint.Rendezvous.State
import Safepoint.Report
import Safepoint.Roots.CodeBlobs
import Safepoint.Settings
import Safepoint.Waiting

/-!
# Processes and their runtime

A process is everything that changes while a managed program runs with this collector: the heap, the
mutators with their counters and requests, the installed code, the pauses, the threads that wait for
the collector, and whatever the world around the collector keeps.  The runtime is the part of that
world that parks threads, knows their roots and starts threads; it works on the process like
everybody else.
-/

namespace Safepoint

open Publication (BarrierCounts Guarded Heap)
open Roots (CodeBlobs)

/-- The state of a process, with the recorder's part in `Record` and the outside world in `Host`. -/
structure Process (Record Host : Type) where
  heap : Heap Record
  /-- The attached mutators. -/
  roster : Roster := {}
  /-- What the barriers of each mutator have counted. -/
  counts : MutatorId → BarrierCounts := fun _ => {}
  /-- Whether each mutator waits for a collection of its own objects. -/
  status : MutatorId → CollectionStatus := fun _ => .inactive
  /-- Mutators whose own collections are asked for, the first in turn first. -/
  requests : List Mutator := []
  blobs : CodeBlobs := {}
  /-- The pauses. -/
  rendezvous : Rendezvous.State := {}
  /-- The threads that wait for the end of a pause, in the order in which they came. -/
  pauseWaiters : List (WaitingThread Rendezvous.Ticket) := []
  /-- The threads that wait for the end of a mutator's own collection, in the same order. -/
  collectionWaiters : List (WaitingThread Mutator) := []
  host : Host

namespace Process

variable {Record Host Value : Type}

/-- The process with other counters for one mutator. -/
def setCounts (process : Process Record Host) (mutator : MutatorId) (counts : BarrierCounts) :
    Process Record Host :=
  { process with counts := fun other => if other = mutator then counts else process.counts other }

/-- The process with another status of one mutator. -/
def setStatus (process : Process Record Host) (mutator : MutatorId) (status : CollectionStatus) :
    Process Record Host :=
  { process with status := fun other => if other = mutator then status else process.status other }

/-- The process with one more thread that is to wait for the end of a pause. -/
def addPauseWaiter (ticket : Rendezvous.Ticket) (stage : Stage) (process : Process Record Host) :
    Process Record Host :=
  { process with pauseWaiters := process.pauseWaiters ++ [⟨ticket, stage⟩] }

/-- The process after one of those threads has made a step. -/
def stepPauseWaiter (number : Nat)
    (step : WaitingThread Rendezvous.Ticket → WaitingThread Rendezvous.Ticket)
    (process : Process Record Host) : Process Record Host :=
  { process with pauseWaiters := process.pauseWaiters.modify number step }

/-- Wakes every thread that sleeps until the end of a pause. -/
def wakePauseWaiters (process : Process Record Host) : Process Record Host :=
  { process with pauseWaiters := process.pauseWaiters.map .wake }

/-- The process with one more thread that is to wait for the end of a mutator's collection. -/
def addCollectionWaiter (mutator : Mutator) (stage : Stage) (process : Process Record Host) :
    Process Record Host :=
  { process with collectionWaiters := process.collectionWaiters ++ [⟨mutator, stage⟩] }

/-- The process after one of those threads has made a step. -/
def stepCollectionWaiter (number : Nat) (step : WaitingThread Mutator → WaitingThread Mutator)
    (process : Process Record Host) : Process Record Host :=
  { process with collectionWaiters := process.collectionWaiters.modify number step }

/-- Clears the request of a mutator and wakes every thread that sleeps until then. -/
def clearRequest (mutator : Mutator) (process : Process Record Host) : Process Record Host :=
  { process.setStatus mutator.id .inactive with
    collectionWaiters := process.collectionWaiters.map fun thread =>
      if thread.awaited.id = mutator.id then thread.wake else thread }

/-- Runs an action on the heap. -/
def onHeap (action : Action (Heap Record) Value) : Action (Process Record Host) Value :=
  Action.onPart Process.heap (fun heap process => { process with heap := heap }) action

/-- Runs an action on the bitmap of the heap. -/
def onBitmap (action : Action Publication.Bitmap Value) : Action (Process Record Host) Value :=
  onHeap (Action.onPart Heap.bitmap (fun bitmap heap => { heap with bitmap := bitmap }) action)

/-- Runs an action on the roster. -/
def onRoster (action : Action Roster Value) : Action (Process Record Host) Value :=
  Action.onPart Process.roster (fun roster process => { process with roster := roster }) action

/-- Runs an action on the installed code. -/
def onBlobs (action : Action CodeBlobs Value) : Action (Process Record Host) Value :=
  Action.onPart Process.blobs (fun blobs process => { process with blobs := blobs }) action

/-- Runs an action on the rendezvous. -/
def onRendezvous (action : Action Rendezvous.State Value) : Action (Process Record Host) Value :=
  Action.onPart Process.rendezvous
    (fun rendezvous process => { process with rendezvous := rendezvous }) action

/-- Runs an action on the outside world. -/
def onHost (action : Action Host Value) : Action (Process Record Host) Value :=
  Action.onPart Process.host (fun host process => { process with host := host }) action

/-- Runs an action on the heap and the counters of one mutator. -/
def onGuarded (mutator : MutatorId) (action : Action (Guarded Record) Value) :
    Action (Process Record Host) Value :=
  Action.onPart (fun process => { heap := process.heap, counts := process.counts mutator })
    (fun guarded process =>
      { process.setCounts mutator guarded.counts with heap := guarded.heap }) action

@[simp]
theorem status_setStatus_self (process : Process Record Host) (mutator : MutatorId)
    (status : CollectionStatus) : (process.setStatus mutator status).status mutator = status := by
  simp [setStatus]

theorem status_setStatus_of_ne {process : Process Record Host} {mutator other : MutatorId}
    {status : CollectionStatus} (other_ne : other ≠ mutator) :
    (process.setStatus mutator status).status other = process.status other := by
  simp [setStatus, other_ne]

theorem status_clearRequest_self (process : Process Record Host) (mutator : Mutator) :
    (process.clearRequest mutator).status mutator.id = .inactive :=
  status_setStatus_self process mutator.id .inactive

theorem status_clearRequest_of_ne {process : Process Record Host} {mutator : Mutator}
    {other : MutatorId} (other_ne : other ≠ mutator.id) :
    (process.clearRequest mutator).status other = process.status other :=
  status_setStatus_of_ne other_ne

@[simp]
theorem counts_setCounts_self (process : Process Record Host) (mutator : MutatorId)
    (counts : BarrierCounts) : (process.setCounts mutator counts).counts mutator = counts := by
  simp [setCounts]

theorem counts_setCounts_of_ne {process : Process Record Host} {mutator other : MutatorId}
    {counts : BarrierCounts} (other_ne : other ≠ mutator) :
    (process.setCounts mutator counts).counts other = process.counts other := by
  simp [setCounts, other_ne]

end Process

/-- What a thread of the collector does. -/
inductive CollectorRole where
  /-- Drives collections. -/
  | controller
  /-- Does collection work. -/
  | worker
  deriving DecidableEq, Repr

/-- The role as it is shown in messages. -/
def CollectorRole.text : CollectorRole → String
  | controller => "Controller"
  | worker => "Worker"

/-- A thread that the collector asks the runtime to start. -/
structure CollectorThread where
  role : CollectorRole
  /-- Its number among the threads of its role. -/
  ordinal : Word
  deriving DecidableEq, Repr

namespace CollectorThread

/-- The name proposed for the thread. -/
def name (thread : CollectorThread) : String :=
  match thread.role with
  | .controller => "otter-gc-controller"
  | .worker => "otter-gc-worker-" ++ Word.decimal thread.ordinal

/-- The thread as it is shown in messages. -/
def text (thread : CollectorThread) : String :=
  s!"GcThreadContext \x7b kind: {thread.role.text}, ordinal: {Word.decimal thread.ordinal}, .. \x7d"

end CollectorThread

/-- What the collector asks of the runtime. -/
structure Runtime (State : Type) where
  /-- Parks every mutator; if so asked, reports each one while it is parked. -/
  suspendAll : (reporting : Bool) → Report State Mutator
  resumeAll : Action State Unit
  /-- Parks one mutator and reports it. -/
  suspendOne : Mutator → Report State Mutator
  resumeOne : Mutator → Action State Unit
  /-- Reports the root slots of a parked mutator. -/
  scanMutator : Mutator → Report State Address
  /-- Reports the root slots that belong to no mutator. -/
  scanGlobals : Report State Address := .done
  /-- Starts a thread with the given body. -/
  spawn : CollectorThread → (body : Action State Unit) → Action State Unit
  /-- Takes references that a collection found. -/
  enqueue : List ObjectRef → Action State Unit
  /-- Wakes whoever handles those references. -/
  wakeFinalizer : Action State Unit := pure ()

/-- The parts of a collector that stay as they are while the process runs. -/
structure Collector (Record Host : Type) where
  settings : Settings
  /-- Whom its barriers tell. -/
  recorder : Publication.Recorder Record
  runtime : Runtime (Process Record Host)

end Safepoint
