import Safepoint.Collector.Mutators
import Safepoint.Collector.Pauses
import Safepoint.Collector.Requests
import Safepoint.Collector.Start
import Safepoint.Collector.Threads
import Safepoint.Simulation.Arena
import Safepoint.Simulation.Host

/-!
# A scripted world

A collector with a scripted runtime, the objects declared in its heap, and the handles that a
history of commands has come by: mutators, tickets and waiting threads.  This file gives the world
and how it starts.
-/

namespace Safepoint.Simulation

open Publication (Bitmap)
open Rendezvous (Ticket)

/-- Which recorder a scripted world has, and where its bitmap comes from. -/
inductive RecorderKind where
  /-- Publishes into a bitmap made beforehand. -/
  | publish
  /-- Notes what it is told, with a bitmap made beforehand. -/
  | log
  /-- Publishes into a bitmap made from the settings. -/
  | model
  /-- The same for objects whose owners nobody knows. -/
  | ownerless
  deriving DecidableEq, Repr

/-- The range and the granule of a bitmap made beforehand. -/
structure BitmapPlan where
  base : Word
  size : Word
  /-- Binary logarithm of its granule. -/
  logGranule : UInt8
  deriving DecidableEq, Repr

/-- A bitmap that covers the heap of the settings. -/
def BitmapPlan.ofSettings (settings : Settings) : BitmapPlan where
  base := settings.heapBase
  size := settings.heapSize
  logGranule := settings.logGranule

/-- A thread that was started to wait, with its number among those that wait for the same. -/
structure StartedThread where
  waiter : Waiter
  number : Nat
  deriving DecidableEq, Repr

namespace StartedThread

/-- Starts a thread that waits. -/
def start (waiter : Waiter) : Action ScriptedProcess StartedThread := do
  let number ←
    match waiter with
    | .forPause ticket => Collector.waitPast ticket
    | .forCollection mutator => Collector.block mutator
  return ⟨waiter, number⟩

/-- The process after the thread has gone on as far as it gets. -/
def run (thread : StartedThread) (process : ScriptedProcess) : ScriptedProcess :=
  match thread.waiter with
  | .forPause _ => process.runPauseWaiter thread.number
  | .forCollection _ => process.runCollectionWaiter thread.number

/-- How far the thread has come. -/
def stage? (thread : StartedThread) (process : ScriptedProcess) : Option Stage :=
  match thread.waiter with
  | .forPause _ => process.pauseWaiters[thread.number]?.map WaitingThread.stage
  | .forCollection _ => process.collectionWaiters[thread.number]?.map WaitingThread.stage

end StartedThread

/-- A scripted world in the course of a history. -/
structure World where
  collector : Collector Kept Host
  process : ScriptedProcess
  kind : RecorderKind
  /-- Whether its runtime knows only the roots of mutators. -/
  minimal : Bool
  declared : Table ObjectRef Declared := .empty
  /-- The mutators that were bound, oldest first. -/
  mutators : Array Mutator := #[]
  /-- The tickets that were taken, oldest first. -/
  tickets : Array Ticket := #[]
  /-- The threads that were started to wait; those that were joined are gone. -/
  waiters : Array (Option StartedThread) := #[]

namespace World

/-- Whether the objects of a world have owners. -/
def hasOwners (kind : RecorderKind) : Bool := kind ≠ .ownerless

/-- Starts a world. -/
def start (settings : Settings) (plan : BitmapPlan) (kind : RecorderKind) (minimal : Bool) :
    Except StartFailure World :=
  let collector : Collector Kept Host :=
    { settings := settings
      recorder := if kind = .log then notingRecorder else publishingRecorder
      runtime := scriptedRuntime minimal }
  let objects := declaredObjects .empty (hasOwners kind)
  let process : Except StartFailure ScriptedProcess :=
    match kind with
    | .publish | .log =>
        match Bitmap.new plan.base plan.size plan.logGranule with
        | .error fault => .error (.fault fault)
        | .ok bitmap =>
            collector.start
              { bitmap := bitmap
                memory := .zeroed
                objects := objects
                record := {} } {}
    | .model | .ownerless => collector.startFresh .zeroed objects {} {}
  process.map fun process =>
    { collector := collector
      process := process
      kind := kind
      minimal := minimal }

/-- Forgets what was noted of earlier commands. -/
def quiet (world : World) : World :=
  let process := world.process
  { world with
    process :=
      { process with
        host := { process.host with events := #[], visited := #[] }
        heap := { process.heap with record := { process.heap.record with noted := #[] } } } }

/-- What was noted since, as text: downcalls first, then barriers. -/
def events (world : World) : List String :=
  world.process.host.events.toList.map Event.text ++
    world.process.heap.record.noted.toList.map BarrierEvent.text

/-- Objects and bytes published, where the recorder tells. -/
def published? (world : World) : Option Publication.Published :=
  if world.kind = .publish then some world.process.heap.record.published else none

end World

end Safepoint.Simulation
