import Safepoint.Process
import Safepoint.Roots.Batch

/-!
# Roots of a collector

The roots of a parked mutator, and the roots that belong to no mutator: those the runtime knows of,
then those in compiled code.  Both go to a sink in batches.
-/

namespace Safepoint.Collector

open Roots (Batch Buffer CodeBlobs RootSink)

variable {Record Host : Type}

/-- An empty root buffer of the capacity in the settings. -/
def freshBuffer (collector : Collector Record Host) : Except Fault Buffer :=
  Buffer.allocate collector.settings.rootsCapacity.toNat

/-- Hands the roots of a parked mutator to a sink and answers how many there were. -/
def scanRoots (collector : Collector Record Host) (mutator : Mutator)
    (sink : RootSink (Process Record Host)) : Action (Process Record Host) Nat :=
  sink.collect ((collector.runtime.scanMutator mutator).beside.run (Batch.visit sink))

/-- Scans the installed code of a process, which nobody else has access to in the meantime. -/
def scanBlobs {Local : Type} (nurseryOnly : Bool)
    (visit : Address → Action (Local × Process Record Host) Unit) :
    Action (Local × Process Record Host) Nat := fun state =>
  Action.mapState (fun ended => (ended.2.1, { ended.2.2 with blobs := ended.1 }))
    (CodeBlobs.scan nurseryOnly visit (state.2.blobs, state))

/-- Hands the roots that belong to no mutator to a sink and answers how many there were. -/
def scanVmRoots (collector : Collector Record Host) (nurseryOnly : Bool)
    (sink : RootSink (Process Record Host)) : Action (Process Record Host) Nat :=
  sink.collect do
    collector.runtime.scanGlobals.beside.run (Batch.visit sink)
    let _ ← scanBlobs nurseryOnly (Batch.visit sink)

/-- Registers the slots of a new blob of code. -/
def registerCode (code : Address) (slots : List Address) : Action (Process Record Host) Unit :=
  Process.onBlobs (CodeBlobs.register code slots)

/-- Forgets a blob of code and answers how many slots it had. -/
def unregisterCode (code : Address) : Action (Process Record Host) Nat :=
  Process.onBlobs (CodeBlobs.unregister code)

end Safepoint.Collector
