import Safepoint.Process
import Safepoint.Proofs.Publication.Granules
import Safepoint.Roots.Batch

/-!
# A world at rest

What holds of every process and every collaborator is tried on some of them.  Here are a heap and a
process in which nothing has happened, a runtime that has neither mutators nor roots, and a sink
that takes everything; whoever needs others says where they differ.
-/

namespace Safepoint

open Publication (Heap Recorder)

variable {State Record Host : Type}

/-- A heap in which nothing is public, of objects of eight bytes without slots and owners. -/
def Publication.Heap.vacant (record : Record) : Heap Record where
  bitmap := .ofByte 0
  memory := .zeroed
  objects :=
    { size := fun _ => 8
      slots := fun _ => []
      owner := fun _ => none
      describe := ObjectRef.text }
  record := record

/-- A process in which nothing has happened. -/
def Process.vacant (record : Record) (host : Host) : Process Record Host where
  heap := .vacant record
  host := host

/-- A recorder that takes no notice of anything. -/
def Publication.Recorder.deaf : Recorder Record where
  write _ _ _ _ := pure ()
  copy _ _ _ := pure ()
  publish _ _ := pure ()

/-- A runtime that has nobody to park, no roots to report and no threads to start. -/
def Runtime.idle : Runtime State where
  suspendAll _ := .done
  resumeAll := pure ()
  suspendOne _ := .done
  resumeOne _ := pure ()
  scanMutator _ := .done
  spawn _ _ := pure ()
  enqueue _ := pure ()

/-- A collector with one worker for a runtime. -/
def Collector.withRuntime (runtime : Runtime (Process Record Host)) : Collector Record Host where
  settings := { workers := 1 }
  recorder := .deaf
  runtime := runtime

/-- A collector whose barriers publish, for a runtime that does nothing. -/
def Collector.publishing : Collector Publication.Published Host :=
  { withRuntime .idle with recorder := .publishing }

/-- A sink that takes every batch, and hands out empty buffers of one capacity. -/
def Roots.RootSink.steady (capacity : Nat) : RootSink State where
  acquire := pure (.filled capacity [])
  report _ := pure (.filled capacity [])

end Safepoint
