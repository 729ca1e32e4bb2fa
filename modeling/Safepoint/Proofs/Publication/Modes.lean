import Safepoint.Collector.Pauses
import Safepoint.Collector.Start
import Safepoint.Proofs.Publication.Operations
import Safepoint.Simulation.Host

/-!
# The mode of the barriers cannot be told

Where the checks of barriers stand is a matter of speed.  Two collectors that differ in nothing else
are put through the same program here, in which visitors of a pause may act as well.
`Modes.history_eq` states that no answer, no fault, no call of the recorder and no counter tells
which is which, whatever the recorder does with the heap and with what it has seen.
-/

namespace Safepoint

open Publication (Barrier BarrierCounts BarrierMode Bitmap Heap Recorder)
open Rendezvous (Ticket)
open Simulation (BarrierEvent)

variable {Record Host : Type}

/-- The same collector with its checks elsewhere. -/
def Collector.inMode (collector : Collector Record Host) (mode : BarrierMode) :
    Collector Record Host :=
  { collector with settings := { collector.settings with barrierMode := mode } }

namespace Modes

/-- Something a thread does with its collector and its heap. -/
inductive Call where
  | write (mutator : Mutator) (source : ObjectRef) (slot : Address) (target : ObjectRef)
  | copy (mutator : Mutator) (first destination : Address) (count : Word) (array : ObjectRef)
  | read (mutator : Mutator) (target : ObjectRef)
  | publish (mutator : Mutator) (object : ObjectRef)
  | store (slot : Address) (value : ObjectRef)
  | mark (address : Address)
  | clear (start : Address) (bytes : Word)
  | resetCounts (mutator : Mutator)
  | bind (thread : ThreadId)
  | destroy (mutator : Mutator)
  | resume

/-- What a call or a stop answers. -/
inductive Answer where
  | nothing
  | fresh (was_private : Bool)
  | bound (mutator : Mutator)
  | stopped (ticket : Ticket)

def Call.perform (collector : Collector Record Host) : Call → Action (Process Record Host) Answer
  | write mutator source slot target => do
      collector.recordWrite mutator source slot target
      return .nothing
  | copy mutator first destination count array => do
      collector.recordCopy mutator first destination count array
      return .nothing
  | read mutator target => do
      collector.recordRead mutator target
      return .nothing
  | publish mutator object => do
      collector.publishObject mutator object
      return .nothing
  | store slot value => do
      Process.onHeap (modify fun heap => { heap with memory := heap.memory.store slot value })
      return .nothing
  | mark address => do
      return .fresh (← Process.onBitmap (Bitmap.markPublic address))
  | clear start bytes => do
      Process.onBitmap (Bitmap.clearRange start bytes)
      return .nothing
  | resetCounts mutator => do
      Collector.resetCounts mutator
      return .nothing
  | bind thread => do
      return .bound (← Collector.bind thread)
  | destroy mutator => do
      Collector.destroy mutator
      return .nothing
  | resume => do
      collector.resumeAll
      return .nothing

/-- Calls one after another; a stop hands each mutator to a visitor with a program of its own. -/
inductive Program where
  | done
  | next (call : Call) (rest : Program)
  | stop (visit : Mutator → Program) (rest : Program)

namespace Program

/-- Runs a program up to its first fault, as a visitor does. -/
def run (collector : Collector Record Host) : Program → Action (Process Record Host) Unit
  | done => pure ()
  | next call rest => do
      let _ ← call.perform collector
      rest.run collector
  | stop visit rest => do
      let _ ← collector.stopAll fun mutator => (visit mutator).run collector
      rest.run collector

/-- How each step of a program ends if the next one starts from whatever that leaves. -/
def endings (collector : Collector Record Host) : Program → Process Record Host →
    List (Ending (Process Record Host) Answer)
  | done, _ => []
  | next call rest, process =>
      let ending := call.perform collector process
      ending :: rest.endings collector (Action.left ending)
  | stop visit rest, process =>
      let ending :=
        (Answer.stopped <$> collector.stopAll fun mutator => (visit mutator).run collector) process
      ending :: rest.endings collector (Action.left ending)

end Program

section InMode

variable (collector : Collector Record Host) (mode : BarrierMode) (mutator : Mutator)

theorem recordWrite_inMode (source : ObjectRef) (slot : Address) (target : ObjectRef) :
    (collector.inMode mode).recordWrite mutator source slot target =
      collector.recordWrite mutator source slot target := by
  have write_eq : ((collector.inMode mode).barrier mutator).write source slot target =
      (collector.barrier mutator).write source slot target := by
    funext state
    rw [Barrier.write_eq, Barrier.write_eq]
    rfl
  rw [Collector.recordWrite, write_eq, Collector.recordWrite]

theorem recordCopy_inMode (first destination : Address) (count : Word) (array : ObjectRef) :
    (collector.inMode mode).recordCopy mutator first destination count array =
      collector.recordCopy mutator first destination count array := by
  have copy_eq : ((collector.inMode mode).barrier mutator).copy first destination count array =
      (collector.barrier mutator).copy first destination count array := by
    funext state
    rw [Barrier.copy_eq, Barrier.copy_eq]
    rfl
  rw [Collector.recordCopy, copy_eq, Collector.recordCopy]

theorem recordRead_inMode (target : ObjectRef) :
    (collector.inMode mode).recordRead mutator target = collector.recordRead mutator target := by
  have read_eq : ((collector.inMode mode).barrier mutator).read target =
      (collector.barrier mutator).read target := by
    funext state
    rw [Barrier.read_eq, Barrier.read_eq]
    rfl
  rw [Collector.recordRead, read_eq, Collector.recordRead]

theorem Call.perform_inMode (call : Call) :
    call.perform (collector.inMode mode) = call.perform collector := by
  cases call with
  | write mutator source slot target => rw [perform, recordWrite_inMode, perform]
  | copy mutator first destination count array => rw [perform, recordCopy_inMode, perform]
  | read mutator target => rw [perform, recordRead_inMode, perform]
  | publish | store | mark | clear | resetCounts | bind | destroy | resume => rfl

/-- A visitor leaves the same behind in every mode. -/
theorem Program.run_inMode (program : Program) :
    program.run (collector.inMode mode) = program.run collector := by
  induction program with
  | done => rfl
  | next call rest ih => rw [run, Call.perform_inMode, ih, run]
  | stop visit rest visit_ih ih =>
      rw [run, funext visit_ih, ih, run]
      rfl

theorem Program.endings_inMode (program : Program) (process : Process Record Host) :
    program.endings (collector.inMode mode) process = program.endings collector process := by
  induction program generalizing process with
  | done => rfl
  | next call rest ih => simp only [endings, Call.perform_inMode, ih]
  | stop visit rest visit_ih ih =>
      have stop_eq : ((collector.inMode mode).stopAll fun mutator =>
          (visit mutator).run (collector.inMode mode)) =
            collector.stopAll fun mutator => (visit mutator).run collector := by
        simp only [Program.run_inMode]
        rfl
      simp only [endings, stop_eq, ih]

end InMode

/-- Notes what a recorder was told, after all it was told before. -/
def log (event : BarrierEvent) : Action (Heap (List BarrierEvent × Record)) Unit :=
  modify fun heap => { heap with record := (heap.record.1 ++ [event], heap.record.2) }

/-- Runs a hook of a recorder whose calls are noted beside what it keeps itself. -/
def onOwn (hook : Action (Heap Record) Unit) : Action (Heap (List BarrierEvent × Record)) Unit :=
  Heap.onRecord Prod.snd (fun own record => (record.1, own)) hook

/-- The same recorder with its calls noted, each before it is answered. -/
def logging (recorder : Recorder Record) : Recorder (List BarrierEvent × Record) where
  write mutator source slot target := do
    log (.write mutator source slot target)
    onOwn (recorder.write mutator source slot target)
  copy mutator source destination := do
    log (.copy mutator source destination)
    onOwn (recorder.copy mutator source destination)
  read mutator target := do
    log (.read mutator target)
    onOwn (recorder.read mutator target)
  publish mutator object := do
    log (.publish mutator object)
    onOwn (recorder.publish mutator object)

/-- What can be known after a step. -/
structure Observation (Record : Type) where
  /-- The answer of the step, or its fault. -/
  outcome : Except Fault Answer
  bitmap : Bitmap
  /-- The calls of the recorder so far, oldest first. -/
  told : List BarrierEvent
  /-- What the recorder keeps, such as counts of what it published. -/
  record : Record
  counts : MutatorId → BarrierCounts

def observe : Ending (Process (List BarrierEvent × Record) Host) Answer → Observation Record
  | .ok answer process =>
      ⟨.ok answer, process.heap.bitmap, process.heap.record.1, process.heap.record.2,
        process.counts⟩
  | .error fault process =>
      ⟨.error fault, process.heap.bitmap, process.heap.record.1, process.heap.record.2,
        process.counts⟩

/-- How a collector is started. -/
inductive Founding (Record : Type) where
  /-- On a bitmap made elsewhere. -/
  | around (bitmap : Bitmap) (memory : Memory) (objects : ObjectModel) (record : Record)
  /-- On a bitmap made from its settings. -/
  | fresh (memory : Memory) (objects : ObjectModel) (record : Record)

def Founding.start (collector : Collector (List BarrierEvent × Record) Host) (host : Host) :
    Founding Record → Except StartFailure (Process (List BarrierEvent × Record) Host)
  | around bitmap memory objects record =>
      collector.start ⟨bitmap, memory, objects, ([], record)⟩ host
  | fresh memory objects record => collector.startFresh memory objects ([], record) host

/-- All that can be known of a program under a new collector, or why that did not start. -/
def history (collector : Collector (List BarrierEvent × Record) Host) (founding : Founding Record)
    (host : Host) (program : Program) : Except StartFailure (List (Observation Record)) :=
  (founding.start collector host).map fun process =>
    (program.endings collector process).map observe

/-- Two collectors that differ in their mode have the same history. -/
theorem history_eq (settings : Settings) (recorder : Recorder Record)
    (runtime : Runtime (Process (List BarrierEvent × Record) Host)) (founding : Founding Record)
    (host : Host) (program : Program) :
    history ⟨{ settings with barrierMode := .inlineChecks }, logging recorder, runtime⟩ founding
        host program =
      history ⟨{ settings with barrierMode := .outOfLine }, logging recorder, runtime⟩ founding
        host program := by
  let collector : Collector (List BarrierEvent × Record) Host :=
    ⟨settings, logging recorder, runtime⟩
  have history_inMode (mode : BarrierMode) :
      history (collector.inMode mode) founding host program =
        history collector founding host program := by
    have start_eq : founding.start (collector.inMode mode) host = founding.start collector host := by
      cases founding <;> rfl
    simp only [history, start_eq, Program.endings_inMode]
  exact (history_inMode .inlineChecks).trans (history_inMode .outOfLine).symm

end Modes

end Safepoint
