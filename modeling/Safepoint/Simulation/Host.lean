import Safepoint.Process
import Safepoint.Simulation.Sink

/-!
# A scripted world around the collector

A runtime and a recorder that play a script and note what is asked of them.  The runtime parks
nobody but reports the mutators it is told to, knows the roots it is told, and fails where it is
told to.
-/

namespace Safepoint.Simulation

open Publication (Heap Published Recorder)
open Rendezvous (Phase)

/-- Something the collector asks of the runtime. -/
inductive Downcall where
  /-- To park every mutator, and to report them or not. -/
  | suspendAll (reporting : Bool)
  | resumeAll
  /-- To park one mutator, which has this status. -/
  | suspendOne (mutator : MutatorId) (status : CollectionStatus)
  /-- To let one mutator run, which has this status. -/
  | resumeOne (mutator : MutatorId) (status : CollectionStatus)
  | spawn (thread : CollectorThread)
  | enqueue (references : List ObjectRef)
  | wakeFinalizer
  deriving DecidableEq, Repr

namespace Downcall

/-- The name by which a script refers to a downcall. -/
def name : Downcall → String
  | suspendAll _ => "suspend_all"
  | resumeAll => "resume_all"
  | suspendOne _ _ => "suspend_one"
  | resumeOne _ _ => "resume_one"
  | spawn _ => "spawn"
  | enqueue _ => "enqueue"
  | wakeFinalizer => "finalize"

/-- What is asked for, as it is noted behind the name. -/
def detail : Downcall → String
  | suspendAll reporting => s!" report={reporting}"
  | resumeAll => ""
  | suspendOne mutator status => s!" {Word.decimal mutator.word} {status.text}"
  | resumeOne mutator status => s!" {Word.decimal mutator.word} {status.text}"
  | spawn thread => s!" {thread.role.text} {Word.decimal thread.ordinal} {thread.name}"
  | enqueue references => " [" ++ String.intercalate ", " (references.map ObjectRef.text) ++ "]"
  | wakeFinalizer => ""

end Downcall

/-- Something worth noting in a scripted world. -/
inductive Event where
  /-- A downcall, with the phase and the epoch in which it was made. -/
  | downcall (call : Downcall) (phase : Phase) (epoch : Word)
  /-- A thread of the collector ran. -/
  | ran (thread : CollectorThread)
  deriving DecidableEq, Repr

/-- The event as it is noted. -/
def Event.text : Event → String
  | downcall call phase epoch =>
      s!"{call.name}{call.detail} [{phase.text} {Word.decimal epoch}]"
  | ran thread =>
      match thread.role with
      | .controller => "ran controller"
      | .worker => s!"ran worker {Word.decimal thread.ordinal}"

/-- Something a barrier told its recorder. -/
inductive BarrierEvent where
  | write (mutator : MutatorId) (source : ObjectRef) (slot : Address) (target : ObjectRef)
  | copy (mutator : MutatorId) (source destination : AddressRange)
  | read (mutator : MutatorId) (target : ObjectRef)
  | publish (mutator : MutatorId) (object : ObjectRef)
  deriving DecidableEq, Repr

/-- The event as it is noted. -/
def BarrierEvent.text : BarrierEvent → String
  | write mutator source slot target =>
      s!"write {Word.decimal mutator.word} {source.text} {slot.text} {target.text}"
  | copy mutator source destination =>
      s!"copy {Word.decimal mutator.word} {source.text} {destination.text}"
  | read mutator target => s!"read {Word.decimal mutator.word} {target.text}"
  | publish mutator object => s!"publish {Word.decimal mutator.word} {object.text}"

/-- What the recorder of a scripted world keeps. -/
structure Kept where
  /-- What was published, if the recorder publishes. -/
  published : Published := {}
  /-- What it was told, if the recorder only notes that. -/
  noted : Array BarrierEvent := #[]

/-- Notes an event of a barrier. -/
def note (event : BarrierEvent) : Action (Heap Kept) Unit := fun heap =>
  .ok () { heap with record := { heap.record with noted := heap.record.noted.push event } }

/-- The recorder that notes what it is told and publishes nothing. -/
def notingRecorder : Recorder Kept where
  write mutator source slot target := note (.write mutator source slot target)
  copy mutator source destination := note (.copy mutator source destination)
  read mutator target := note (.read mutator target)
  publish mutator object := note (.publish mutator object)

/-- Runs a publication on the part of the record that counts it. -/
def onPublished {Value : Type} (action : Action (Heap Published) Value) :
    Action (Heap Kept) Value :=
  Heap.onRecord Kept.published (fun published kept => { kept with published := published }) action

/-- The recorder that publishes. -/
def publishingRecorder : Recorder Kept :=
  Recorder.publishing.onPart Kept.published fun published kept =>
    { kept with published := published }

/-- How the runtime of a scripted world behaves. -/
structure RuntimeScript where
  /-- Name of the downcall that fails. -/
  failOn : Option String := none
  /-- How often a mutator is reported when it alone is parked. -/
  visits : Nat := 1
  /-- Whether threads are put aside and not run at once. -/
  putsAside : Bool := false
  /-- Root slots of no mutator. -/
  globals : List Address := []
  /-- Root slots of the mutator of each thread. -/
  roots : Table ThreadId (List Address) := .empty
  /-- Mutators reported when all are parked. -/
  reported : List Mutator := []

/-- The outside world, scripted. -/
structure Host where
  script : RuntimeScript := {}
  /-- What happened, oldest first. -/
  events : Array Event := #[]
  /-- Threads put aside, the newest first. -/
  aside : List CollectorThread := []
  sink : ScriptedSink := {}
  /-- Mutators visited in the pause under way, with the phase at the time. -/
  visited : Array (MutatorId × Phase) := #[]

/-- A process in a scripted world. -/
abbrev ScriptedProcess : Type := Process Kept Host

/-- Notes an event of the runtime. -/
def noteEvent (event : Event) : Action ScriptedProcess Unit :=
  Process.onHost (modify fun host => { host with events := host.events.push event })

/-- The fault of a downcall that fails. -/
def downcallFault (name : String) : Fault := .collaborator s!"runtime panic in {name}"

/-- Notes a downcall on entry, and fails if the script says so. -/
def enter (call : Downcall) : Action ScriptedProcess Unit := do
  let rendezvous := (← get).rendezvous
  noteEvent (.downcall call rendezvous.phase rendezvous.epoch)
  if (← get).host.script.failOn = some call.name then
    throw (downcallFault call.name)

/-- Name by which a script refers to the scan of a mutator. -/
def scanMutatorName : String := "scan_roots"

/-- Name by which a script refers to the scan of the other roots. -/
def scanGlobalsName : String := "scan_vm_roots"

/--
The runtime that plays the script of its process.  A minimal one knows no roots but those of
mutators and has no handler of references.
-/
def scriptedRuntime (minimal : Bool) : Runtime ScriptedProcess where
  suspendAll reporting := .act (enter (.suspendAll reporting)) fun process =>
    if reporting then .ofList process.host.script.reported else .done
  resumeAll := enter .resumeAll
  suspendOne mutator :=
    .act (fun process => enter (.suspendOne mutator.id (process.status mutator.id)) process)
      fun process => .ofList (List.replicate process.host.script.visits mutator)
  resumeOne mutator := fun process =>
    enter (.resumeOne mutator.id (process.status mutator.id)) process
  scanMutator mutator := .act (pure ()) fun process =>
    let script := process.host.script
    .ofList ((script.roots.get? mutator.thread).getD [])
      (if script.failOn = some scanMutatorName then .fail (downcallFault scanMutatorName)
      else .done)
  scanGlobals :=
    if minimal then .done
    else .act (pure ()) fun process =>
      let script := process.host.script
      if script.failOn = some scanGlobalsName then .fail (downcallFault scanGlobalsName)
      else .ofList script.globals
  spawn thread body := do
    enter (.spawn thread)
    if (← get).host.script.putsAside then
      Process.onHost (modify fun host => { host with aside := thread :: host.aside })
    else
      body
  enqueue references := enter (.enqueue references)
  wakeFinalizer := if minimal then pure () else enter .wakeFinalizer

/-- The scripted sink of a process. -/
def hostSink : Roots.RootSink ScriptedProcess :=
  ScriptedSink.sink.onPart (fun process => process.host.sink)
    fun sink process => { process with host := { process.host with sink := sink } }

/-- Plays an action with a sink that starts to play a script. -/
def withSink {Value : Type} (script : SinkScript) (action : Action ScriptedProcess Value) :
    Action ScriptedProcess Value := do
  Process.onHost (modify fun host => { host with sink := { script := script } })
  action

end Safepoint.Simulation
