import Safepoint.Exhaustion
import Safepoint.Simulation.World

/-!
# Commands to a scripted world

A history is a row of commands, each of which a world carries out with a reply, a fault, or a
refusal when it would touch memory that is not there or wait for ever.  `World.perform` carries
out one command; a fault leaves the world as it was when it was met.
-/

namespace Safepoint.Simulation

open Publication (BarrierCounts BarrierMode Bitmap Heap)
open Rendezvous (Ticket)

/-- Something a visitor of a pause does besides looking. -/
inductive VisitAction where
  | destroy
  /-- Binds a thread with a number made from that of the visit. -/
  | bind
  /-- Takes a mutator out of the pass over the roster. -/
  | next
  | reset
  | request
  | resume
  | stop
  /-- Has the runtime report nobody from now on. -/
  | detach
  | fail
  deriving DecidableEq, Repr

/-- What the visitor of a pause does. -/
structure VisitPlan where
  /-- Whether it scans the roots of each mutator, and for which sink. -/
  scan : Option SinkScript := none
  /-- What else it does, by the number of the visit. -/
  actions : List (Nat × VisitAction) := []

/-- Numbers of the threads that visitors bind start here. -/
def visitThreadBase : Nat := 1000

/-- Carries out an action of a visitor. -/
def VisitAction.perform (collector : Collector Kept Host) (visit : Nat) (mutator : Mutator) :
    VisitAction → Action ScriptedProcess Unit
  | destroy => Collector.destroy mutator
  | bind => do
      let _ ← Collector.bind ⟨UInt64.ofNat (visitThreadBase + visit)⟩
  | next => do
      let _ ← Process.onRoster Roster.next
  | reset => Process.onRoster Roster.resetPass
  | request => Collector.request mutator
  | resume => collector.resumeAll
  | stop => do
      let _ ← collector.stopAll fun _ => pure ()
  | detach =>
      Process.onHost (modify fun host =>
        { host with script := { host.script with reported := [] } })
  | fail => throw (.collaborator "visitor panic")

/-- The visitor of a pause with a plan. -/
def VisitPlan.visitor (collector : Collector Kept Host) (plan : VisitPlan) (mutator : Mutator) :
    Action ScriptedProcess Unit := do
  let process ← get
  let visit := process.host.visited.size
  Process.onHost (modify fun host =>
    { host with visited := host.visited.push (mutator.id, process.rendezvous.phase) })
  if plan.scan.isSome then
    let _ ← collector.scanRoots mutator hostSink
  match plan.actions.find? fun entry => entry.1 = visit with
  | some (_, action) => action.perform collector visit mutator
  | none => return

/-- Changes to the script of the runtime. -/
structure RuntimeChange where
  /-- Which downcall fails from now on, if that changes. -/
  failOn : Option (Option String) := none
  /-- How often a mutator is reported when it alone is parked. -/
  visits : Option Nat := none
  /-- Whether threads are put aside. -/
  putsAside : Option Bool := none
  /-- Root slots of no mutator. -/
  globals : Option (List Address) := none
  /-- Root slots of the mutator of a thread. -/
  roots : Option (ThreadId × List Address) := none
  /-- Mutators reported when all are parked. -/
  reported : Option (List Mutator) := none

/-- The script with the changes made. -/
def RuntimeChange.apply (change : RuntimeChange) (script : RuntimeScript) : RuntimeScript where
  failOn := change.failOn.getD script.failOn
  visits := change.visits.getD script.visits
  putsAside := change.putsAside.getD script.putsAside
  globals := change.globals.getD script.globals
  roots :=
    match change.roots with
    | some (thread, slots) => script.roots.insert thread slots
    | none => script.roots
  reported := change.reported.getD script.reported

/-- One command of a history. -/
inductive Command where
  | declare (object : ObjectRef) (declared : Declared)
  | store (slot : Address) (value : ObjectRef)
  | load (slot : Address)
  /-- Changes the script of the runtime. -/
  | script (change : RuntimeChange)
  /-- Binds a thread, which the runtime may report from then on. -/
  | bind (thread : ThreadId) (reported : Bool)
  | destroy (mutator : Mutator)
  /-- Looks up the mutator of a thread. -/
  | mutatorOf (thread : ThreadId)
  | nextMutator
  | resetPass
  | show (mutator : Mutator)
  /-- Passes the barrier of a write, and may then make it. -/
  | write (mutator : Mutator) (source : ObjectRef) (slot : Address) (target : ObjectRef)
      (stores : Bool)
  | copy (mutator : Mutator) (source destination : Address) (count : Word) (array : ObjectRef)
  | read (mutator : Mutator) (target : ObjectRef)
  /-- Publishes an object on purpose. -/
  | publish (mutator : Mutator) (object : ObjectRef)
  /-- Publishes an object for a mutator by number and counts what became public. -/
  | publishClosure (mutator : MutatorId) (object : ObjectRef)
  /-- Asks whether objects are public. -/
  | arePublic (objects : List ObjectRef)
  | isPublic (object : ObjectRef)
  | mark (address : Address)
  | clear (address : Address) (bytes : Word)
  | counts (mutator : Mutator)
  | resetCounts (mutator : Mutator)
  | stop (plan : VisitPlan)
  | resume
  /-- Counts the pauses that were timed. -/
  | pauses
  | ticket
  | waitPast (ticket : Ticket)
  /-- Runs pauses and waits for the end of one. -/
  | collectAndWait (pauses : Nat)
  | startWaiter (waiter : Waiter)
  | joinWaiter (index : Nat)
  /-- Waits for a pause of another process. -/
  | blockUntilDone
  | request (mutator : Mutator)
  /-- Waits for the end of that collection. -/
  | block (mutator : Mutator)
  | status (mutator : Mutator)
  /-- Takes the next request, if there is one. -/
  | tryNext
  /-- Takes the next request and waits for it. -/
  | next
  /-- Takes the request that a mutator makes meanwhile. -/
  | nextFrom (mutator : Mutator)
  | collect (mutator : Mutator) (sink : SinkScript)
  | serve (sink : SinkScript)
  | scanRoots (mutator : Mutator) (sink : SinkScript)
  | scanVmRoots (nurseryOnly : Bool) (sink : SinkScript)
  | registerCode (code : Address) (slots : List Address)
  | unregisterCode (code : Address)
  | freshBuffer
  | spawn
  /-- Runs the threads that were put aside, the newest first. -/
  | runAside
  | enqueue (references : List ObjectRef)
  | heapExhausted

/-- What a world answers. -/
inductive Reply where
  | nothing
  | number (value : Nat)
  | flag (value : Bool)
  /-- A truth value for each of several things. -/
  | flags (values : List Bool)
  | text (value : String)
  /-- A mutator that was bound, with its handle. -/
  | bound (handle : Nat) (description : String) (mode : BarrierMode)
  /-- The mutator of a thread, and whether the thread has one. -/
  | lookup (mutator : Option MutatorId) (isMutator : Bool)
  | mutator (mutator : Option MutatorId)
  | counts (counts : BarrierCounts)
  /-- Pauses that were timed. -/
  | pauses (count : Word)
  /-- A thread goes on, from this epoch. -/
  | released (epoch : Word)
  /-- A thread still waits. -/
  | waiting
  /-- Whether a thread was released by a later epoch. -/
  | blocked (released advanced : Bool)
  /-- Whose request was served, and how many roots there were. -/
  | served (mutator : MutatorId) (roots : Nat)
  | buffer (capacity size : Nat)

/-- Why a world does not carry out a command. -/
inductive Refusal where
  /-- It would touch memory outside the arena. -/
  | unmapped
  /-- It would wait for ever. -/
  | wouldBlock
  | alreadyJoined
  | noSuchWaiter
  | queueNotIdle
  /-- The recorder publishes nothing that could be counted. -/
  | noPublishingRecorder
  deriving DecidableEq, Repr

/-- How a command ended. -/
inductive Outcome where
  | reply (reply : Reply)
  | fault (fault : Fault)
  /-- It was not carried out. -/
  | refused (refusal : Refusal)

namespace World

/-- Carries out an action of the process. -/
def act {Value : Type} (world : World) (action : Action ScriptedProcess Value)
    (reply : Value → Reply) : Outcome × World :=
  match action world.process with
  | .ok value process => (.reply (reply value), { world with process := process })
  | .error fault process => (.fault fault, { world with process := process })

/-- Answers without changing anything. -/
def answer (world : World) (reply : Reply) : Outcome × World := (.reply reply, world)

/-- Refuses a command. -/
def refuse (world : World) (refusal : Refusal) : Outcome × World := (.refused refusal, world)

/-- Declares an object whose slots are in the arena. -/
def declare (world : World) (object : ObjectRef) (declared : Declared) : Outcome × World :=
  if declared.slots.all isMapped then
    let table := world.declared.insert object declared
    let process := world.process
    let objects := declaredObjects table (hasOwners world.kind)
    (.reply .nothing,
      { world with
        declared := table
        process := { process with heap := { process.heap with objects := objects } } })
  else
    world.refuse .unmapped

/-- Binds a thread. -/
def bind (world : World) (thread : ThreadId) (reported : Bool) : Outcome × World :=
  match Collector.bind thread world.process with
  | .error fault process => (.fault fault, { world with process := process })
  | .ok mutator process =>
      let host := process.host
      let script := host.script
      let host : Host :=
        if reported then
          { host with script := { script with reported := script.reported ++ [mutator] } }
        else
          host
      (.reply (.bound world.mutators.size (mutator.text (process.status mutator.id))
          world.collector.settings.barrierMode),
        { world with
          mutators := world.mutators.push mutator
          process := { process with host := host } })

/-- Stores a reference. -/
def storeAction (slot : Address) (value : ObjectRef) : Action ScriptedProcess Unit :=
  Process.onHeap (modify fun heap => { heap with memory := heap.memory.store slot value })

/-- Passes the barrier of a write, and may then make it. -/
def write (world : World) (mutator : Mutator) (source : ObjectRef) (slot : Address)
    (target : ObjectRef) (stores : Bool) : Outcome × World :=
  if stores && !isMapped slot then
    world.refuse .unmapped
  else
    world.act (do
      world.collector.recordWrite mutator source slot target
      if stores then
        storeAction slot target) fun _ => .nothing

/-- Passes the barrier of a copy, if the slots copied from are in the arena. -/
def copy (world : World) (mutator : Mutator) (source destination : Address) (count : Word)
    (array : ObjectRef) : Outcome × World :=
  if (Word.mul? count (UInt64.ofNat arenaWord)).isSome && !areMapped source count then
    world.refuse .unmapped
  else
    world.act (world.collector.recordCopy mutator source destination count array)
      fun _ => .nothing

/-- Runs a pause that nobody looks at. -/
def plainPause (collector : Collector Kept Host) : Action ScriptedProcess Unit := do
  let _ ← collector.stopAll fun _ => pure ()
  collector.resumeAll

/-- Runs pauses that nobody looks at. -/
def plainPauses (collector : Collector Kept Host) : Nat → Action ScriptedProcess Unit
  | 0 => pure ()
  | pauses + 1 => do
      plainPause collector
      plainPauses collector pauses

/-- Lets a thread that waits go on as far as it gets; answers whether it waits no longer. -/
def runThread (world : World) (thread : StartedThread) : Bool × World :=
  let process := thread.run world.process
  (thread.stage? process = some .released, { world with process := process })

/-- Runs pauses in a thread that then waits for the end of one. -/
def collectAndWait (world : World) (pauses : Nat) : Outcome × World :=
  if pauses = 0 then
    world.refuse .wouldBlock
  else
    let ticket := world.process.rendezvous.ticket
    match Collector.collectAndWait (plainPauses world.collector pauses) world.process with
    | .error fault process => (.fault fault, { world with process := process })
    | .ok number process =>
        let (through, after) :=
          { world with process := process }.runThread ⟨.forPause ticket, number⟩
        if through then after.answer .nothing else after.refuse .wouldBlock

/-- Waits in a thread of its own, unless that would be for ever. -/
def wait (world : World) (waiter : Waiter) (reply : Reply) : Outcome × World :=
  match StartedThread.start waiter world.process with
  | .error fault process => (.fault fault, { world with process := process })
  | .ok thread process =>
      let (through, after) := { world with process := process }.runThread thread
      if through then after.answer reply else world.refuse .wouldBlock

/-- Starts a thread that waits, and lets it go on. -/
def startWaiter (world : World) (waiter : Waiter) : Outcome × World :=
  match StartedThread.start waiter world.process with
  | .error fault process => (.fault fault, { world with process := process })
  | .ok thread process =>
      let (_, after) := { world with process := process }.runThread thread
      (.reply (.number world.waiters.size),
        { after with waiters := after.waiters.push (some thread) })

/-- Joins a thread that waits, if it gets through. -/
def joinWaiter (world : World) (index : Nat) : Outcome × World :=
  match world.waiters[index]? with
  | none => world.refuse .noSuchWaiter
  | some none => world.refuse .alreadyJoined
  | some (some thread) =>
      let (through, after) := world.runThread thread
      if through then
        let epoch :=
          match thread.waiter with
          | .forPause ticket => ticket.epoch
          | .forCollection _ => 0
        (.reply (.released epoch), { after with waiters := after.waiters.set! index none })
      else
        after.answer .waiting

/-- Waits for a pause of a process of its own. -/
def blockUntilDone (world : World) : Outcome × World :=
  let settings : Settings := { heapSize := 0x1000, workers := 1 }
  match start settings (.ofSettings settings) .model true with
  | .error _ => world.answer (.blocked false false)
  | .ok other =>
      let ticket := other.process.rendezvous.ticket
      match Collector.blockUntilPauseDone other.process with
      | .error _ _ => world.answer (.blocked false false)
      | .ok number process =>
          let thread : StartedThread := ⟨.forPause ticket, number⟩
          let (_, asleep) := { other with process := process }.runThread thread
          match plainPause other.collector asleep.process with
          | .error _ _ => world.answer (.blocked false false)
          | .ok _ process =>
              let (through, after) := { asleep with process := process }.runThread thread
              world.answer (.blocked through (after.process.rendezvous.isPast ticket))

/-- Takes the request that a mutator makes while the queue is watched. -/
def nextFrom (world : World) (mutator : Mutator) : Outcome × World :=
  if world.process.requests.isEmpty ∧ world.process.status mutator.id = .inactive then
    world.act (do
      Collector.request mutator
      Collector.nextRequest) fun found => .mutator (found.map Mutator.id)
  else
    world.refuse .queueNotIdle

/-- Runs a thread that was put aside. -/
def runBody (thread : CollectorThread) : Action ScriptedProcess Unit := noteEvent (.ran thread)

/-- Runs the threads that were put aside. -/
def runAside (world : World) : Outcome × World :=
  world.act (do
    let aside := (← get).host.aside
    Process.onHost (modify fun host => { host with aside := [] })
    aside.forM runBody
    return aside.length) .number

/-- Carries out a command. -/
def perform (world : World) : Command → Outcome × World
  | .declare object declared => world.declare object declared
  | .store slot value =>
      if isMapped slot then world.act (storeAction slot value) fun _ => .nothing
      else world.refuse .unmapped
  | .load slot =>
      if isMapped slot then world.answer (.text (world.process.heap.memory.load slot).text)
      else world.refuse .unmapped
  | .script change =>
      world.act (Process.onHost (modify fun host =>
        { host with script := change.apply host.script })) fun _ => .nothing
  | .bind thread reported => world.bind thread reported
  | .destroy mutator => world.act (Collector.destroy mutator) fun _ => .nothing
  | .mutatorOf thread =>
      let roster := world.process.roster
      world.answer (.lookup ((roster.mutator? thread).map Mutator.id) (roster.isMutator thread))
  | .nextMutator =>
      world.act (Process.onRoster Roster.next) fun found => .mutator (found.map Mutator.id)
  | .resetPass => world.act (Process.onRoster Roster.resetPass) fun _ => .nothing
  | .show mutator => world.answer (.text (mutator.text (world.process.status mutator.id)))
  | .write mutator source slot target stores => world.write mutator source slot target stores
  | .copy mutator source destination count array =>
      world.copy mutator source destination count array
  | .read mutator target =>
      world.act (world.collector.recordRead mutator target) fun _ => .nothing
  | .publish mutator object =>
      world.act (world.collector.publishObject mutator object) fun _ => .nothing
  | .publishClosure mutator object =>
      if world.kind = .publish then
        world.act (Process.onHeap (onPublished (Heap.publishClosure mutator object))) .number
      else
        world.refuse .noPublishingRecorder
  | .arePublic objects => world.answer (.flags (objects.map world.process.heap.isPublic))
  | .isPublic object => world.answer (.flag (world.process.heap.isPublic object))
  | .mark address => world.act (Process.onBitmap (Bitmap.markPublic address)) .flag
  | .clear address bytes =>
      world.act (Process.onBitmap (Bitmap.clearRange address bytes)) fun _ => .nothing
  | .counts mutator => world.answer (.counts (world.process.counts mutator.id))
  | .resetCounts mutator => world.act (Collector.resetCounts mutator) fun _ => .nothing
  | .stop plan =>
      world.act (withSink (plan.scan.getD {}) (world.collector.stopAll
        (plan.visitor world.collector))) fun ticket => .number ticket.epoch.toNat
  | .resume => world.act world.collector.resumeAll fun _ => .nothing
  | .pauses => world.answer (.pauses world.process.rendezvous.timed)
  | .ticket =>
      let ticket := world.process.rendezvous.ticket
      (.reply (.number ticket.epoch.toNat), { world with tickets := world.tickets.push ticket })
  | .waitPast ticket =>
      world.wait (.forPause ticket) (.number world.process.rendezvous.epoch.toNat)
  | .collectAndWait pauses => world.collectAndWait pauses
  | .startWaiter waiter => world.startWaiter waiter
  | .joinWaiter index => world.joinWaiter index
  | .blockUntilDone => world.blockUntilDone
  | .request mutator => world.act (Collector.request mutator) fun _ => .nothing
  | .block mutator => world.wait (.forCollection mutator) .nothing
  | .status mutator => world.answer (.text (world.process.status mutator.id).text)
  | .tryNext => world.act Collector.nextRequest fun found => .mutator (found.map Mutator.id)
  | .next =>
      if world.process.requests.isEmpty then world.refuse .wouldBlock
      else world.act Collector.nextRequest fun found => .mutator (found.map Mutator.id)
  | .nextFrom mutator => world.nextFrom mutator
  | .collect mutator sink =>
      world.act (withSink sink (world.collector.collectOne mutator hostSink)) .number
  | .serve sink =>
      if world.process.requests.isEmpty then world.refuse .wouldBlock
      else
        world.act (withSink sink (world.collector.serve hostSink)) fun served =>
          match served with
          | some (mutator, roots) => .served mutator.id roots
          | none => .nothing
  | .scanRoots mutator sink =>
      world.act (withSink sink (world.collector.scanRoots mutator hostSink)) .number
  | .scanVmRoots nurseryOnly sink =>
      world.act (withSink sink (world.collector.scanVmRoots nurseryOnly hostSink)) .number
  | .registerCode code slots =>
      world.act (Collector.registerCode code slots) fun _ => .nothing
  | .unregisterCode code => world.act (Collector.unregisterCode code) .number
  | .freshBuffer =>
      match world.collector.freshBuffer with
      | .ok buffer => world.answer (.buffer buffer.capacity buffer.slots.size)
      | .error fault => (.fault fault, world)
  | .spawn => world.act (world.collector.spawnThreads runBody) fun _ => .nothing
  | .runAside => world.runAside
  | .enqueue references =>
      world.act (world.collector.enqueueReferences references) fun _ => .nothing
  | .heapExhausted =>
      match Exhaustion.heap.lastWords with
      | none => world.answer .nothing
      | some words => (.fault (.collaborator words), world)

end World

end Safepoint.Simulation
