import Safepoint.Roots.Batch

/-!
# A scripted root sink

A sink that plays a script: which capacities its buffers have, what they hold when they are handed
out, and which batch it fails on.  It keeps the batches it took.  `visitAll` plays one visit of a
row of slots against such a sink and notes how many batches there were after each slot.
-/

namespace Safepoint.Simulation

open Roots (Batch Buffer RootSink)

/-- How a scripted sink behaves. -/
structure SinkScript where
  /-- Capacities of the buffers in the order in which they are handed out; the last one repeats. -/
  capacities : List Nat := [4]
  /-- What the first buffer holds. -/
  prefill : List Address := []
  /-- What every further buffer holds. -/
  dirty : List Address := []
  /-- Whether a batch is handed back as the next buffer, as it is. -/
  reuse : Bool := false
  /-- The number of the batch that the sink fails on. -/
  failAt : Option Nat := none
  /-- Whether released buffers are not looked at. -/
  plain : Bool := false

/-- A scripted sink with what it has seen. -/
structure ScriptedSink where
  script : SinkScript := {}
  handedOut : Nat := 0
  /-- First buffers handed out so far. -/
  acquired : Nat := 0
  /-- The batches, oldest first. -/
  batches : Array (List Address) := #[]
  /-- Slots left in each released buffer. -/
  released : Array Nat := #[]

namespace ScriptedSink

/-- Capacity of the next buffer. -/
def nextCapacity (sink : ScriptedSink) : Nat :=
  match sink.script.capacities[sink.handedOut]? with
  | some capacity => capacity
  | none => sink.script.capacities.getLastD 0

/-- Hands out the next buffer of the script with the given contents. -/
def handOut (contents : List Address) : Action ScriptedSink Buffer := fun sink =>
  match Buffer.allocate sink.nextCapacity with
  | .error fault => .error fault sink
  | .ok buffer =>
      .ok (.filled buffer.capacity contents) { sink with handedOut := sink.handedOut + 1 }

/-- Hands out the first buffer of a visit. -/
def acquire : Action ScriptedSink Buffer := fun sink =>
  handOut (if sink.handedOut = 0 then sink.script.prefill else [])
    { sink with acquired := sink.acquired + 1 }

/-- Takes a batch and hands out the next buffer. -/
def report (batch : Buffer) : Action ScriptedSink Buffer := fun sink =>
  if sink.script.failAt = some sink.batches.size then
    .error (.collaborator "sink panic") sink
  else
    let after := { sink with batches := sink.batches.push batch.slots.toList }
    if sink.script.reuse then .ok batch after else handOut sink.script.dirty after

/-- Takes back the last buffer of a visit. -/
def release (buffer : Buffer) : Action ScriptedSink Unit := fun sink =>
  if sink.script.plain then .ok () sink
  else .ok () { sink with released := sink.released.push buffer.slots.size }

/-- The scripted sink as a sink. -/
def sink : RootSink ScriptedSink where
  acquire := acquire
  report := report
  release := release

/-- All slots that the sink took, in order. -/
def slots (sink : ScriptedSink) : List Address := sink.batches.toList.flatten

end ScriptedSink

/-- Slots in order of their addresses. -/
def sortedSlots (slots : List Address) : List Address :=
  slots.mergeSort fun left right => decide (left.toNat ≤ right.toNat)

/-- What is seen of a visit while it goes on. -/
structure VisitTrace where
  /-- Batches after each slot that was visited to the end. -/
  flushesAfter : Array Nat := #[]
  visited : Nat := 0
  /-- Batches flushed by visiting. -/
  flushes : Nat := 0

/-- Visits a row of slots and traces it. -/
def traceVisits : List Address → Action (Batch × VisitTrace × ScriptedSink) Unit
  | [] => fun (batch, trace, sink) =>
      .ok ()
        (batch,
          { trace with
            visited := batch.visited
            flushes := batch.flushes }, sink)
  | slot :: rest => do
      Batch.visit (ScriptedSink.sink.onPart Prod.snd fun sink state => (state.1, sink)) slot
      modify fun (batch, trace, sink) =>
        (batch, { trace with flushesAfter := trace.flushesAfter.push batch.flushes }, sink)
      traceVisits rest

/-- A visit of a row of slots with a scripted sink: how it ended, its trace and the sink. -/
def visitAll (script : SinkScript) (slots : List Address) :
    Ending (VisitTrace × ScriptedSink) Nat :=
  RootSink.collect (ScriptedSink.sink.onPart Prod.snd fun sink state => (state.1, sink))
    (traceVisits slots) ({}, { script := script })

end Safepoint.Simulation
