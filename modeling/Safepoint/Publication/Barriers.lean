import Safepoint.Publication.Publisher

/-!
# Barriers

Whenever a mutator stores, copies or loads references, or shares an object on purpose, it passes a
barrier.  The barrier tells a recorder when a private object is about to be reachable from a
public one: a null reference, a private source and a target that is public already need no
telling.  This file gives the barriers of one mutator with what they count, the hooks of a
recorder, and the recorder that answers every hook by publishing.

The checks can stand at the call site or behind a call; `BarrierMode` says where, and both places
make the same checks.
-/

namespace Safepoint.Publication

/-- Bytes in a reference slot. -/
def slotBytes : Nat := 8

/-- Where the checks of a barrier stand. -/
inductive BarrierMode where
  /-- At the call site; only the rare path is a call. -/
  | inlineChecks
  /-- Behind a call that every barrier makes. -/
  | outOfLine
  deriving DecidableEq, Repr

/-- The mode as it is shown in messages. -/
def BarrierMode.text : BarrierMode → String
  | inlineChecks => "FastPath"
  | outOfLine => "AlwaysSlow"

/-- What the barriers of one mutator have counted since the last reset; the counters wrap. -/
structure BarrierCounts where
  writes : Word := 0
  /-- Calls of the write hook and the copy hook. -/
  slowPathCalls : Word := 0
  /-- Copies of at least one reference. -/
  arrayCopies : Word := 0
  /-- Loads of public objects. -/
  publicReads : Word := 0
  deriving DecidableEq, Repr

/-- The hooks that barriers call; each may change the heap and what the recorder keeps. -/
structure Recorder (Record : Type) where
  /-- A private object is about to be stored into a slot of a public one. -/
  write : MutatorId → (source : ObjectRef) → (slot : Address) → (target : ObjectRef) →
    Action (Heap Record) Unit
  /-- References, one of them private at least, are about to be copied into a public array. -/
  copy : MutatorId → (source destination : AddressRange) → Action (Heap Record) Unit
  /-- A public object was loaded. -/
  read : MutatorId → (target : ObjectRef) → Action (Heap Record) Unit := fun _ _ => pure ()
  /-- A private object is to become public wherever it is stored. -/
  publish : MutatorId → (object : ObjectRef) → Action (Heap Record) Unit

/-- The state a barrier works on: the heap and the counters of its mutator. -/
structure Guarded (Record : Type) where
  heap : Heap Record
  counts : BarrierCounts

/-- The barriers of one mutator. -/
structure Barrier (Record : Type) where
  mutator : MutatorId
  mode : BarrierMode
  recorder : Recorder Record

/-- Whether an object is public; null never is. -/
def Heap.isPublic {Record : Type} (heap : Heap Record) (object : ObjectRef) : Bool :=
  decide (object ≠ .null) && heap.bitmap.isPublic object.address

/-- Runs an action on a heap with part of what the recorder keeps. -/
def Heap.onRecord {Record Part Value : Type} (get : Record → Part)
    (put : Part → Record → Record) (action : Action (Heap Part) Value) :
    Action (Heap Record) Value :=
  Action.onPart
    (fun heap =>
      { bitmap := heap.bitmap
        memory := heap.memory
        objects := heap.objects
        record := get heap.record })
    (fun inner heap =>
      { bitmap := inner.bitmap
        memory := inner.memory
        objects := inner.objects
        record := put inner.record heap.record }) action

namespace Guarded

variable {Record : Type}

/-- Changes the counters. -/
def count (change : BarrierCounts → BarrierCounts) : Action (Guarded Record) Unit := fun state =>
  .ok () { state with counts := change state.counts }

/-- Runs a hook on the heap. -/
def tell (hook : Action (Heap Record) Unit) : Action (Guarded Record) Unit :=
  Action.onPart Guarded.heap (fun heap state => { state with heap := heap }) hook

/-- Whether the mark of an object is set; the mark of null is asked for like any other. -/
def marked (state : Guarded Record) (object : ObjectRef) : Bool :=
  state.heap.bitmap.isPublic object.address

end Guarded

namespace Barrier

variable {Record : Type}

/-- The source of a write is public: tell the recorder unless the target is, too. -/
def writeToPublic (barrier : Barrier Record) (source : ObjectRef) (slot : Address)
    (target : ObjectRef) : Action (Guarded Record) Unit := do
  unless (← get).marked target do
    Guarded.count fun counts => { counts with slowPathCalls := counts.slowPathCalls + 1 }
    Guarded.tell (barrier.recorder.write barrier.mutator source slot target)

/-- The checks of a write behind a call. -/
def writeOutOfLine (barrier : Barrier Record) (source : ObjectRef) (slot : Address)
    (target : ObjectRef) : Action (Guarded Record) Unit := do
  if target = .null ∨ !(← get).marked source then
    return
  barrier.writeToPublic source slot target

/-- The barrier of the write `source.slot := target`, which follows it. -/
def write (barrier : Barrier Record) (source : ObjectRef) (slot : Address) (target : ObjectRef) :
    Action (Guarded Record) Unit := do
  Guarded.count fun counts => { counts with writes := counts.writes + 1 }
  match barrier.mode with
  | .inlineChecks =>
      if target = .null ∨ !(← get).marked source then
        return
      barrier.writeToPublic source slot target
  | .outOfLine => barrier.writeOutOfLine source slot target

/--
Whether the slots from `source` on hold no private reference: `slots` of them starting with number
`step`, looked at in order up to the first that does.
-/
def allPublic (heap : Heap Record) (source : Address) : (slots step : Nat) → Except Fault Bool
  | 0, _ => .ok true
  | slots + 1, step =>
      match source.offset? (UInt64.ofNat (step * slotBytes)) with
      | none => .error .addOverflow
      | some slot =>
          if heap.memory.load slot = .null ∨ heap.isPublic (heap.memory.load slot) then
            allPublic heap source slots (step + 1)
          else
            .ok false

/-- The array that is copied into is public: tell the recorder unless the references are, too. -/
def copyToPublic (barrier : Barrier Record) (source destination : Address) (count : Word) :
    Action (Guarded Record) Unit := do
  let bytes ← Action.orFault (Word.mul? count (UInt64.ofNat slotBytes)) .multiplyOverflow
  match allPublic (← get).heap source count.toNat 0 with
  | .error fault => throw fault
  | .ok true => return
  | .ok false =>
      Guarded.count fun counts => { counts with slowPathCalls := counts.slowPathCalls + 1 }
      let sourcePast ← Action.orFault (source.offset? bytes) .addOverflow
      let destinationPast ← Action.orFault (destination.offset? bytes) .addOverflow
      Guarded.tell (barrier.recorder.copy barrier.mutator ⟨source, sourcePast⟩
        ⟨destination, destinationPast⟩)

/-- The check of a copy behind a call. -/
def copyOutOfLine (barrier : Barrier Record) (source destination : Address) (count : Word)
    (array : ObjectRef) : Action (Guarded Record) Unit := do
  if !(← get).marked array then
    return
  barrier.copyToPublic source destination count

/--
The barrier of a copy of `count` references from `source` to `destination`, a part of `array`.  The
recorder is told once at most, of the whole copy.
-/
def copy (barrier : Barrier Record) (source destination : Address) (count : Word)
    (array : ObjectRef) : Action (Guarded Record) Unit := do
  if count = 0 then
    return
  Guarded.count fun counts => { counts with arrayCopies := counts.arrayCopies + 1 }
  match barrier.mode with
  | .inlineChecks =>
      if !(← get).marked array then
        return
      barrier.copyToPublic source destination count
  | .outOfLine => barrier.copyOutOfLine source destination count array

/-- A public object was loaded: count it and tell the recorder. -/
def readPublic (barrier : Barrier Record) (target : ObjectRef) : Action (Guarded Record) Unit := do
  Guarded.count fun counts => { counts with publicReads := counts.publicReads + 1 }
  Guarded.tell (barrier.recorder.read barrier.mutator target)

/-- The checks of a load behind a call. -/
def readOutOfLine (barrier : Barrier Record) (target : ObjectRef) :
    Action (Guarded Record) Unit := do
  if target = .null ∨ !(← get).marked target then
    return
  barrier.readPublic target

/-- The barrier of a load of `target`. -/
def read (barrier : Barrier Record) (target : ObjectRef) : Action (Guarded Record) Unit := do
  match barrier.mode with
  | .inlineChecks =>
      if target = .null ∨ !(← get).marked target then
        return
      barrier.readPublic target
  | .outOfLine => barrier.readOutOfLine target

/-- Makes an object public on purpose. -/
def publish (barrier : Barrier Record) (object : ObjectRef) : Action (Guarded Record) Unit := do
  if object = .null ∨ (← get).marked object then
    return
  Guarded.tell (barrier.recorder.publish barrier.mutator object)

end Barrier

namespace Recorder

/-- The recorder that keeps its part of a larger record. -/
def onPart {Record Part : Type} (get : Record → Part) (put : Part → Record → Record)
    (recorder : Recorder Part) : Recorder Record where
  write mutator source slot target :=
    Heap.onRecord get put (recorder.write mutator source slot target)
  copy mutator source destination :=
    Heap.onRecord get put (recorder.copy mutator source destination)
  read mutator target := Heap.onRecord get put (recorder.read mutator target)
  publish mutator object := Heap.onRecord get put (recorder.publish mutator object)

/-- Publishes, in order, whatever `slots` slots from `slot` on refer to. -/
def publishCopied (mutator : MutatorId) : (slots : Nat) → (slot : Address) →
    Action (Heap Published) Unit
  | 0, _ => pure ()
  | slots + 1, slot => do
      let _ ← Heap.publishClosure mutator ((← get).memory.load slot)
      let next ← Action.orFault (slot.offset? (UInt64.ofNat slotBytes)) .addOverflow
      publishCopied mutator slots next

/-- The recorder that publishes: whatever would be reachable from a public object becomes public. -/
def publishing : Recorder Published where
  write mutator _ _ target := do
    let _ ← Heap.publishClosure mutator target
  copy mutator source _ :=
    publishCopied mutator
      ((source.past.toNat - source.first.toNat + (slotBytes - 1)) / slotBytes) source.first
  publish mutator object := do
    let _ ← Heap.publishClosure mutator object

end Recorder

end Safepoint.Publication
