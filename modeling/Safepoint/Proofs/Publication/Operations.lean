import Safepoint.Collector.Mutators
import Safepoint.Proofs.Publication.Passing

/-!
# What an operation publishes

A mutator has five ways to make objects public: it writes a reference, copies a row of them, loads
one, shares an object, or asks the recorder itself.  Whatever its checks say, and whether or not it
comes to its end, an operation does nothing to the heap but publish some roots one after another,
up to the first publication that meets a fault.  `Operation.heapEnd_perform` is that account, and
`Opens` and `Refuses` say what a single publication leaves.
-/

namespace Safepoint

/-- What is read off a part of a state is what the action leaves of that part. -/
theorem Action.mapState_onPart {State Part Value : Type} {get : State → Part}
    {put : Part → State → State} (get_put : ∀ part state, get (put part state) = part)
    (action : Action Part Value) (state : State) :
    mapState get (onPart get put action state) = action (get state) := by
  unfold onPart mapState
  cases action (get state) <;> simp [get_put]

/-- Whether the fault refuses to publish an object. -/
def Fault.isRefusal : Fault → Bool
  | publishOutside _ _ => true
  | publishForeign _ _ => true
  | _ => false

namespace Publication

namespace Heap

/-- What a publication has done by its end or by a fault: `found` became public. -/
structure Opens (heap : Heap Published) (mutator : MutatorId) (root : ObjectRef)
    (found : List ObjectRef) (after : Heap Published) : Prop where
  publishes : Publishes heap.objects mutator heap.bitmap found after.bitmap
  reached : ∀ object ∈ found, heap.Reaches root object
  memory_eq : after.memory = heap.memory
  objects_eq : after.objects = heap.objects

theorem Completes.opens {heap after : Heap Published} {mutator : MutatorId} {root : ObjectRef}
    {found : List ObjectRef} (completes : heap.Completes mutator root found after) :
    heap.Opens mutator root found after :=
  ⟨completes.publishes, completes.reached, completes.memory_eq, completes.objects_eq⟩

/-- What a publication has done that was refused: it came as far as `object`. -/
structure Refuses (heap : Heap Published) (mutator : MutatorId) (root object : ObjectRef)
    (found : List ObjectRef) (after : Heap Published) : Prop
    extends Opens heap mutator root found after where
  object_reached : heap.Reaches root object
  object_private : after.bitmap.IsPrivate object
  not_publishable : ¬heap.bitmap.Publishable heap.objects mutator object
  /-- Unless the root itself was refused, it became public. -/
  root_mem : root ∈ found ∨ object = root

variable {heap after : Heap Published} {mutator : MutatorId} {root : ObjectRef}

/-- However a publication ends, it made some of what the root reaches public, and did no more. -/
theorem opens_of_publishClosure (heap : Heap Published) (mutator : MutatorId) (root : ObjectRef) :
    ∃ found, heap.Opens mutator root found (Action.left (heap.publishClosure mutator root)) := by
  by_cases root_private : heap.bitmap.IsPrivate root
  · have ends := publishReach_end mutator root_private
    unfold publishClosure
    generalize publishReach heap.memory heap.objects mutator root heap.bitmap = ending at ends
    cases ends with
    | @finished found bitmap tally walk counts =>
        exact ⟨found, walk.publishes, walk.reached, rfl, rfl⟩
    | @refused found bitmap object publishes reached =>
        exact ⟨found, publishes, reached, rfl, rfl⟩
    | @overflowed found bitmap publishes reached =>
        exact ⟨found, publishes, reached, rfl, rfl⟩
  · rw [publishClosure_of_not_private root_private]
    exact ⟨[], .nil _, by simp, rfl, rfl⟩

/-- The fault of a publication that is refused names what was refused. -/
theorem refuses_of_publishClosure {fault : Fault}
    (ended : heap.publishClosure mutator root = .error fault after)
    (refused : fault.isRefusal = true) :
    ∃ object found, fault = refusal heap.bitmap heap.objects mutator object ∧
      heap.Refuses mutator root object found after := by
  by_cases root_private : heap.bitmap.IsPrivate root
  · have ends := publishReach_end mutator root_private
    generalize reach_eq :
      publishReach heap.memory heap.objects mutator root heap.bitmap = ending at ends
    simp only [publishClosure, reach_eq] at ended
    cases ends with
    | finished => cases ended
    | @refused found bitmap object publishes reached object_reached object_private
        not_publishable root_mem =>
        cases ended
        refine ⟨object, found, ?_, ⟨publishes, reached, rfl, rfl⟩, object_reached, object_private,
          ?_, root_mem⟩
        · rw [refusal, refusal, publishes.sameRange.contains_eq]
        · rwa [publishes.sameRange.publishable_iff] at not_publishable
    | overflowed =>
        cases ended
        cases refused
  · rw [publishClosure_of_not_private root_private] at ended
    cases ended

/-- A root that may not be published is refused at once. -/
theorem publishClosure_of_refused (root_private : heap.bitmap.IsPrivate root)
    (not_publishable : ¬heap.bitmap.Publishable heap.objects mutator root) :
    heap.publishClosure mutator root =
      .error (refusal heap.bitmap heap.objects mutator root) heap := by
  simp only [publishClosure, publishReach, publishOne_of_refused root_private not_publishable]

theorem exists_of_publishEach_error {roots : List ObjectRef} {fault : Fault}
    (ended : publishEach mutator roots heap = .error fault after) :
    ∃ passed root rest middle, roots = passed ++ root :: rest ∧
      publishEach mutator passed heap = .ok () middle ∧
      middle.publishClosure mutator root = .error fault after := by
  induction roots generalizing heap with
  | nil => cases ended
  | cons first roots ih =>
      rw [publishEach] at ended
      cases published : heap.publishClosure mutator first with
      | ok count next =>
          simp only [published] at ended
          obtain ⟨passed, root, rest, middle, rfl, passes, stopped⟩ := ih ended
          refine ⟨first :: passed, root, rest, middle, rfl, ?_, stopped⟩
          simp only [publishEach, published, passes]
      | error found next =>
          simp only [published] at ended
          cases ended
          exact ⟨[], first, roots, heap, rfl, rfl, published⟩

end Heap

namespace Barrier

variable {Record : Type} (barrier : Barrier Record) (state : Guarded Record)
variable (source target array : ObjectRef) (slot first destination : Address) (count : Word)

theorem heap_tell (hook : Action (Heap Record) Unit) :
    Action.mapState Guarded.heap (Guarded.tell hook state) = hook state.heap :=
  Action.mapState_onPart (fun _ _ => rfl) hook state

theorem heap_writeOutOfLine :
    Action.mapState Guarded.heap (barrier.writeOutOfLine source slot target state) =
      if (target = .null ∨ (!state.marked source) = true) ∨ state.marked target = true then
        .ok () state.heap
      else barrier.recorder.write barrier.mutator source slot target state.heap := by
  rw [writeOutOfLine_eq]
  by_cases unconcerned : target = .null ∨ (!state.marked source) = true
  · rw [if_pos unconcerned, if_pos (Or.inl unconcerned)]
    rfl
  · rw [if_neg unconcerned, writeToPublic_eq]
    by_cases target_public : state.marked target = true
    · rw [if_pos target_public, if_pos (Or.inr target_public)]
      rfl
    · rw [if_neg target_public, if_neg (not_or.mpr ⟨unconcerned, target_public⟩)]
      exact heap_tell _ _

theorem heap_write :
    Action.mapState Guarded.heap (barrier.write source slot target state) =
      if (target = .null ∨ (!state.marked source) = true) ∨ state.marked target = true then
        .ok () state.heap
      else barrier.recorder.write barrier.mutator source slot target state.heap := by
  rw [write_eq]
  exact barrier.heap_writeOutOfLine _ source target slot

theorem heap_read :
    Action.mapState Guarded.heap (barrier.read target state) =
      if target = .null ∨ (!state.marked target) = true then .ok () state.heap
      else barrier.recorder.read barrier.mutator target state.heap := by
  rw [read_eq, readOutOfLine_eq]
  by_cases unconcerned : target = .null ∨ (!state.marked target) = true
  · rw [if_pos unconcerned, if_pos unconcerned]
    rfl
  · rw [if_neg unconcerned, if_neg unconcerned, readPublic_eq]
    exact heap_tell _ _

theorem heap_publish :
    Action.mapState Guarded.heap (barrier.publish target state) =
      if target = .null ∨ state.marked target = true then .ok () state.heap
      else barrier.recorder.publish barrier.mutator target state.heap := by
  rw [publish_eq]
  by_cases settled : target = .null ∨ state.marked target = true
  · rw [if_pos settled, if_pos settled]
    rfl
  · rw [if_neg settled, if_neg settled]
    exact heap_tell _ _

theorem allPublic_error {heap : Heap Record} {first : Address} {slots step : Nat} {fault : Fault}
    (stopped : allPublic heap first slots step = .error fault) : fault = .addOverflow := by
  induction slots generalizing step with
  | zero => cases stopped
  | succ slots ih =>
      rw [allPublic] at stopped
      split at stopped
      · cases stopped
        rfl
      · split at stopped
        · exact ih stopped
        · cases stopped

/-- How a copy leaves the heap: as it was, or as its recorder leaves it after both rows. -/
inductive CopyEnd (barrier : Barrier Record) (heap : Heap Record) (first destination : Address)
    (count : Word) : Ending (Heap Record) Unit → Prop where
  | unconcerned : CopyEnd barrier heap first destination count (.ok () heap)
  | overflowed {fault : Fault} (cause : fault = .addOverflow ∨ fault = .multiplyOverflow) :
      CopyEnd barrier heap first destination count (.error fault heap)
  | told {firstPast destinationPast : Address}
      (firstPast_eq : firstPast.toNat = first.toNat + count.toNat * slotBytes) :
      CopyEnd barrier heap first destination count
        (barrier.recorder.copy barrier.mutator ⟨first, firstPast⟩ ⟨destination, destinationPast⟩
          heap)

theorem copyEnd_copyToPublic :
    CopyEnd barrier state.heap first destination count
      (Action.mapState Guarded.heap (barrier.copyToPublic first destination count state)) := by
  rw [copyToPublic_eq]
  cases bytes_eq : Word.mul? count (UInt64.ofNat slotBytes) with
  | none => exact .overflowed (Or.inr rfl)
  | some bytes =>
      cases looked : allPublic state.heap first count.toNat 0 with
      | error fault => exact .overflowed (Or.inl (allPublic_error looked))
      | ok settled =>
          cases settled with
          | true => exact .unconcerned
          | false =>
              dsimp only
              cases firstPast_eq : first.offset? bytes with
              | none => exact .overflowed (Or.inl rfl)
              | some firstPast =>
                  cases destination.offset? bytes with
                  | none => exact .overflowed (Or.inl rfl)
                  | some destinationPast =>
                      rw [Word.mul?_eq_some_iff] at bytes_eq
                      rw [Address.offset?_eq_some_iff, ← bytes_eq] at firstPast_eq
                      rw [heap_tell]
                      exact .told firstPast_eq.symm

theorem copyEnd_copy :
    CopyEnd barrier state.heap first destination count
      (Action.mapState Guarded.heap (barrier.copy first destination count array state)) := by
  rw [copy_eq]
  split
  · exact .unconcerned
  · rw [copyOutOfLine_eq]
    split
    · exact .unconcerned
    · have ends := barrier.copyEnd_copyToPublic
        { state with counts := { state.counts with arrayCopies := state.counts.arrayCopies + 1 } }
        first destination count
      exact ends

end Barrier

end Publication

open Publication (Heap Published Recorder)

theorem Process.heap_onGuarded {Record Host Value : Type} (mutator : MutatorId)
    (action : Action (Publication.Guarded Record) Value) (process : Process Record Host) :
    Action.mapState Process.heap (onGuarded mutator action process) =
      Action.mapState Publication.Guarded.heap
        (action ⟨process.heap, process.counts mutator⟩) := by
  unfold onGuarded Action.onPart Action.mapState
  cases action ⟨process.heap, process.counts mutator⟩ <;> rfl

/-- What a mutator does that may make objects public. -/
inductive Operation where
  /-- Passes the barrier of a write. -/
  | write (source : ObjectRef) (slot : Address) (target : ObjectRef)
  /-- Passes the barrier of a copy. -/
  | copy (first destination : Address) (count : Word) (array : ObjectRef)
  /-- Passes the barrier of a load. -/
  | read (target : ObjectRef)
  /-- Shares an object through its collector. -/
  | publish (object : ObjectRef)
  /-- Shares an object through the recorder, past all checks. -/
  | publishClosure (root : ObjectRef)

namespace Operation

variable {Host : Type}

def perform (collector : Collector Published Host) (mutator : Mutator) :
    Operation → Action (Process Published Host) Unit
  | write source slot target => collector.recordWrite mutator source slot target
  | copy first destination count array =>
      collector.recordCopy mutator first destination count array
  | read target => collector.recordRead mutator target
  | publish object => collector.publishObject mutator object
  | publishClosure root => Process.onHeap (Heap.publishEach mutator.id [root])

/-- The references that the operation names. -/
def references : Operation → List ObjectRef
  | write source _ target => [source, target]
  | copy _ _ _ array => [array]
  | read target => [target]
  | publish object => [object]
  | publishClosure root => [root]

/-- What the operation publishes, in order, if its checks call for it. -/
def roots (memory : Memory) : Operation → List ObjectRef
  | write _ _ target => [target]
  | copy first _ count _ => memory.row first count.toNat
  | read _ => []
  | publish object => [object]
  | publishClosure root => [root]

/-- Whatever is published was named or stands in a slot. -/
theorem mem_of_mem_roots {operation : Operation} {memory : Memory} {root : ObjectRef}
    (member : root ∈ operation.roots memory) :
    root ∈ operation.references ∨ ∃ slot, memory.load slot = root := by
  cases operation with
  | write source slot target => exact Or.inl (List.mem_cons_of_mem source member)
  | copy first destination count array =>
      obtain ⟨number, -, load_eq⟩ := List.mem_map.mp member
      exact Or.inr ⟨_, load_eq⟩
  | read target => cases member
  | publish object => exact Or.inl member
  | publishClosure root => exact Or.inl member

/--
How an operation leaves the heap: as it was, with or without an overflow, or with its roots
published up to the first publication that met a fault.
-/
inductive HeapEnd (heap : Heap Published) (mutator : MutatorId) (roots : List ObjectRef) :
    Ending (Heap Published) Unit → Prop where
  | unconcerned : HeapEnd heap mutator roots (.ok () heap)
  | overflowed {fault : Fault} (cause : fault = .addOverflow ∨ fault = .multiplyOverflow) :
      HeapEnd heap mutator roots (.error fault heap)
  | published : HeapEnd heap mutator roots (heap.publishEach mutator roots)

theorem heapEnd_ite {heap : Heap Published} {mutator : MutatorId} {root : ObjectRef}
    (unconcerned : Prop) [Decidable unconcerned] :
    HeapEnd heap mutator [root]
      (if unconcerned then .ok () heap
      else Recorder.publishing.publish mutator root heap) := by
  split
  · exact .unconcerned
  · rw [Recorder.publishing_publish]
    exact .published

theorem heapEnd_perform {collector : Collector Published Host}
    (publishing : collector.recorder = .publishing) (mutator : Mutator) (operation : Operation)
    (process : Process Published Host) :
    HeapEnd process.heap mutator.id (operation.roots process.heap.memory)
      (Action.mapState Process.heap (operation.perform collector mutator process)) := by
  cases operation with
  | write source slot target =>
      simp only [perform, Collector.recordWrite, Process.heap_onGuarded,
        Publication.Barrier.heap_write, Collector.barrier, publishing]
      exact heapEnd_ite _
  | copy first destination count array =>
      have ends := (collector.barrier mutator).copyEnd_copy
        ⟨process.heap, process.counts mutator.id⟩ array first destination count
      simp only [perform, Collector.recordCopy, Process.heap_onGuarded]
      generalize Action.mapState Publication.Guarded.heap
        ((collector.barrier mutator).copy first destination count array _) = ending at ends ⊢
      cases ends with
      | unconcerned => exact .unconcerned
      | overflowed cause => exact .overflowed cause
      | @told firstPast destinationPast firstPast_eq =>
          rw [Collector.barrier, publishing, Recorder.publishing_copy firstPast_eq]
          exact .published
  | read target =>
      simp only [perform, Collector.recordRead, Process.heap_onGuarded,
        Publication.Barrier.heap_read, Collector.barrier, publishing]
      split <;> exact .unconcerned
  | publish object =>
      simp only [perform, Collector.publishObject, Process.heap_onGuarded,
        Publication.Barrier.heap_publish, Collector.barrier, publishing]
      exact heapEnd_ite _
  | publishClosure root =>
      simp only [perform, Process.onHeap]
      rw [Action.mapState_onPart fun _ _ => rfl]
      exact .published

end Operation

end Safepoint
