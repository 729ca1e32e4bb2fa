import Safepoint.Proofs.Publication.Escape
import Safepoint.Proofs.Publication.Operations

/-!
# What a refused publication leaves

A publication marks an object before it scans the slots of it.  If it is refused on the way, the
objects it has marked stay public while what they refer to may be private, and no later barrier
looks behind them again.  Only a publication that is refused at its root leaves no such object:
`Operation.sealed_iff_of_refused` states that there is no other case, for every operation and
every heap.
-/

namespace Safepoint

open Publication (Heap Published Refers refusal)

namespace Escape

variable {members : Finset ObjectRef} {mutator : MutatorId} {root object : ObjectRef}
variable {found roots : List ObjectRef} {heap after : Heap Published} {fault : Fault}

theorem Scattered.of_opens (scattered : Scattered members heap)
    (opens : heap.Opens mutator root found after) : Scattered members after where
  homes_inj left left_mem right right_mem left_covered right_covered same_home := by
    have same_range := opens.publishes.sameRange
    rw [same_range.contains_eq] at left_covered right_covered
    rw [same_range.home_eq, same_range.home_eq] at same_home
    exact scattered.homes_inj left left_mem right right_mem left_covered right_covered same_home
  closed := by
    rw [opens.memory_eq, opens.objects_eq]
    exact scattered.closed

theorem Sealed.of_completes (is_sealed : Sealed members heap) (scattered : Scattered members heap)
    (root_mem : root = .null ∨ root ∈ members) (completes : heap.Completes mutator root found after) :
    Sealed members after := by
  intro object member public_after next referred next_private
  rw [completes.memory_eq, completes.objects_eq] at referred
  rcases scattered.mem_found root_mem completes.publishes completes.reached member public_after with
    public_before | object_found
  · exact is_sealed object member public_before next referred
      (completes.publishes.isPrivate_before next_private)
  · exact completes.scanned object object_found next referred next_private

theorem sealed_of_publishEach (scattered : Scattered members heap) (is_sealed : Sealed members heap)
    (roots_mem : ∀ root ∈ roots, root = .null ∨ root ∈ members)
    (passes : heap.publishEach mutator roots = .ok () after) :
    Scattered members after ∧ Sealed members after := by
  induction roots generalizing heap with
  | nil =>
      cases passes
      exact ⟨scattered, is_sealed⟩
  | cons root roots ih =>
      obtain ⟨found, middle, completes, rest_passes⟩ := Heap.publishEach_cons_ok passes
      obtain ⟨root_mem, rest_mem⟩ := List.forall_mem_cons.mp roots_mem
      exact ih (scattered.of_opens completes.opens)
        (is_sealed.of_completes scattered root_mem completes) rest_mem rest_passes

/-- Whatever a public root reaches is public if no public object refers to a private one. -/
theorem Sealed.not_isPrivate_of_reaches (sealed_after : Sealed members after)
    (scattered : Scattered members heap) (root_mem : root = .null ∨ root ∈ members)
    (memory_eq : after.memory = heap.memory) (objects_eq : after.objects = heap.objects)
    (root_settled : ¬after.bitmap.IsPrivate root) (reaches : heap.Reaches root object) :
    ¬after.bitmap.IsPrivate object := by
  induction reaches with
  | root => exact root_settled
  | @slot holder next holder_reached holder_private referred ih =>
      have holder_mem :=
        (scattered.mem_of_reaches root_mem holder_reached).resolve_left holder_private.1
      have holder_public : after.bitmap.isPublic holder.address = true := by
        simpa [Publication.Bitmap.IsPrivate, holder_private.1] using ih
      rw [← memory_eq, ← objects_eq] at referred
      exact sealed_after holder holder_mem holder_public next referred

/-- A refused publication leaves no private object behind a public one iff it refused its root. -/
theorem sealed_iff_of_refuses (scattered : Scattered members heap) (is_sealed : Sealed members heap)
    (root_mem : root = .null ∨ root ∈ members)
    (ended : heap.publishClosure mutator root = .error fault after)
    (refuses : heap.Refuses mutator root object found after) :
    Sealed members after ↔ object = root := by
  constructor
  · intro sealed_after
    refine refuses.root_mem.resolve_left fun root_found => ?_
    have root_settled := refuses.publishes.not_isPrivate_of_mem root_found
    exact sealed_after.not_isPrivate_of_reaches scattered root_mem refuses.memory_eq
      refuses.objects_eq root_settled refuses.object_reached refuses.object_private
  · rintro rfl
    have object_private := refuses.publishes.isPrivate_before refuses.object_private
    rw [Publication.Heap.publishClosure_of_refused object_private refuses.not_publishable] at ended
    cases ended
    exact is_sealed

end Escape

namespace Operation

open Escape (Scattered Sealed)

/--
An operation is refused in the course of one publication, and leaves no private object behind a
public one iff that was refused at its root.
-/
theorem sealed_iff_of_refused {Host : Type} {collector : Collector Published Host}
    {mutator : Mutator} {operation : Operation} {process after : Process Published Host}
    {fault : Fault} {members : Finset ObjectRef} (publishing : collector.recorder = .publishing)
    (scattered : Scattered members process.heap)
    (roots_mem : ∀ root ∈ operation.roots process.heap.memory, root = .null ∨ root ∈ members)
    (is_sealed : Sealed members process.heap)
    (ended : operation.perform collector mutator process = .error fault after)
    (refused : fault.isRefusal = true) :
    ∃ passed root rest middle object,
      operation.roots process.heap.memory = passed ++ root :: rest ∧
      process.heap.publishEach mutator.id passed = .ok () middle ∧
      middle.publishClosure mutator.id root = .error fault after.heap ∧
      fault = refusal middle.bitmap middle.objects mutator.id object ∧
      after.heap.bitmap.IsPrivate object ∧
      (Sealed members after.heap ↔ object = root) := by
  have ends := heapEnd_perform publishing mutator operation process
  rw [ended] at ends
  generalize roots_eq : operation.roots process.heap.memory = roots at ends roots_mem
  generalize ending_eq : Action.mapState Process.heap (.error fault after) = ending at ends
  cases ends with
  | unconcerned => cases ending_eq
  | overflowed cause =>
      obtain ⟨rfl, -⟩ := EStateM.Result.error.inj ending_eq
      rcases cause with rfl | rfl <;> cases refused
  | published =>
      obtain ⟨passed, root, rest, middle, rfl, passes, stopped⟩ :=
        Heap.exists_of_publishEach_error ending_eq.symm
      have passed_mem : ∀ other ∈ passed, other = .null ∨ other ∈ members :=
        fun other member => roots_mem other (List.mem_append_left _ member)
      obtain ⟨scattered_middle, sealed_middle⟩ :=
        Escape.sealed_of_publishEach scattered is_sealed passed_mem passes
      obtain ⟨object, found, fault_eq, refuses⟩ :=
        Heap.refuses_of_publishClosure stopped refused
      have root_mem := roots_mem root (by simp)
      exact ⟨passed, root, rest, middle, object, rfl, passes, stopped, fault_eq,
        refuses.object_private,
        Escape.sealed_iff_of_refuses scattered_middle sealed_middle root_mem stopped refuses⟩

private def holder : ObjectRef := ⟨0x1000⟩

private def outsideObject : ObjectRef := ⟨0x10⟩

/-- The only slot of the holder refers to an object outside the covered range. -/
def holderFilled : Process Published Unit :=
  { Process.vacant {} () with
    heap.memory.load := fun slot => if slot = ⟨0x2000⟩ then outsideObject else .null
    heap.objects.slots := fun object => if object = holder then [⟨0x2000⟩] else [] }

/-- The holder is refused for what it refers to, but stays public. -/
theorem sealed_iff_of_refused_outside :
    ∃ after : Process Published Unit,
      (publish holder).perform .publishing ⟨⟨1⟩, ⟨11⟩⟩ holderFilled =
        .error (.publishOutside ⟨1⟩ outsideObject) after ∧
      ¬Sealed {holder, outsideObject} after.heap := by
  have stopped : Action.stop?
      ((publish holder).perform .publishing ⟨⟨1⟩, ⟨11⟩⟩ holderFilled) =
        some (.publishOutside ⟨1⟩ outsideObject) := by
    decide +kernel
  have ended := Action.eq_error_of_stop? stopped
  have homes_inj : ∀ left ∈ [holder, outsideObject], ∀ right ∈ [holder, outsideObject],
      holderFilled.heap.bitmap.contains left.address = true →
        holderFilled.heap.bitmap.contains right.address = true → left = right := by
    decide
  have closed : ∀ object ∈ [holder, outsideObject], ∀ slot ∈ holderFilled.heap.objects.slots object,
      holderFilled.heap.memory.load slot = outsideObject := by
    decide
  have scattered : Scattered {holder, outsideObject} holderFilled.heap :=
    { homes_inj := fun left left_mem right right_mem left_covered right_covered _ =>
        homes_inj left (by simpa using left_mem) right (by simpa using right_mem) left_covered
          right_covered
      closed := by
        rintro object member next ⟨slot, slot_mem, rfl⟩
        rw [closed object (by simpa using member) slot slot_mem]
        simp }
  have all_private : ∀ object ∈ [holder, outsideObject],
      holderFilled.heap.bitmap.isPublic object.address = false := by
    decide
  have is_sealed : Sealed {holder, outsideObject} holderFilled.heap := by
    intro object member object_public
    simp [all_private object (by simpa using member)] at object_public
  have roots_mem : ∀ root ∈ (publish holder).roots holderFilled.heap.memory,
      root = .null ∨ root ∈ ({holder, outsideObject} : Finset ObjectRef) := by
    simp [roots]
  obtain ⟨passed, root, rest, middle, object, roots_eq, -, -, fault_eq, -, sealed_iff⟩ :=
    sealed_iff_of_refused rfl scattered roots_mem is_sealed ended rfl
  have root_eq : root = holder := by
    have member : root ∈ [holder] := by
      change root ∈ (publish holder).roots holderFilled.heap.memory
      rw [roots_eq]
      simp
    exact List.mem_singleton.mp member
  have object_eq : object = outsideObject := by
    unfold refusal at fault_eq
    split at fault_eq
    · cases fault_eq
    · exact (Fault.publishOutside.inj fault_eq).2.symm
  refine ⟨_, ended, ?_⟩
  rw [sealed_iff, object_eq, root_eq]
  decide

end Operation

end Safepoint
