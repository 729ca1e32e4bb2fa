import Mathlib.Data.Finset.Insert
import Mathlib.Logic.Function.Basic
import Mathlib.Logic.Relation
import Safepoint.Collector.Mutators
import Safepoint.Proofs.Publication.Passing

/-!
# Interleaved mutators

Mutators run at the same time: between the barrier of a store and the store itself, all others may
take any steps.  This file gives the interleavings of mutators that publish, store and copy, each
store and copy in two halves, and what a barrier of one mutator does to the marks.  The central
statement is that a mutator makes only its own objects public, and none that holds a private one.
-/

namespace Safepoint

open Publication (Heap InRow Published Recorder Refers slotBytes)

/-- The memory after `count` references were moved, all of them read before one is written. -/
def Memory.move (memory : Memory) (first destination : Address) (count : Nat) : Memory where
  load slot :=
    let distance := slot.toNat - destination.toNat
    if destination.toNat ≤ slot.toNat ∧ distance % slotBytes = 0 ∧ distance / slotBytes < count then
      memory.load ⟨UInt64.ofNat (first.toNat + distance)⟩
    else
      memory.load slot

/-- Every slot is as before, or holds what its fellow in the first row held. -/
theorem Memory.load_move (memory : Memory) (first destination changed : Address) (count : Nat) :
    (memory.move first destination count).load changed = memory.load changed ∨
      ∃ number < count, changed.toNat = destination.toNat + number * slotBytes ∧
        ∀ slot : Address, slot.toNat = first.toNat + number * slotBytes →
          (memory.move first destination count).load changed = memory.load slot := by
  simp only [move]
  split
  · rename_i moved
    obtain ⟨destination_le, whole, number_lt⟩ := moved
    have distance_eq := Nat.div_mul_cancel (Nat.dvd_of_mod_eq_zero whole)
    refine Or.inr ⟨_, number_lt, by omega, fun slot slot_eq => ?_⟩
    rw [distance_eq] at slot_eq
    rw [← slot_eq, Address.toNat, UInt64.ofNat_toNat]
  · exact Or.inl rfl

namespace Escape

variable {Host : Type}

/-- The objects of a heap: each in a granule and with slots of its own, and owned by a mutator. -/
structure Population (members : Finset ObjectRef) (heap : Heap Published) : Prop where
  covered : ∀ object ∈ members, heap.bitmap.contains object.address = true
  homes_injOn : Set.InjOn heap.bitmap.home members
  slots_disjoint : ∀ left ∈ members, ∀ right ∈ members, left ≠ right →
    (heap.objects.slots left).Disjoint (heap.objects.slots right)
  owned : ∀ object ∈ members, heap.objects.owner object ≠ none
  /-- A slot is null or refers to one of the objects. -/
  closed : ∀ object ∈ members, ∀ next,
    Refers heap.memory (heap.objects.slots object) next → next = .null ∨ next ∈ members

/-- No slot of a public object refers to a private one. -/
def Sealed (members : Finset ObjectRef) (heap : Heap Published) : Prop :=
  ∀ object ∈ members, heap.bitmap.isPublic object.address = true → ∀ next,
    Refers heap.memory (heap.objects.slots object) next → ¬heap.bitmap.IsPrivate next

/-- The objects of a heap, of which no two share a granule. -/
structure Scattered (members : Finset ObjectRef) (heap : Heap Published) : Prop where
  homes_inj : ∀ left ∈ members, ∀ right ∈ members,
    heap.bitmap.contains left.address = true → heap.bitmap.contains right.address = true →
      heap.bitmap.home left = heap.bitmap.home right → left = right
  /-- A slot is null or refers to one of the objects. -/
  closed : ∀ object ∈ members, ∀ next,
    Refers heap.memory (heap.objects.slots object) next → next = .null ∨ next ∈ members

theorem Population.scattered {members : Finset ObjectRef} {heap : Heap Published}
    (population : Population members heap) : Scattered members heap where
  homes_inj _ left_mem _ right_mem _ _ same_home :=
    population.homes_injOn left_mem right_mem same_home
  closed := population.closed

namespace Scattered

variable {members : Finset ObjectRef} {heap : Heap Published} {root object : ObjectRef}

theorem mem_of_reaches (scattered : Scattered members heap)
    (root_mem : root = .null ∨ root ∈ members) (reaches : heap.Reaches root object) :
    object = .null ∨ object ∈ members := by
  induction reaches with
  | root => exact root_mem
  | @slot holder next _ holder_private referred ih =>
      exact scattered.closed holder (ih.resolve_left holder_private.1) next referred

/-- An object that a publication leaves public was public or is one of those it found. -/
theorem mem_found {found : List ObjectRef} {mutator : MutatorId} {bitmap : Publication.Bitmap}
    (scattered : Scattered members heap) (root_mem : root = .null ∨ root ∈ members)
    (publishes : Publication.Publishes heap.objects mutator heap.bitmap found bitmap)
    (reached : ∀ other ∈ found, heap.Reaches root other) (member : object ∈ members)
    (public_after : bitmap.isPublic object.address = true) :
    heap.bitmap.isPublic object.address = true ∨ object ∈ found := by
  rcases publishes.isPublic_iff.mp public_after with
    public_before | ⟨covered, other, other_found, same_home⟩
  · exact Or.inl public_before
  · have other_private := publishes.wasPrivate other other_found
    have other_mem :=
      (scattered.mem_of_reaches root_mem (reached other other_found)).resolve_left other_private.1
    have same : other = object :=
      scattered.homes_inj other other_mem object member
        (publishes.publishable other other_found).1 covered same_home
    exact Or.inr (same ▸ other_found)

end Scattered

/-- A mutator may use an object that is public or its own. -/
def Accessible (heap : Heap Published) (mutator : MutatorId) (object : ObjectRef) : Prop :=
  heap.bitmap.isPublic object.address = true ∨ heap.objects.owner object = some mutator

/-- What two mutators may use at once is public. -/
theorem public_of_accessible {heap : Heap Published} {mutator other : MutatorId}
    {object : ObjectRef} (accessible : Accessible heap mutator object)
    (other_accessible : Accessible heap other object) (other_ne : other ≠ mutator) :
    heap.bitmap.isPublic object.address = true := by
  rcases accessible with object_public | owner_eq
  · exact object_public
  · rcases other_accessible with object_public | other_owner
    · exact object_public
    · rw [owner_eq, Option.some.injEq] at other_owner
      exact absurd other_owner.symm other_ne

/-- All slots of a row are among the given ones. -/
def RowIn (first : Address) (count : Nat) (slots : List Address) : Prop :=
  ∀ number < count, ∃ slot ∈ slots, slot.toNat = first.toNat + number * slotBytes

/-- What a mutator does right after the barrier for it let the mutator pass. -/
inductive Half where
  /-- Stores `target` into a slot of `source`. -/
  | store (source : ObjectRef) (slot : Address) (target : ObjectRef)
  /-- Moves references from slots of `holder` to slots of `array`. -/
  | move (holder array : ObjectRef) (first destination : Address) (count : Word)

namespace Half

/-- What a mutator may set out to do. -/
def Allowed (members : Finset ObjectRef) (heap : Heap Published) (mutator : MutatorId) :
    Half → Prop
  | store source slot target =>
      source ∈ members ∧ slot ∈ heap.objects.slots source ∧
        (target = .null ∨ target ∈ members) ∧ Accessible heap mutator source
  | move holder array first destination count =>
      holder ∈ members ∧ array ∈ members ∧
        RowIn first count.toNat (heap.objects.slots holder) ∧
        RowIn destination count.toNat (heap.objects.slots array) ∧
        Accessible heap mutator holder ∧ Accessible heap mutator array

/-- The barrier that has to be passed first. -/
def barrier (collector : Collector Published Host) (mutator : Mutator) :
    Half → Action (Process Published Host) Unit
  | store source slot target => collector.recordWrite mutator source slot target
  | move _ array first destination count =>
      collector.recordCopy mutator first destination count array

/-- The memory afterwards. -/
def run (memory : Memory) : Half → Memory
  | store _ slot target => memory.store slot target
  | move _ _ first destination count => memory.move first destination count.toNat

end Half

/-- A process with what each mutator has to do next before anything else. -/
structure State (Host : Type) where
  process : Process Published Host
  pending : MutatorId → Option Half

/-- The state after a mutator has done what it had to. -/
def State.finish (state : State Host) (mutator : MutatorId) (half : Half) : State Host where
  process :=
    { state.process with
      heap := { state.process.heap with memory := half.run state.process.heap.memory } }
  pending := Function.update state.pending mutator none

/-- One step of one mutator, which meets no fault. -/
inductive Step (collector : Collector Published Host) (members : Finset ObjectRef) :
    State Host → State Host → Prop where
  /-- A mutator publishes an object. -/
  | publish {state : State Host} {mutator : Mutator} {object : ObjectRef}
      {after : Process Published Host} (idle : state.pending mutator.id = none)
      (object_mem : object = .null ∨ object ∈ members)
      (passes : collector.publishObject mutator object state.process = .ok () after) :
      Step collector members state { state with process := after }
  /-- A mutator passes the barrier of a store or a copy. -/
  | pass {state : State Host} {mutator : Mutator} {half : Half}
      {after : Process Published Host} (idle : state.pending mutator.id = none)
      (allowed : half.Allowed members state.process.heap mutator.id)
      (passes : half.barrier collector mutator state.process = .ok () after) :
      Step collector members state
        { process := after, pending := Function.update state.pending mutator.id (some half) }
  /-- A mutator stores or moves what its barrier let pass. -/
  | finish {state : State Host} {mutator : MutatorId} {half : Half}
      (pending : state.pending mutator = some half) :
      Step collector members state (state.finish mutator half)

/-- Any steps of any mutators in any order. -/
def Reachable (collector : Collector Published Host) (members : Finset ObjectRef) :
    State Host → State Host → Prop :=
  Relation.ReflTransGen (Step collector members)

section Advances

variable {members : Finset ObjectRef} {mutator other : MutatorId} {object root : ObjectRef}
variable {before middle after : Heap Published}

/--
A mutator has made objects public: only its own, and none of their slots refers to a private object.
-/
structure Advances (members : Finset ObjectRef) (mutator : MutatorId)
    (before after : Heap Published) : Prop where
  memory_eq : after.memory = before.memory
  objects_eq : after.objects = before.objects
  sameRange : before.bitmap.SameRange after.bitmap
  keeps : ∀ address, before.bitmap.isPublic address = true → after.bitmap.isPublic address = true
  opened : ∀ object ∈ members, after.bitmap.isPublic object.address = true →
    before.bitmap.isPublic object.address = true ∨
      before.objects.owner object = some mutator ∧ ∀ next,
        Refers before.memory (before.objects.slots object) next → ¬after.bitmap.IsPrivate next

namespace Advances

theorem refl (heap : Heap Published) : Advances members mutator heap heap :=
  ⟨rfl, rfl, .refl _, fun _ => id, fun _ _ => Or.inl⟩

theorem isPrivate_before (advances : Advances members mutator before after)
    (object_private : after.bitmap.IsPrivate object) : before.bitmap.IsPrivate object := by
  refine ⟨object_private.1, ?_⟩
  by_contra public_before
  rw [Bool.not_eq_false] at public_before
  simpa [object_private.2] using advances.keeps _ public_before

theorem trans (first : Advances members mutator before middle)
    (second : Advances members mutator middle after) : Advances members mutator before after where
  memory_eq := second.memory_eq.trans first.memory_eq
  objects_eq := second.objects_eq.trans first.objects_eq
  sameRange := first.sameRange.trans second.sameRange
  keeps address public_before := second.keeps address (first.keeps address public_before)
  opened object member public_after := by
    rcases second.opened object member public_after with public_middle | ⟨owner_eq, settled⟩
    · rcases first.opened object member public_middle with public_before | ⟨owner_eq, settled⟩
      · exact Or.inl public_before
      · refine Or.inr ⟨owner_eq, fun next referred next_private => ?_⟩
        exact settled next referred (second.isPrivate_before next_private)
    · rw [first.objects_eq] at owner_eq
      rw [first.memory_eq, first.objects_eq] at settled
      exact Or.inr ⟨owner_eq, settled⟩

theorem accessible (advances : Advances members mutator before after)
    (accessible_before : Accessible before other object) : Accessible after other object := by
  rcases accessible_before with object_public | owner_eq
  · exact Or.inl (advances.keeps _ object_public)
  · exact Or.inr (by rw [advances.objects_eq, owner_eq])

/-- What a mutator may use was public before if another mutator leaves it public. -/
theorem public_before (advances : Advances members mutator before after)
    (member : object ∈ members) (accessible_before : Accessible before other object)
    (other_ne : other ≠ mutator) (public_after : after.bitmap.isPublic object.address = true) :
    before.bitmap.isPublic object.address = true := by
  rcases advances.opened object member public_after with object_public | ⟨owner_eq, -⟩
  · exact object_public
  · exact public_of_accessible (Or.inr owner_eq) accessible_before other_ne

theorem population (advances : Advances members mutator before after)
    (population_before : Population members before) : Population members after where
  covered object member := by
    rw [advances.sameRange.contains_eq, population_before.covered object member]
  homes_injOn := by
    have home_eq : after.bitmap.home = before.bitmap.home :=
      funext advances.sameRange.home_eq
    rw [home_eq]
    exact population_before.homes_injOn
  slots_disjoint := advances.objects_eq ▸ population_before.slots_disjoint
  owned := advances.objects_eq ▸ population_before.owned
  closed := by
    rw [advances.memory_eq, advances.objects_eq]
    exact population_before.closed

theorem sealed (advances : Advances members mutator before after)
    (sealed_before : Sealed members before) : Sealed members after := by
  intro object member public_after next referred next_private
  rw [advances.memory_eq, advances.objects_eq] at referred
  rcases advances.opened object member public_after with public_before | ⟨-, settled⟩
  · exact sealed_before object member public_before next referred
      (advances.isPrivate_before next_private)
  · exact settled next referred next_private

theorem of_completes {found : List ObjectRef} (population : Population members before)
    (root_mem : root = .null ∨ root ∈ members)
    (completes : before.Completes mutator root found after) :
    Advances members mutator before after where
  memory_eq := completes.memory_eq
  objects_eq := completes.objects_eq
  sameRange := completes.publishes.sameRange
  keeps _ public_before := completes.publishes.isPublic_iff.mpr (Or.inl public_before)
  opened object member public_after := by
    rcases population.scattered.mem_found root_mem completes.publishes completes.reached member
      public_after with public_before | object_found
    · exact Or.inl public_before
    · have permitted := Publication.ObjectModel.mayPublish_iff.mp
        (completes.publishes.publishable object object_found).2
      exact Or.inr ⟨permitted.resolve_left (population.owned object member),
        completes.scanned object object_found⟩

theorem of_publishEach {roots : List ObjectRef} (population : Population members before)
    (roots_mem : ∀ root ∈ roots, root = .null ∨ root ∈ members)
    (ended : before.publishEach mutator roots = .ok () after) :
    Advances members mutator before after ∧ ∀ root ∈ roots, ¬after.bitmap.IsPrivate root := by
  induction roots generalizing before with
  | nil =>
      cases ended
      exact ⟨.refl _, by simp⟩
  | cons root roots ih =>
      obtain ⟨found, middle, completes, rest_ended⟩ := Heap.publishEach_cons_ok ended
      obtain ⟨root_mem, rest_mem⟩ := List.forall_mem_cons.mp roots_mem
      have first := of_completes population root_mem completes
      obtain ⟨rest, rest_settled⟩ := ih (first.population population) rest_mem rest_ended
      refine ⟨first.trans rest, List.forall_mem_cons.mpr ⟨?_, rest_settled⟩⟩
      exact fun still_private => completes.root_settled (rest.isPrivate_before still_private)

end Advances

end Advances

end Escape

end Safepoint
