import Safepoint.Proofs.Publication.Escape
import Safepoint.Proofs.Publication.Operations

/-!
# Only the owner publishes

A mutator may come across the private objects of others at any depth of what it publishes.  It is
refused there, in the middle of its operation, and what it has marked until then stays marked.
`Operation.isPrivate_perform` states that the mark of a foreign object is never among them.  Marks
belong to granules, so this is about objects that share their granule with no other reference.
-/

namespace Safepoint

open Publication (Heap Published Refers)

namespace Publication.Heap

variable {heap after : Heap Published} {mutator : MutatorId} {references roots : List ObjectRef}
variable {root object : ObjectRef}

/-- The reference is among the given ones, or a slot holds it. -/
def Mentions (heap : Heap Published) (references : List ObjectRef) (reference : ObjectRef) :
    Prop :=
  reference ∈ references ∨ ∃ slot, heap.memory.load slot = reference

/-- No other reference, given or in a slot, falls into the granule of the object. -/
def Alone (heap : Heap Published) (references : List ObjectRef) (object : ObjectRef) : Prop :=
  ∀ other, heap.Mentions references other → other ≠ .null →
    heap.bitmap.contains other.address = true →
      heap.bitmap.home other = heap.bitmap.home object → other = object

/-- A private object that a mutator which uses these references may not make public. -/
structure Sheltered (heap : Heap Published) (mutator : MutatorId) (references : List ObjectRef)
    (object : ObjectRef) : Prop where
  isPrivate : heap.bitmap.IsPrivate object
  foreign : ¬heap.objects.mayPublish mutator object = true
  alone : heap.Alone references object

/-- What a reference leads to stands in a slot, unless it is the reference itself. -/
theorem Reaches.mentions (reaches : heap.Reaches root object)
    (root_mentioned : heap.Mentions references root) : heap.Mentions references object := by
  cases reaches with
  | root => exact root_mentioned
  | slot _ _ referred =>
      obtain ⟨slot, -, load_eq⟩ := referred
      exact Or.inr ⟨slot, load_eq⟩

namespace Sheltered

/-- What one publication makes public is not the object and does not share its granule. -/
theorem of_opens {found : List ObjectRef} (sheltered : heap.Sheltered mutator references object)
    (root_mentioned : heap.Mentions references root)
    (opens : heap.Opens mutator root found after) :
    after.Sheltered mutator references object where
  isPrivate := by
    refine ⟨sheltered.isPrivate.1, Bool.eq_false_iff.mpr fun public_after => ?_⟩
    rcases opens.publishes.isPublic_iff.mp public_after with
      public_before | ⟨-, other, other_found, same_home⟩
    · simp [sheltered.isPrivate.2] at public_before
    · have publishable := opens.publishes.publishable other other_found
      have other_eq : other = object :=
        sheltered.alone other ((opens.reached other other_found).mentions root_mentioned)
          (opens.publishes.wasPrivate other other_found).1 publishable.1 same_home
      exact sheltered.foreign (other_eq ▸ publishable.2)
  foreign := by
    rw [opens.objects_eq]
    exact sheltered.foreign
  alone other mentioned not_null covered same_home := by
    have same_range := opens.publishes.sameRange
    rw [Mentions, opens.memory_eq] at mentioned
    rw [same_range.contains_eq] at covered
    rw [same_range.home_eq, same_range.home_eq] at same_home
    exact sheltered.alone other mentioned not_null covered same_home

theorem publishEach (sheltered : heap.Sheltered mutator references object)
    (mentioned : ∀ root ∈ roots, heap.Mentions references root) :
    (Action.left (heap.publishEach mutator roots)).Sheltered mutator references object := by
  induction roots generalizing heap with
  | nil => exact sheltered
  | cons root roots ih =>
      obtain ⟨found, opens⟩ := heap.opens_of_publishClosure mutator root
      have sheltered_next := sheltered.of_opens (mentioned root List.mem_cons_self) opens
      cases published : heap.publishClosure mutator root with
      | error fault next =>
          rw [published] at sheltered_next
          simp only [Heap.publishEach, published]
          exact sheltered_next
      | ok count next =>
          rw [published] at opens sheltered_next
          simp only [Heap.publishEach, published]
          refine ih sheltered_next fun other member => ?_
          rw [Mentions, show next.memory = heap.memory from opens.memory_eq]
          exact mentioned other (List.mem_cons_of_mem root member)

end Sheltered

end Publication.Heap

namespace Operation

open Publication.Heap (Alone Mentions Sheltered)

theorem sheltered_of_heapEnd {heap : Heap Published} {mutator : MutatorId}
    {references roots : List ObjectRef} {object : ObjectRef} {ending : Ending (Heap Published) Unit}
    (sheltered : heap.Sheltered mutator references object)
    (mentioned : ∀ root ∈ roots, heap.Mentions references root)
    (ends : HeapEnd heap mutator roots ending) :
    (Action.left ending).Sheltered mutator references object := by
  cases ends with
  | unconcerned => exact sheltered
  | overflowed => exact sheltered
  | published => exact sheltered.publishEach mentioned

/-- Whatever a mutator does, and however that ends, private objects of others stay private. -/
theorem isPrivate_perform {Host : Type} {collector : Collector Published Host} {mutator : Mutator}
    {operation : Operation} {process : Process Published Host} {object : ObjectRef}
    {owner : MutatorId} (publishing : collector.recorder = .publishing)
    (owned : process.heap.objects.owner object = some owner) (foreign : mutator.id ≠ owner)
    (alone : process.heap.Alone operation.references object)
    (object_private : process.heap.bitmap.IsPrivate object) :
    (Action.left (operation.perform collector mutator process)).heap.bitmap.IsPrivate object := by
  have not_permitted : ¬process.heap.objects.mayPublish mutator.id object = true := by
    rw [Publication.ObjectModel.mayPublish_iff, owned]
    simp [foreign.symm]
  have mentioned : ∀ root ∈ operation.roots process.heap.memory,
      process.heap.Mentions operation.references root :=
    fun _ member => mem_of_mem_roots member
  have sheltered := sheltered_of_heapEnd ⟨object_private, not_permitted, alone⟩ mentioned
    (heapEnd_perform publishing mutator operation process)
  rw [Action.left_mapState] at sheltered
  exact sheltered.isPrivate

private def ownRoot : ObjectRef := ⟨0x1000⟩

private def ownChild : ObjectRef := ⟨0x1008⟩

private def foreignLeaf : ObjectRef := ⟨0x1010⟩

/-- An object of mutator 1 refers to another, and that one to an object of mutator 2. -/
def foreignBelow : Process Published Unit :=
  { Process.vacant {} () with
    heap.memory.load := fun slot =>
      if slot = ⟨0x2000⟩ then ownChild else if slot = ⟨0x2008⟩ then foreignLeaf else .null
    heap.objects.slots := fun object =>
      if object = ownRoot then [⟨0x2000⟩] else if object = ownChild then [⟨0x2008⟩] else []
    heap.objects.owner := fun object => if object = foreignLeaf then some ⟨2⟩ else some ⟨1⟩ }

/-- The two objects are public when the publication is refused, and the foreign one is not. -/
theorem isPrivate_perform_foreignLeaf :
    ∃ after : Process Published Unit,
      (publish ownRoot).perform .publishing ⟨⟨1⟩, ⟨11⟩⟩ foreignBelow =
        .error (.publishForeign ⟨1⟩ foreignLeaf.text) after ∧
      after.heap.bitmap.publicCount = 2 ∧ after.heap.bitmap.IsPrivate foreignLeaf := by
  have stopped : Action.stop?
      ((publish ownRoot).perform .publishing ⟨⟨1⟩, ⟨11⟩⟩ foreignBelow) =
        some (.publishForeign ⟨1⟩ foreignLeaf.text) := by
    decide +kernel
  have homes : ∀ other ∈ [ownRoot, ownChild, foreignLeaf],
      foreignBelow.heap.bitmap.home other = foreignBelow.heap.bitmap.home foreignLeaf →
        other = foreignLeaf := by
    decide
  have listed {other : ObjectRef} (mentioned : foreignBelow.heap.Mentions [ownRoot] other)
      (not_null : other ≠ .null) : other ∈ [ownRoot, ownChild, foreignLeaf] := by
    rcases mentioned with named | ⟨slot, rfl⟩
    · exact List.mem_append_left [ownChild, foreignLeaf] named
    · simp only [foreignBelow] at not_null ⊢
      split at not_null
      · simp [*]
      · split at not_null
        · simp [*]
        · exact absurd rfl not_null
  have alone : foreignBelow.heap.Alone [ownRoot] foreignLeaf := by
    intro other mentioned not_null _ same_home
    exact homes other (listed mentioned not_null) same_home
  have owned : foreignBelow.heap.objects.owner foreignLeaf = some ⟨2⟩ := by decide
  exact ⟨_, Action.eq_error_of_stop? stopped, by decide +kernel,
    isPrivate_perform rfl owned (by decide) alone (by decide)⟩

end Operation

end Safepoint
