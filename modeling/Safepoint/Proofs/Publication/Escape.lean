import Safepoint.Proofs.Publication.Interleaving
import Safepoint.Proofs.Vacant

/-!
# Nothing private behind a public object

A half that is pending is safe for one of two reasons: the object written to is public and its
barrier has published what will be stored, or the object is private and nobody but its owner can
make it public.  Both reasons outlast whatever other mutators do.  `sealed_of_reachable` is the
conclusion: under any interleaving, no public object ever holds a private one.
-/

namespace Safepoint.Escape

open Publication (Heap InRow Published Recorder Refers)

variable {Host : Type} {members : Finset ObjectRef} {mutator other : MutatorId}
variable {before after : Heap Published} {half : Half}

theorem RowIn.mem {first slot : Address} {count : Nat} {slots : List Address}
    (row_in : RowIn first count slots) (in_row : InRow first count slot) : slot ∈ slots := by
  obtain ⟨number, number_lt, slot_eq⟩ := in_row
  obtain ⟨found, found_mem, found_eq⟩ := row_in number number_lt
  rw [← slot_eq, Address.toNat_inj] at found_eq
  exact found_eq ▸ found_mem

namespace Population

variable {left right : ObjectRef} {slot : Address}

theorem eq_of_slot (population : Population members before) (left_mem : left ∈ members)
    (right_mem : right ∈ members) (slot_left : slot ∈ before.objects.slots left)
    (slot_right : slot ∈ before.objects.slots right) : left = right := by
  by_contra left_ne
  exact population.slots_disjoint left left_mem right right_mem left_ne slot_left slot_right

theorem closed_of_mem (population : Population members before) (left_mem : left ∈ members)
    (slot_left : slot ∈ before.objects.slots left) :
    before.memory.load slot = .null ∨ before.memory.load slot ∈ members :=
  population.closed left left_mem _ ⟨slot, slot_left, rfl⟩

end Population

namespace Half

/-- What will be put into a public object is not private. -/
def Settled (heap : Heap Published) : Half → Prop
  | store source _ target =>
      heap.bitmap.isPublic source.address = true → ¬heap.bitmap.IsPrivate target
  | move _ array first _ count =>
      heap.bitmap.isPublic array.address = true → ∀ slot, InRow first count.toNat slot →
        ¬heap.bitmap.IsPrivate (heap.memory.load slot)

/-- What holds of a half from its barrier on until it is run. -/
structure Ready (members : Finset ObjectRef) (heap : Heap Published) (mutator : MutatorId)
    (half : Half) : Prop where
  allowed : half.Allowed members heap mutator
  settled : half.Settled heap

theorem Allowed.mono (allowed : half.Allowed members before other)
    (objects_eq : after.objects = before.objects)
    (accessible_after : ∀ object, Accessible before other object → Accessible after other object) :
    half.Allowed members after other := by
  cases half with
  | store source slot target =>
      obtain ⟨source_mem, slot_mem, target_mem, accessible⟩ := allowed
      rw [← objects_eq] at slot_mem
      exact ⟨source_mem, slot_mem, target_mem, accessible_after source accessible⟩
  | move holder array first destination count =>
      obtain ⟨holder_mem, array_mem, row_in, destination_in, accessible, array_accessible⟩ :=
        allowed
      rw [← objects_eq] at row_in destination_in
      exact ⟨holder_mem, array_mem, row_in, destination_in, accessible_after holder accessible,
        accessible_after array array_accessible⟩

theorem Allowed.advance (advances : Advances members mutator before after)
    (allowed : half.Allowed members before other) : half.Allowed members after other :=
  allowed.mono advances.objects_eq fun _ => advances.accessible

/-- Others can only make public what they own, and so the reason of a pending half stands. -/
theorem Ready.advance (ready : half.Ready members before other)
    (advances : Advances members mutator before after) (other_ne : other ≠ mutator) :
    half.Ready members after other := by
  refine ⟨ready.allowed.advance advances, ?_⟩
  cases half with
  | store source slot target =>
      obtain ⟨source_mem, -, -, accessible⟩ := ready.allowed
      intro source_public target_private
      have public_before := advances.public_before source_mem accessible other_ne source_public
      exact ready.settled public_before (advances.isPrivate_before target_private)
  | move holder array first destination count =>
      obtain ⟨-, array_mem, -, -, -, accessible⟩ := ready.allowed
      intro array_public slot in_row value_private
      have public_before := advances.public_before array_mem accessible other_ne array_public
      rw [advances.memory_eq] at value_private
      exact ready.settled public_before slot in_row (advances.isPrivate_before value_private)

variable {collector : Collector Published Host} {runner : Mutator}
variable {process later : Process Published Host}

/-- A barrier that lets its mutator pass makes the half ready. -/
theorem ready_of_passes (publishing : collector.recorder = .publishing)
    (population : Population members process.heap)
    (allowed : half.Allowed members process.heap runner.id)
    (passes : half.barrier collector runner process = .ok () later) :
    Advances members runner.id process.heap later.heap ∧
      half.Ready members later.heap runner.id := by
  suffices advances_settled : Advances members runner.id process.heap later.heap ∧
      half.Settled later.heap from
    ⟨advances_settled.1, allowed.advance advances_settled.1, advances_settled.2⟩
  cases half with
  | store source slot target =>
      obtain ⟨-, -, target_mem, -⟩ := allowed
      obtain ⟨guarded, guarded_passes, heap_eq⟩ := Process.onGuarded_passes passes
      rw [← heap_eq]
      rcases Publication.Barrier.write_passes guarded_passes with ⟨unchanged, settled⟩ | answered
      · rw [unchanged]
        exact ⟨.refl _, settled⟩
      · rw [Collector.barrier, publishing, Recorder.publishing_write] at answered
        obtain ⟨advances, settled⟩ :=
          Advances.of_publishEach population (List.forall_mem_singleton.mpr target_mem) answered
        exact ⟨advances, fun _ => settled target (List.mem_singleton_self target)⟩
  | move holder array first destination count =>
      obtain ⟨holder_mem, -, row_in, -, -, -⟩ := allowed
      obtain ⟨guarded, guarded_passes, heap_eq⟩ := Process.onGuarded_passes passes
      rw [← heap_eq]
      rcases Publication.Barrier.copy_passes guarded_passes with
        ⟨unchanged, settled⟩ | ⟨firstPast, destinationPast, firstPast_eq, answered⟩
      · rw [unchanged]
        exact ⟨.refl _, settled⟩
      · rw [Collector.barrier, publishing, Recorder.publishing_copy firstPast_eq] at answered
        have fits : first.toNat + count.toNat * Publication.slotBytes < Word.count :=
          firstPast_eq ▸ firstPast.toNat_lt
        have row_mem : ∀ object ∈ process.heap.memory.row first count.toNat,
            object = .null ∨ object ∈ members := by
          intro object member
          obtain ⟨slot, in_row, rfl⟩ := Publication.exists_inRow fits member
          exact population.closed_of_mem holder_mem (row_in.mem in_row)
        obtain ⟨advances, settled⟩ := Advances.of_publishEach population row_mem answered
        refine ⟨advances, fun _ slot in_row => ?_⟩
        rw [advances.memory_eq]
        exact settled _ (in_row.load_mem process.heap.memory)

end Half

/-- A mutator changed slots of objects that it may use, and put nothing private behind a mark. -/
structure Writes (members : Finset ObjectRef) (mutator : MutatorId)
    (before after : Heap Published) : Prop where
  bitmap_eq : after.bitmap = before.bitmap
  objects_eq : after.objects = before.objects
  wrote : ∀ slot, after.memory.load slot = before.memory.load slot ∨
    ∃ object ∈ members, slot ∈ before.objects.slots object ∧ Accessible before mutator object ∧
      (after.memory.load slot = .null ∨ after.memory.load slot ∈ members) ∧
      (before.bitmap.isPublic object.address = true →
        ¬before.bitmap.IsPrivate (after.memory.load slot))

namespace Writes

theorem population (writes : Writes members mutator before after)
    (population_before : Population members before) : Population members after where
  covered := writes.bitmap_eq ▸ population_before.covered
  homes_injOn := writes.bitmap_eq ▸ population_before.homes_injOn
  slots_disjoint := writes.objects_eq ▸ population_before.slots_disjoint
  owned := writes.objects_eq ▸ population_before.owned
  closed object member next referred := by
    rw [writes.objects_eq] at referred
    obtain ⟨slot, slot_mem, rfl⟩ := referred
    rcases writes.wrote slot with unchanged | ⟨-, -, -, -, value_mem, -⟩
    · rw [unchanged]
      exact population_before.closed_of_mem member slot_mem
    · exact value_mem

theorem sealed (writes : Writes members mutator before after)
    (population_before : Population members before) (sealed_before : Sealed members before) :
    Sealed members after := by
  intro object member object_public next referred
  rw [writes.bitmap_eq] at object_public ⊢
  rw [writes.objects_eq] at referred
  obtain ⟨slot, slot_mem, rfl⟩ := referred
  rcases writes.wrote slot with unchanged | ⟨holder, holder_mem, slot_holder, -, -, settled⟩
  · rw [unchanged]
    exact sealed_before object member object_public _ ⟨slot, slot_mem, rfl⟩
  · have same := population_before.eq_of_slot holder_mem member slot_holder slot_mem
    exact settled (same ▸ object_public)

theorem accessible (writes : Writes members mutator before after) {object : ObjectRef}
    (accessible_before : Accessible before other object) : Accessible after other object := by
  rw [Accessible, writes.bitmap_eq, writes.objects_eq]
  exact accessible_before

/-- Two mutators may only use one object if it is public, and so no other write spoils a half. -/
theorem ready (writes : Writes members mutator before after)
    (population_before : Population members before) (ready_before : half.Ready members before other)
    (other_ne : other ≠ mutator) : half.Ready members after other := by
  refine ⟨ready_before.allowed.mono writes.objects_eq fun _ => writes.accessible, ?_⟩
  obtain ⟨allowed, settled⟩ := ready_before
  cases half with
  | store source slot target =>
      rw [Half.Settled, writes.bitmap_eq]
      exact settled
  | move holder array first destination count =>
      obtain ⟨holder_mem, -, row_in, -, accessible, -⟩ := allowed
      intro array_public slot in_row
      rw [writes.bitmap_eq] at array_public ⊢
      rcases writes.wrote slot with
        unchanged | ⟨object, object_mem, slot_object, object_accessible, -, value_settled⟩
      · rw [unchanged]
        exact settled array_public slot in_row
      · have same :=
          population_before.eq_of_slot object_mem holder_mem slot_object (row_in.mem in_row)
        subst same
        exact value_settled (public_of_accessible object_accessible accessible other_ne)

/-- A half that is ready puts nothing private behind a mark. -/
theorem of_ready (population_before : Population members before)
    (ready_before : half.Ready members before mutator) :
    Writes members mutator before { before with memory := half.run before.memory } := by
  refine ⟨rfl, rfl, fun changed => ?_⟩
  cases half with
  | store source slot target =>
      obtain ⟨⟨source_mem, slot_mem, target_mem, accessible⟩, settled⟩ := ready_before
      by_cases same : changed = slot
      · subst same
        simp only [Half.run, Memory.load_store_self]
        exact Or.inr ⟨source, source_mem, slot_mem, accessible, target_mem, settled⟩
      · exact Or.inl (Memory.load_store_of_ne same)
  | move holder array first destination count =>
      obtain ⟨⟨holder_mem, array_mem, row_in, destination_in, -, accessible⟩, settled⟩ :=
        ready_before
      simp only [Half.run]
      rcases Memory.load_move before.memory first destination changed count.toNat with
        unchanged | ⟨number, number_lt, changed_eq, moved⟩
      · exact Or.inl unchanged
      · obtain ⟨slot, slot_mem, slot_eq⟩ := row_in number number_lt
        have value_eq := moved slot slot_eq
        have changed_mem := destination_in.mem ⟨number, number_lt, changed_eq⟩
        rw [value_eq]
        exact Or.inr ⟨array, array_mem, changed_mem, accessible,
          population_before.closed_of_mem holder_mem slot_mem,
          fun array_public => settled array_public slot ⟨number, number_lt, slot_eq⟩⟩

end Writes

/-- What every reachable state satisfies. -/
structure Sound (members : Finset ObjectRef) (state : State Host) : Prop where
  population : Population members state.process.heap
  isSealed : Sealed members state.process.heap
  ready : ∀ mutator half, state.pending mutator = some half →
    half.Ready members state.process.heap mutator

variable {collector : Collector Published Host} {start state next : State Host}

/-- A mutator that has nothing pending and changes marks only leaves a sound state. -/
theorem Sound.advance (sound : Sound members state) {process : Process Published Host}
    (idle : state.pending mutator = none)
    (advances : Advances members mutator state.process.heap process.heap) :
    Sound members { state with process } where
  population := advances.population sound.population
  isSealed := advances.sealed sound.isSealed
  ready other half pending := by
    have other_ne : other ≠ mutator := by
      rintro rfl
      simp [idle] at pending
    exact (sound.ready other half pending).advance advances other_ne

theorem Sound.step (publishing : collector.recorder = .publishing)
    (sound : Sound members state) (step : Step collector members state next) :
    Sound members next := by
  cases step with
  | @publish runner object after idle object_mem passes =>
      obtain ⟨guarded, guarded_passes, heap_eq⟩ := Process.onGuarded_passes passes
      refine sound.advance idle ?_
      rw [← heap_eq]
      rcases Publication.Barrier.publish_passes guarded_passes with ⟨unchanged, -⟩ | answered
      · rw [unchanged]
        exact .refl _
      · rw [Collector.barrier, publishing, Recorder.publishing_publish] at answered
        have roots_mem : ∀ root ∈ [object], root = .null ∨ root ∈ members :=
          List.forall_mem_singleton.mpr object_mem
        exact (Advances.of_publishEach sound.population roots_mem answered).1
  | @pass runner half after idle allowed passes =>
      obtain ⟨advances, half_ready⟩ :=
        Half.ready_of_passes publishing sound.population allowed passes
      have advanced := sound.advance idle advances
      refine ⟨advanced.population, advanced.isSealed, fun other other_half pending => ?_⟩
      by_cases same : other = runner.id
      · subst same
        simp only [Function.update_self, Option.some.injEq] at pending
        exact pending ▸ half_ready
      · simp only [Function.update_of_ne same] at pending
        exact advanced.ready other other_half pending
  | @finish runner half pending =>
      have writes := Writes.of_ready sound.population (sound.ready runner half pending)
      refine ⟨writes.population sound.population,
        writes.sealed sound.population sound.isSealed, fun other other_half other_pending => ?_⟩
      by_cases same : other = runner
      · subst same
        simp [State.finish] at other_pending
      · simp only [State.finish, Function.update_of_ne same] at other_pending
        exact writes.ready sound.population (sound.ready other other_half other_pending) same

theorem Sound.reach (publishing : collector.recorder = .publishing)
    (sound : Sound members start) (reachable : Reachable collector members start state) :
    Sound members state := by
  induction reachable with
  | refl => exact sound
  | tail _ step ih => exact ih.step publishing step

/--
However the steps of the mutators interleave, no public object holds a private one, if none does at
the start; in particular if nothing is public yet.
-/
theorem sealed_of_reachable (publishing : collector.recorder = .publishing)
    (population : Population members start.process.heap)
    (start_sealed : Sealed members start.process.heap)
    (idle : ∀ mutator, start.pending mutator = none)
    (reachable : Reachable collector members start state) :
    Sealed members state.process.heap := by
  have sound : Sound members start :=
    ⟨population, start_sealed, fun mutator half pending => by simp [idle mutator] at pending⟩
  exact (sound.reach publishing reachable).isSealed

private def rootObject : ObjectRef := ⟨0x1000⟩

private def childObject : ObjectRef := ⟨0x1008⟩

private def leafObject : ObjectRef := ⟨0x1010⟩

private def foreignObject : ObjectRef := ⟨0x1018⟩

/-- A root with two slots and a child with a leaf, of one mutator, and an object of another. -/
def twoStoresStart : State Unit where
  process :=
    { Process.vacant {} () with
      heap.memory.load := fun slot => if slot = ⟨0x2010⟩ then leafObject else .null
      heap.objects.slots := fun object =>
        if object = rootObject then [⟨0x2000⟩, ⟨0x2008⟩]
        else if object = childObject then [⟨0x2010⟩]
        else []
      heap.objects.owner := fun object => if object = foreignObject then some ⟨2⟩ else some ⟨1⟩ }
  pending := fun _ => none

private def twoStoresObjects : Finset ObjectRef :=
  {rootObject, childObject, leafObject, foreignObject}

private def storeChild : Half :=
  .store rootObject ⟨0x2000⟩ childObject

private def storeForeign : Half :=
  .store rootObject ⟨0x2008⟩ foreignObject

private def rootPublished : State Unit :=
  { twoStoresStart with
    process := Action.left
      (Collector.publishing.publishObject ⟨⟨1⟩, ⟨11⟩⟩ rootObject twoStoresStart.process) }

private def childPassed : State Unit where
  process := Action.left (storeChild.barrier .publishing ⟨⟨1⟩, ⟨11⟩⟩ rootPublished.process)
  pending := Function.update rootPublished.pending ⟨1⟩ (some storeChild)

private def foreignPassed : State Unit where
  process := Action.left (storeForeign.barrier .publishing ⟨⟨2⟩, ⟨12⟩⟩ childPassed.process)
  pending := Function.update childPassed.pending ⟨2⟩ (some storeForeign)

/-- Both mutators have passed the barriers of their stores, and then stored. -/
def twoStoresEnd : State Unit :=
  (foreignPassed.finish ⟨1⟩ storeChild).finish ⟨2⟩ storeForeign

private theorem twoStoresEnd_reachable :
    Reachable .publishing twoStoresObjects twoStoresStart twoStoresEnd := by
  have publish_passes :
      Collector.publishing.publishObject ⟨⟨1⟩, ⟨11⟩⟩ rootObject twoStoresStart.process =
        .ok () rootPublished.process := Action.eq_ok_of_value? (by decide +kernel)
  have child_passes : storeChild.barrier .publishing ⟨⟨1⟩, ⟨11⟩⟩ rootPublished.process =
      .ok () childPassed.process := Action.eq_ok_of_value? (by decide +kernel)
  have foreign_passes : storeForeign.barrier .publishing ⟨⟨2⟩, ⟨12⟩⟩ childPassed.process =
      .ok () foreignPassed.process := Action.eq_ok_of_value? (by decide +kernel)
  have child_allowed : storeChild.Allowed twoStoresObjects rootPublished.process.heap ⟨1⟩ :=
    ⟨by decide, by decide +kernel, by decide, Or.inl (by decide +kernel)⟩
  have foreign_allowed : storeForeign.Allowed twoStoresObjects childPassed.process.heap ⟨2⟩ :=
    ⟨by decide, by decide +kernel, by decide, Or.inl (by decide +kernel)⟩
  have published : Step .publishing twoStoresObjects twoStoresStart rootPublished :=
    .publish (by rfl) (by decide) publish_passes
  have passed_child : Step .publishing twoStoresObjects rootPublished childPassed :=
    .pass (by rfl) child_allowed child_passes
  have passed_foreign : Step .publishing twoStoresObjects childPassed foreignPassed :=
    .pass (by rfl) foreign_allowed foreign_passes
  have stored_child :
      Step .publishing twoStoresObjects foreignPassed (foreignPassed.finish ⟨1⟩ storeChild) :=
    .finish (by rfl)
  have stored_foreign :
      Step .publishing twoStoresObjects (foreignPassed.finish ⟨1⟩ storeChild) twoStoresEnd :=
    .finish (by rfl)
  exact ((((Relation.ReflTransGen.single published).tail passed_child).tail passed_foreign).tail
    stored_child).tail stored_foreign

/-- The root, the child behind it, the leaf behind that and the foreign object are public. -/
theorem sealed_of_reachable_twoStores :
    Sealed twoStoresObjects twoStoresEnd.process.heap ∧
      twoStoresEnd.process.heap.memory.load ⟨0x2000⟩ = childObject ∧
      twoStoresEnd.process.heap.memory.load ⟨0x2008⟩ = foreignObject ∧
      twoStoresEnd.process.heap.bitmap.publicCount = 4 := by
  have homes_injOn : ∀ left ∈ twoStoresObjects, ∀ right ∈ twoStoresObjects,
      twoStoresStart.process.heap.bitmap.home left = twoStoresStart.process.heap.bitmap.home right →
        left = right := by
    decide
  have slots_disjoint : ∀ left ∈ twoStoresObjects, ∀ right ∈ twoStoresObjects, left ≠ right →
      ∀ slot ∈ twoStoresStart.process.heap.objects.slots left,
        slot ∉ twoStoresStart.process.heap.objects.slots right := by
    decide
  have closed : ∀ object ∈ twoStoresObjects,
      ∀ slot ∈ twoStoresStart.process.heap.objects.slots object,
      twoStoresStart.process.heap.memory.load slot = .null ∨
        twoStoresStart.process.heap.memory.load slot ∈ twoStoresObjects := by
    decide
  have population : Population twoStoresObjects twoStoresStart.process.heap :=
    { covered := by decide
      homes_injOn := fun left left_mem right right_mem => homes_injOn left left_mem right right_mem
      slots_disjoint := fun left left_mem right right_mem left_ne slot =>
        slots_disjoint left left_mem right right_mem left_ne slot
      owned := by decide
      closed := by
        rintro object member next ⟨slot, slot_mem, rfl⟩
        exact closed object member slot slot_mem }
  have all_private : ∀ object ∈ twoStoresObjects,
      twoStoresStart.process.heap.bitmap.isPublic object.address = false := by
    decide
  have start_sealed : Sealed twoStoresObjects twoStoresStart.process.heap := by
    intro object member object_public
    simp [all_private object member] at object_public
  have end_sealed := sealed_of_reachable rfl population start_sealed (fun _ => rfl)
    twoStoresEnd_reachable
  exact ⟨end_sealed, by decide +kernel, by decide +kernel, by decide +kernel⟩

end Safepoint.Escape
