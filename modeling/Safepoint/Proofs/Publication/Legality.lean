import Safepoint.Proofs.Publication.Closure

/-!
# What may be published

The walk of a publication marks objects on its way and looks at nothing twice, so what it meets
depends on what it has done.  Whether it comes to its end does not: a publication is refused exactly
when its root reaches, in the heap as it was, a reference that its mutator may not publish.
`publishClosure_refused_iff` states this for every heap whose references start in granules of their
own and whose sizes together fit a word; `publishClosure_ok_iff` tells when a publication comes to
its end whatever the sizes.
-/

namespace Safepoint.Publication.Heap

variable {heap after : Heap Published} {mutator : MutatorId} {root object : ObjectRef}
variable {found : List ObjectRef} {bitmap : Bitmap} {fault : Fault} {count : Nat}

/--
The mutator may not publish the reference: it lies outside the covered range, or it is to a private
object of another mutator.
-/
def Illegal (heap : Heap Published) (mutator : MutatorId) (object : ObjectRef) : Prop :=
  object ≠ .null ∧
    (heap.bitmap.contains object.address = false ∨
      heap.bitmap.isPublic object.address = false ∧
        ∃ owner, heap.objects.owner object = some owner ∧ owner ≠ mutator)

theorem not_mayPublish_iff {objects : ObjectModel} :
    ¬objects.mayPublish mutator object = true ↔
      ∃ owner, objects.owner object = some owner ∧ owner ≠ mutator := by
  rw [ObjectModel.mayPublish_iff]
  cases objects.owner object <;> simp

theorem illegal_iff :
    heap.Illegal mutator object ↔
      heap.bitmap.IsPrivate object ∧
        ¬heap.bitmap.Publishable heap.objects mutator object := by
  have covered_of_public (is_public : heap.bitmap.isPublic object.address = true) :
      heap.bitmap.contains object.address = true :=
    (Bitmap.isPublic_iff.mp is_public).1
  rw [Illegal, Bitmap.IsPrivate, Bitmap.Publishable, ← not_mayPublish_iff, not_and_or]
  cases contained : heap.bitmap.contains object.address with
  | true => simp [and_assoc]
  | false =>
      have unmarked : heap.bitmap.isPublic object.address = false := by
        by_contra is_public
        rw [Bool.not_eq_false] at is_public
        simp [covered_of_public is_public] at contained
      simp [unmarked]

/-- What became public is no larger than what the root reaches. -/
theorem totalSize_le_sum (publishes : Publishes heap.objects mutator heap.bitmap found bitmap)
    (reached : ∀ object ∈ found, heap.Reaches root object) :
    totalSize heap.objects found ≤
      ∑ object ∈ heap.privateReach root, (heap.objects.size object).toNat := by
  rw [totalSize_eq_sum _ publishes.nodup]
  exact Finset.sum_le_sum_of_subset (toFinset_subset_privateReach publishes reached)

/-- A publication stops for an illegal reference that it reaches, or for the sizes. -/
theorem cause_of_publishClosure (ended : heap.publishClosure mutator root = .error fault after) :
    (∃ object, heap.Reaches root object ∧ heap.Illegal mutator object ∧
        fault = refusal heap.bitmap heap.objects mutator object) ∨
      fault = .addOverflow ∧
        Word.count ≤ ∑ object ∈ heap.privateReach root, (heap.objects.size object).toNat := by
  by_cases root_private : heap.bitmap.IsPrivate root
  · have ends := publishReach_end mutator root_private
    generalize reach_eq :
      publishReach heap.memory heap.objects mutator root heap.bitmap = ending at ends
    simp only [publishClosure, reach_eq] at ended
    cases ends with
    | finished => cases ended
    | @refused found bitmap object publishes reached object_reached object_private
        not_publishable =>
        cases ended
        rw [publishes.sameRange.publishable_iff] at not_publishable
        have illegal : heap.Illegal mutator object :=
          illegal_iff.mpr ⟨publishes.isPrivate_before object_private, not_publishable⟩
        refine Or.inl ⟨object, object_reached, illegal, ?_⟩
        rw [refusal, refusal, publishes.sameRange.contains_eq]
    | overflowed publishes reached size_ge =>
        cases ended
        exact Or.inr ⟨rfl, size_ge.trans (totalSize_le_sum publishes reached)⟩
  · rw [publishClosure_of_not_private root_private] at ended
    cases ended

/--
A publication comes to its end exactly when everything private that the root reaches may be
published and has sizes that together fit a word.
-/
theorem publishClosure_ok_iff (distinct : Set.InjOn heap.bitmap.home (heap.privateReach root)) :
    (∃ count after, heap.publishClosure mutator root = .ok count after) ↔
      (∀ object ∈ heap.privateReach root,
        heap.bitmap.Publishable heap.objects mutator object) ∧
      ∑ object ∈ heap.privateReach root, (heap.objects.size object).toNat < Word.count := by
  constructor
  · rintro ⟨count, after, ended⟩
    by_cases root_private : heap.bitmap.IsPrivate root
    · obtain ⟨found, tally, walk, counts, -⟩ := walk_of_publishClosure root_private ended
      have found_nodup : found.Nodup := walk.publishes.nodup
      rw [← walk.toFinset_eq distinct, ← totalSize_eq_sum _ found_nodup, ← counts.bytes_eq]
      refine ⟨fun object member => ?_, Word.toNat_lt tally.bytes⟩
      exact walk.publishes.publishable object (List.mem_toFinset.mp member)
    · rw [privateReach_of_not_private root_private]
      exact ⟨by simp, by simp⟩
  · rintro ⟨publishable, fits⟩
    cases ended : heap.publishClosure mutator root with
    | ok count after => exact ⟨count, after, rfl⟩
    | error fault after =>
        rcases cause_of_publishClosure ended with ⟨object, reached, illegal, -⟩ | ⟨-, size_ge⟩
        · obtain ⟨object_private, not_publishable⟩ := illegal_iff.mp illegal
          exact absurd (publishable object (mem_privateReach.mpr ⟨reached, object_private⟩))
            not_publishable
        · omega

/--
A publication meets a fault exactly when its root reaches, through objects that are private at its
start, a reference that the mutator may not publish; and the fault names such a reference.
-/
theorem publishClosure_refused_iff
    (distinct : Set.InjOn heap.bitmap.home (heap.privateReach root))
    (fits : ∑ object ∈ heap.privateReach root, (heap.objects.size object).toNat < Word.count) :
    ((∃ fault after, heap.publishClosure mutator root = .error fault after) ↔
      ∃ object, heap.Reaches root object ∧ heap.Illegal mutator object) ∧
    ∀ fault after, heap.publishClosure mutator root = .error fault after →
      ∃ object, heap.Reaches root object ∧ heap.Illegal mutator object ∧
        fault = refusal heap.bitmap heap.objects mutator object := by
  have named : ∀ fault after, heap.publishClosure mutator root = .error fault after →
      ∃ object, heap.Reaches root object ∧ heap.Illegal mutator object ∧
        fault = refusal heap.bitmap heap.objects mutator object := by
    intro fault after ended
    refine (cause_of_publishClosure ended).resolve_right ?_
    rintro ⟨-, size_ge⟩
    omega
  refine ⟨⟨?_, ?_⟩, named⟩
  · rintro ⟨fault, after, ended⟩
    obtain ⟨object, reached, illegal, -⟩ := named fault after ended
    exact ⟨object, reached, illegal⟩
  · rintro ⟨object, reached, illegal⟩
    obtain ⟨object_private, not_publishable⟩ := illegal_iff.mp illegal
    cases ended : heap.publishClosure mutator root with
    | error fault after => exact ⟨fault, after, rfl⟩
    | ok count after =>
        have publishable := ((publishClosure_ok_iff distinct).mp ⟨count, after, ended⟩).1
        exact absurd (publishable object (mem_privateReach.mpr ⟨reached, object_private⟩))
          not_publishable

private def crossingObjects : List ObjectRef :=
  [⟨0x1000⟩, ⟨0x1008⟩, ⟨0x1010⟩, ⟨0x1018⟩, ⟨0x1020⟩, .null]

/--
Three objects of mutator 1 in a ring, the first of which refers to itself, too.  The second refers
to a public object of mutator 2, and the third to an object of mutator 2 that is public only if its
mark is among the given ones.
-/
def crossing (marks : UInt8) : Heap Published :=
  { vacant {} with
    bitmap := .ofByte marks
    memory.load := fun slot =>
      if slot = ⟨0x2000⟩ then ⟨0x1000⟩
      else if slot = ⟨0x2008⟩ then ⟨0x1008⟩
      else if slot = ⟨0x2010⟩ then ⟨0x1018⟩
      else if slot = ⟨0x2018⟩ then ⟨0x1010⟩
      else if slot = ⟨0x2020⟩ then ⟨0x1000⟩
      else if slot = ⟨0x2028⟩ then ⟨0x1020⟩
      else .null
    objects.slots := fun object =>
      if object = ⟨0x1000⟩ then [⟨0x2000⟩, ⟨0x2008⟩]
      else if object = ⟨0x1008⟩ then [⟨0x2010⟩, ⟨0x2018⟩]
      else if object = ⟨0x1010⟩ then [⟨0x2020⟩, ⟨0x2028⟩]
      else []
    objects.owner := fun object =>
      if object = ⟨0x1018⟩ ∨ object = ⟨0x1020⟩ then some ⟨2⟩ else some ⟨1⟩ }

private theorem crossing_mem {marks : UInt8}
    (member : object ∈ (crossing marks).privateReach ⟨0x1000⟩) : object ∈ crossingObjects := by
  have closed : ∀ source ∈ crossingObjects, ∀ slot ∈ (crossing 0).objects.slots source,
      (crossing 0).memory.load slot ∈ crossingObjects := by
    decide
  exact (mem_privateReach.mp member).1.mem_of_closed (by decide)
    fun source source_mem _ => closed source source_mem

/-- The mutator is refused the second foreign object while it is private, and nothing otherwise. -/
theorem publishClosure_refused_iff_crossing :
    (∃ fault after, (crossing 8).publishClosure ⟨1⟩ ⟨0x1000⟩ = .error fault after) ∧
      ¬∃ fault after, (crossing 24).publishClosure ⟨1⟩ ⟨0x1000⟩ = .error fault after := by
  have distinct (marks : UInt8) : Set.InjOn (crossing marks).bitmap.home
      ((crossing marks).privateReach ⟨0x1000⟩) := by
    have homes_inj : ∀ left ∈ crossingObjects, ∀ right ∈ crossingObjects,
        (crossing 0).bitmap.home left = (crossing 0).bitmap.home right → left = right := by
      decide
    intro left left_mem right right_mem
    exact homes_inj left (crossing_mem left_mem) right (crossing_mem right_mem)
  have fits (marks : UInt8) : ∑ object ∈ (crossing marks).privateReach ⟨0x1000⟩,
      ((crossing marks).objects.size object).toNat < Word.count := by
    have subset : (crossing marks).privateReach ⟨0x1000⟩ ⊆ crossingObjects.toFinset :=
      fun object member => List.mem_toFinset.mpr (crossing_mem member)
    refine (Finset.sum_le_sum_of_subset subset).trans_lt ?_
    change ∑ object ∈ crossingObjects.toFinset, 8 < Word.count
    decide
  constructor
  · refine (publishClosure_refused_iff (distinct 8) (fits 8)).1.mpr ⟨⟨0x1020⟩, ?_, ?_⟩
    · have second : (crossing 8).Reaches ⟨0x1000⟩ ⟨0x1008⟩ :=
        .slot .root (by decide) ⟨⟨0x2008⟩, by decide, by decide⟩
      have third : (crossing 8).Reaches ⟨0x1000⟩ ⟨0x1010⟩ :=
        .slot second (by decide) ⟨⟨0x2018⟩, by decide, by decide⟩
      exact .slot third (by decide) ⟨⟨0x2028⟩, by decide, by decide⟩
    · exact ⟨by decide, Or.inr ⟨by decide, ⟨2⟩, by decide, by decide⟩⟩
  · rw [(publishClosure_refused_iff (distinct 24) (fits 24)).1]
    rintro ⟨object, reached, illegal⟩
    have publishable : ∀ other ∈ crossingObjects, (crossing 24).bitmap.IsPrivate other →
        (crossing 24).bitmap.Publishable (crossing 24).objects ⟨1⟩ other := by
      decide
    obtain ⟨object_private, not_publishable⟩ := illegal_iff.mp illegal
    have listed := crossing_mem (mem_privateReach.mpr ⟨reached, object_private⟩)
    exact not_publishable (publishable object listed object_private)

end Safepoint.Publication.Heap
