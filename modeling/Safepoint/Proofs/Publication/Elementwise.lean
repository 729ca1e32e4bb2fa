import Safepoint.Proofs.Publication.Escape
import Safepoint.Proofs.Publication.Operations

/-!
# A copy and its writes

A copy of a row of references tells its recorder of the whole row at once, or not at all.  The
recorder that publishes then publishes what each slot refers to, and so it would if the references
were written one by one.  `Collector.heap_recordCopy_eq` states that both leave the same heap and
meet the same fault, for every mixture of references: a copy that needs no telling copies nothing
that a write would tell of, and the array stays public while its elements become so.
-/

namespace Safepoint

/-- The slot with a number in the row that starts at an address. -/
def Address.inRow (first : Address) (number : Nat) : Address :=
  ⟨UInt64.ofNat (first.toNat + number * Publication.slotBytes)⟩

namespace Publication

namespace Heap

variable {heap after : Heap Published} {mutator : MutatorId} {roots : List ObjectRef}

theorem publishEach_append (front roots : List ObjectRef) (heap : Heap Published) :
    heap.publishEach mutator (front ++ roots) =
      match heap.publishEach mutator front with
      | .ok _ after => after.publishEach mutator roots
      | .error fault after => .error fault after := by
  induction front generalizing heap with
  | nil => rfl
  | cons root front ih =>
      simp only [List.cons_append, publishEach]
      cases heap.publishClosure mutator root with
      | ok count after => exact ih after
      | error fault after => rfl

theorem publishEach_of_settled (settled : ∀ root ∈ roots, ¬heap.bitmap.IsPrivate root) :
    heap.publishEach mutator roots = .ok () heap := by
  induction roots with
  | nil => rfl
  | cons root roots ih =>
      obtain ⟨root_settled, rest_settled⟩ := List.forall_mem_cons.mp settled
      simp only [publishEach, publishClosure_of_not_private root_settled]
      exact ih rest_settled

/-- While roots are published, slots keep their references and public places stay public. -/
theorem kept_of_publishEach {address : Address}
    (passes : heap.publishEach mutator roots = .ok () after)
    (is_public : heap.bitmap.isPublic address = true) :
    after.memory = heap.memory ∧ after.bitmap.isPublic address = true := by
  induction roots generalizing heap with
  | nil =>
      cases passes
      exact ⟨rfl, is_public⟩
  | cons root roots ih =>
      obtain ⟨found, middle, completes, rest_passes⟩ := publishEach_cons_ok passes
      have still_public := completes.publishes.isPublic_iff.mpr (Or.inl is_public)
      obtain ⟨memory_eq, public_after⟩ := ih rest_passes still_public
      exact ⟨memory_eq.trans completes.memory_eq, public_after⟩

end Heap

namespace Barrier

variable {Record : Type} {barrier : Barrier Published} {first destination : Address} {count : Word}

/-- A write into a public object publishes its target, and no other write publishes anything. -/
theorem heap_write_of_publishing (publishing : barrier.recorder = .publishing)
    (state : Guarded Published) (source target : ObjectRef) (slot : Address) :
    Action.mapState Guarded.heap (barrier.write source slot target state) =
      if state.marked source = true then state.heap.publishEach barrier.mutator [target]
      else .ok () state.heap := by
  rw [heap_write, publishing, Recorder.publishing_write]
  by_cases source_public : state.marked source = true
  · rw [if_pos source_public]
    by_cases target_settled : target = .null ∨ state.marked target = true
    · rw [if_pos (by simpa [source_public] using target_settled),
        Heap.publishEach_of_settled (List.forall_mem_singleton.mpr _)]
      rintro ⟨not_null, unmarked⟩
      simp [not_null, Guarded.marked, unmarked] at target_settled
    · rw [if_neg (by simpa [source_public] using target_settled)]
  · rw [if_neg source_public, if_pos (Or.inl (Or.inr (by simpa using source_public)))]

theorem allPublic_ne_error {heap : Heap Record} {slots step : Nat}
    (fits : first.toNat + (step + slots) * slotBytes < Word.count) (fault : Fault) :
    allPublic heap first slots step ≠ .error fault := by
  induction slots generalizing step with
  | zero =>
      intro ended
      cases ended
  | succ slots ih =>
      have step_le : step * slotBytes ≤ (step + (slots + 1)) * slotBytes :=
        Nat.mul_le_mul_right slotBytes (Nat.le_add_right step (slots + 1))
      have offset_lt : step * slotBytes < Word.count := by omega
      have offset_eq : (UInt64.ofNat (step * slotBytes)).toNat = step * slotBytes :=
        UInt64.toNat_ofNat_of_lt' offset_lt
      have slot_fits : first.toNat + (UInt64.ofNat (step * slotBytes)).toNat < Word.count := by
        omega
      obtain ⟨slot, slot_at, -⟩ := Address.exists_offset? slot_fits
      rw [allPublic, slot_at]
      dsimp only
      split
      · refine ih ?_
        rwa [Nat.add_assoc, Nat.add_comm 1]
      · intro ended
        cases ended

theorem publishEach_of_allPublic {heap : Heap Published} {slots : Nat} {mutator : MutatorId}
    (fits : first.toNat + slots * slotBytes < Word.count)
    (settled : allPublic heap first slots 0 = .ok true) :
    heap.publishEach mutator (heap.memory.row first slots) = .ok () heap := by
  apply Heap.publishEach_of_settled
  intro object member
  obtain ⟨slot, ⟨number, number_lt, slot_eq⟩, rfl⟩ := exists_inRow fits member
  exact settled_of_allPublic settled (Nat.zero_le number) (by omega) slot_eq

/-- A copy into a public array publishes its row, and no other copy publishes anything. -/
theorem heap_copy_of_publishing (publishing : barrier.recorder = .publishing)
    (source_fits : first.toNat + count.toNat * slotBytes < Word.count)
    (destination_fits : destination.toNat + count.toNat * slotBytes < Word.count)
    (state : Guarded Published) (array : ObjectRef) :
    Action.mapState Guarded.heap (barrier.copy first destination count array state) =
      if state.marked array = true then
        state.heap.publishEach barrier.mutator (state.heap.memory.row first count.toNat)
      else .ok () state.heap := by
  rw [copy_eq]
  by_cases nothing : count = 0
  · have row_eq : state.heap.memory.row first count.toNat = [] := by simp [nothing, Memory.row]
    rw [if_pos nothing, row_eq]
    split <;> rfl
  rw [if_neg nothing, copyOutOfLine_eq]
  by_cases array_public : state.marked array = true
  · have bytes_lt : count.toNat * slotBytes < Word.count := by omega
    have bytes_eq : (count * UInt64.ofNat slotBytes).toNat = count.toNat * slotBytes := by
      rw [UInt64.toNat_mul]
      exact Nat.mod_eq_of_lt bytes_lt
    have product : Word.mul? count (UInt64.ofNat slotBytes) =
        some (count * UInt64.ofNat slotBytes) :=
      Word.mul?_eq_some_iff.mpr bytes_eq.symm
    rw [← bytes_eq] at source_fits destination_fits
    obtain ⟨firstPast, firstPast_at, firstPast_eq⟩ := Address.exists_offset? source_fits
    obtain ⟨destinationPast, destinationPast_at, -⟩ := Address.exists_offset? destination_fits
    rw [bytes_eq] at source_fits firstPast_eq
    rw [if_neg (by simpa [Guarded.marked] using array_public), if_pos array_public,
      copyToPublic_eq, product]
    dsimp only
    cases looked : allPublic state.heap first count.toNat 0 with
    | error fault =>
        rw [← Nat.zero_add count.toNat] at source_fits
        exact absurd looked (allPublic_ne_error source_fits fault)
    | ok settled =>
        cases settled with
        | true => exact (publishEach_of_allPublic source_fits looked).symm
        | false =>
            simp only [firstPast_at, destinationPast_at, heap_tell, publishing]
            exact Recorder.publishing_copy firstPast_eq
  · rw [if_neg array_public, if_pos (by simpa [Guarded.marked] using array_public)]
    rfl

end Barrier

end Publication

namespace Collector

open Publication (Heap Published slotBytes)

variable {Record Host : Type}

/--
Passes the barriers of the writes that put the references of a row, with the given numbers, into an
array one after another.
-/
def recordWrites (collector : Collector Record Host) (mutator : Mutator) (array : ObjectRef)
    (first destination : Address) : (numbers : List Nat) → Action (Process Record Host) Unit
  | [] => pure ()
  | number :: rest => do
      let target := (← get).heap.memory.load (first.inRow number)
      collector.recordWrite mutator array (destination.inRow number) target
      collector.recordWrites mutator array first destination rest

variable {collector : Collector Published Host} {first destination : Address}

theorem heap_recordWrite (publishing : collector.recorder = .publishing) (mutator : Mutator)
    (source target : ObjectRef) (slot : Address) (process : Process Published Host) :
    Action.mapState Process.heap (collector.recordWrite mutator source slot target process) =
      if process.heap.bitmap.isPublic source.address = true then
        process.heap.publishEach mutator.id [target]
      else .ok () process.heap := by
  rw [recordWrite, Process.heap_onGuarded, Publication.Barrier.heap_write_of_publishing publishing]
  rfl

/-- Writes into a public array publish their targets in order. -/
theorem heap_recordWrites (publishing : collector.recorder = .publishing) (mutator : Mutator)
    (array : ObjectRef) (first destination : Address) (numbers : List Nat)
    (process : Process Published Host) :
    Action.mapState Process.heap
        (collector.recordWrites mutator array first destination numbers process) =
      if process.heap.bitmap.isPublic array.address = true then
        process.heap.publishEach mutator.id
          (numbers.map fun number => process.heap.memory.load (first.inRow number))
      else .ok () process.heap := by
  induction numbers generalizing process with
  | nil =>
      split <;> rfl
  | cons number rest ih =>
      have written := heap_recordWrite publishing mutator array
        (process.heap.memory.load (first.inRow number)) (destination.inRow number) process
      simp only [recordWrites, get, getThe, Action.get_bind]
      cases ended : collector.recordWrite mutator array (destination.inRow number)
          (process.heap.memory.load (first.inRow number)) process with
      | error fault after =>
          rw [ended] at written
          rw [Action.bind_of_error ended]
          by_cases array_public : process.heap.bitmap.isPublic array.address = true
          · rw [if_pos array_public] at written ⊢
            rw [List.map_cons, ← List.singleton_append, Heap.publishEach_append, ← written]
            rfl
          · rw [if_neg array_public] at written
            cases written
      | ok _ after =>
          rw [ended] at written
          rw [Action.bind_of_ok ended, ih]
          by_cases array_public : process.heap.bitmap.isPublic array.address = true
          · rw [if_pos array_public] at written ⊢
            obtain ⟨memory_eq, public_after⟩ :=
              Heap.kept_of_publishEach written.symm array_public
            rw [List.map_cons, ← List.singleton_append, Heap.publishEach_append, ← written,
              if_pos public_after, memory_eq]
            rfl
          · rw [if_neg array_public] at written ⊢
            have heap_eq : after.heap = process.heap := (EStateM.Result.ok.inj written).2
            rw [heap_eq, if_neg array_public]

/--
A copy and the writes of its references one by one, up to the first that meets a fault, leave the
same heap, with the same counts of published objects and bytes, and end alike.
-/
theorem heap_recordCopy_eq (publishing : collector.recorder = .publishing) {count : Word}
    (source_fits : first.toNat + count.toNat * slotBytes < Word.count)
    (destination_fits : destination.toNat + count.toNat * slotBytes < Word.count)
    (mutator : Mutator) (array : ObjectRef) (process : Process Published Host) :
    Action.mapState Process.heap
        (collector.recordCopy mutator first destination count array process) =
      Action.mapState Process.heap
        (collector.recordWrites mutator array first destination (List.range count.toNat)
          process) := by
  rw [heap_recordWrites publishing, recordCopy, Process.heap_onGuarded,
    Publication.Barrier.heap_copy_of_publishing publishing source_fits destination_fits]
  rfl

private def publicArray : ObjectRef := ⟨0x1000⟩

private def firstOfPair : ObjectRef := ⟨0x1008⟩

private def secondOfPair : ObjectRef := ⟨0x1010⟩

private def foreignObject : ObjectRef := ⟨0x1018⟩

/--
A public array and a pair of objects that refer to each other, of mutator 1.  The row to be copied
holds nothing, the first of the pair twice, the array, an object of mutator 2, and the second.
-/
def mixedRow : Process Published Unit :=
  { Process.vacant {} () with
    heap.bitmap := .ofByte 1
    heap.memory.load := fun slot =>
      if slot = ⟨0x2008⟩ then firstOfPair
      else if slot = ⟨0x2010⟩ then firstOfPair
      else if slot = ⟨0x2018⟩ then publicArray
      else if slot = ⟨0x2020⟩ then foreignObject
      else if slot = ⟨0x2028⟩ then secondOfPair
      else if slot = ⟨0x3000⟩ then secondOfPair
      else if slot = ⟨0x3008⟩ then firstOfPair
      else .null
    heap.objects.slots := fun object =>
      if object = firstOfPair then [⟨0x3000⟩]
      else if object = secondOfPair then [⟨0x3008⟩]
      else []
    heap.objects.owner := fun object => if object = foreignObject then some ⟨2⟩ else some ⟨1⟩ }

/-- The copy is refused the foreign object, when the pair is public; so are the writes. -/
theorem heap_recordCopy_eq_mixedRow :
    ∃ heap : Heap Published,
      Action.mapState Process.heap
          (Collector.publishing.recordCopy ⟨⟨1⟩, ⟨11⟩⟩ ⟨0x2000⟩ ⟨0x4000⟩ 6 publicArray mixedRow) =
        .error (.publishForeign ⟨1⟩ foreignObject.text) heap ∧
      Action.mapState Process.heap
          (Collector.publishing.recordWrites ⟨⟨1⟩, ⟨11⟩⟩ publicArray ⟨0x2000⟩ ⟨0x4000⟩
            (List.range 6) mixedRow) =
        .error (.publishForeign ⟨1⟩ foreignObject.text) heap ∧
      heap.bitmap.publicCount = 3 ∧ heap.record.objects = 2 := by
  have publishing : (Collector.publishing : Collector Published Unit).recorder = .publishing := rfl
  have source_fits : (⟨0x2000⟩ : Address).toNat + (6 : Word).toNat * slotBytes < Word.count := by
    decide
  have destination_fits :
      (⟨0x4000⟩ : Address).toNat + (6 : Word).toNat * slotBytes < Word.count := by
    decide
  have same_end := heap_recordCopy_eq publishing source_fits destination_fits ⟨⟨1⟩, ⟨11⟩⟩
    publicArray mixedRow
  have stopped : Action.stop? (Action.mapState Process.heap
      (Collector.publishing.recordCopy ⟨⟨1⟩, ⟨11⟩⟩ ⟨0x2000⟩ ⟨0x4000⟩ 6 publicArray mixedRow)) =
        some (.publishForeign ⟨1⟩ foreignObject.text) := by
    decide +kernel
  have ended := Action.eq_error_of_stop? stopped
  exact ⟨_, ended, same_end.symm.trans ended, by decide +kernel, by decide +kernel⟩

end Collector

end Safepoint
