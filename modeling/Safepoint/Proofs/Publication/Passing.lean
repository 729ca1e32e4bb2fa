import Safepoint.Process
import Safepoint.Proofs.Publication.Closure

/-!
# Passing a barrier

The two modes of a barrier make the same checks, so each barrier has one equation for both.  From
the equations follows what a barrier has seen to when it lets its mutator pass: under any recorder,
it found that nothing had to be told, or its recorder answered.  The recorder that publishes answers
with publications one after another, up to the first that meets a fault.
-/

namespace Safepoint

/-- The references in `count` slots from `first` on. -/
def Memory.row (memory : Memory) (first : Address) (count : Nat) : List ObjectRef :=
  (List.range count).map fun number =>
    memory.load ⟨UInt64.ofNat (first.toNat + number * Publication.slotBytes)⟩

theorem Memory.row_succ (memory : Memory) {first next : Address} (count : Nat)
    (next_eq : next.toNat = first.toNat + Publication.slotBytes) :
    memory.row first (count + 1) = memory.load first :: memory.row next count := by
  simp only [row, List.range_succ_eq_map, List.map_cons, List.map_map, Nat.zero_mul, Nat.add_zero,
    Address.toNat, UInt64.ofNat_toNat]
  congr 1
  apply List.map_congr_left
  intro number _
  rw [Function.comp_apply, Nat.succ_mul, ← Address.toNat, ← Address.toNat, next_eq, Nat.add_assoc,
    Nat.add_comm Publication.slotBytes]

namespace Publication

variable {Record : Type}

theorem Guarded.hook_of_tell {hook : Action (Heap Record) Unit} {state after : Guarded Record}
    (passes : Guarded.tell hook state = .ok () after) : hook state.heap = .ok () after.heap := by
  unfold Guarded.tell Action.onPart Action.mapState at passes
  split at passes
  · rename_i hook_ended
    cases passes
    exact hook_ended
  · cases passes

theorem Heap.not_isPrivate_iff {heap : Heap Record} {object : ObjectRef} :
    ¬heap.bitmap.IsPrivate object ↔ object = .null ∨ heap.isPublic object = true := by
  by_cases is_null : object = .null
  · simp [Bitmap.IsPrivate, is_null]
  · simp [Bitmap.IsPrivate, isPublic, is_null]

/-- The slot stands in the row of `count` slots that starts at `first`. -/
def InRow (first : Address) (count : Nat) (slot : Address) : Prop :=
  ∃ number < count, slot.toNat = first.toNat + number * slotBytes

theorem InRow.load_mem {first slot : Address} {count : Nat} (in_row : InRow first count slot)
    (memory : Memory) : memory.load slot ∈ memory.row first count := by
  obtain ⟨number, number_lt, slot_eq⟩ := in_row
  refine List.mem_map.mpr ⟨number, List.mem_range.mpr number_lt, ?_⟩
  rw [← slot_eq, Address.toNat, UInt64.ofNat_toNat]

theorem exists_inRow {memory : Memory} {first : Address} {count : Nat} {object : ObjectRef}
    (fits : first.toNat + count * slotBytes < Word.count)
    (member : object ∈ memory.row first count) :
    ∃ slot, InRow first count slot ∧ memory.load slot = object := by
  obtain ⟨number, number_mem, load_eq⟩ := List.mem_map.mp member
  have number_lt := List.mem_range.mp number_mem
  have offset_le := Nat.mul_le_mul_right slotBytes number_lt.le
  refine ⟨_, ⟨number, number_lt, UInt64.toNat_ofNat_of_lt' ?_⟩, load_eq⟩
  exact Nat.lt_of_le_of_lt (Nat.add_le_add_left offset_le _) fits

namespace Barrier

variable (barrier : Barrier Record) (state : Guarded Record)

section Equations

variable (source target : ObjectRef) (slot first destination : Address) (count : Word)

/-- In both modes a write is counted and then checked. -/
theorem write_eq :
    barrier.write source slot target state =
      barrier.writeOutOfLine source slot target
        { state with counts := { state.counts with writes := state.counts.writes + 1 } } := by
  unfold write
  cases barrier.mode <;> rfl

theorem writeOutOfLine_eq :
    barrier.writeOutOfLine source slot target state =
      if target = .null ∨ (!state.marked source) = true then .ok () state
      else barrier.writeToPublic source slot target state := by
  simp only [writeOutOfLine, get, getThe, Action.get_bind]
  split <;> rfl

theorem writeToPublic_eq :
    barrier.writeToPublic source slot target state =
      if state.marked target = true then .ok () state
      else
        Guarded.tell (barrier.recorder.write barrier.mutator source slot target)
          { state with
            counts := { state.counts with slowPathCalls := state.counts.slowPathCalls + 1 } } := by
  simp only [writeToPublic, get, getThe, Action.get_bind]
  split <;> rfl

theorem copy_eq (array : ObjectRef) :
    barrier.copy first destination count array state =
      if count = 0 then .ok () state
      else
        barrier.copyOutOfLine first destination count array
          { state with
            counts := { state.counts with arrayCopies := state.counts.arrayCopies + 1 } } := by
  unfold copy
  cases barrier.mode <;> by_cases nothing : count = 0 <;> simp only [nothing, if_true, if_false] <;>
    rfl

theorem copyOutOfLine_eq (array : ObjectRef) :
    barrier.copyOutOfLine first destination count array state =
      if (!state.marked array) = true then .ok () state
      else barrier.copyToPublic first destination count state := by
  simp only [copyOutOfLine, get, getThe, Action.get_bind]
  split <;> rfl

theorem copyToPublic_eq :
    barrier.copyToPublic first destination count state =
      match Word.mul? count (UInt64.ofNat slotBytes) with
      | none => .error .multiplyOverflow state
      | some bytes =>
          match allPublic state.heap first count.toNat 0 with
          | .error fault => .error fault state
          | .ok true => .ok () state
          | .ok false =>
              let told : Guarded Record :=
                { state with
                  counts := { state.counts with slowPathCalls := state.counts.slowPathCalls + 1 } }
              match first.offset? bytes, destination.offset? bytes with
              | some firstPast, some destinationPast =>
                  Guarded.tell (barrier.recorder.copy barrier.mutator ⟨first, firstPast⟩
                    ⟨destination, destinationPast⟩) told
              | _, _ => .error .addOverflow told := by
  simp only [copyToPublic, get, getThe]
  cases Word.mul? count (UInt64.ofNat slotBytes) with
  | none => rfl
  | some bytes =>
      simp only [Action.orFault_some_bind, Action.get_bind]
      cases allPublic state.heap first count.toNat 0 with
      | error fault => rfl
      | ok settled =>
          cases settled with
          | true => rfl
          | false =>
              cases first.offset? bytes with
              | none => rfl
              | some firstPast => cases destination.offset? bytes <;> rfl

theorem read_eq : barrier.read target state = barrier.readOutOfLine target state := by
  unfold read
  cases barrier.mode <;> rfl

theorem readOutOfLine_eq :
    barrier.readOutOfLine target state =
      if target = .null ∨ (!state.marked target) = true then .ok () state
      else barrier.readPublic target state := by
  simp only [readOutOfLine, get, getThe, Action.get_bind]
  split <;> rfl

theorem readPublic_eq :
    barrier.readPublic target state =
      Guarded.tell (barrier.recorder.read barrier.mutator target)
        { state with
          counts := { state.counts with publicReads := state.counts.publicReads + 1 } } := rfl

theorem publish_eq :
    barrier.publish target state =
      if target = .null ∨ state.marked target = true then .ok () state
      else Guarded.tell (barrier.recorder.publish barrier.mutator target) state := by
  simp only [publish, get, getThe, Action.get_bind]
  split <;> rfl

end Equations

variable {barrier} {state} {after : Guarded Record}
variable {source target array : ObjectRef} {slot first destination : Address} {count : Word}

theorem publish_passes (passes : barrier.publish target state = .ok () after) :
    (after.heap = state.heap ∧ ¬state.heap.bitmap.IsPrivate target) ∨
      barrier.recorder.publish barrier.mutator target state.heap = .ok () after.heap := by
  rw [publish_eq] at passes
  split at passes
  · rename_i settled
    cases passes
    refine Or.inl ⟨rfl, ?_⟩
    rintro ⟨not_null, unmarked⟩
    simp [not_null, Guarded.marked, unmarked] at settled
  · exact Or.inr (Guarded.hook_of_tell passes)

/-- A write that passes needed no telling, or its recorder answered. -/
theorem write_passes (passes : barrier.write source slot target state = .ok () after) :
    (after.heap = state.heap ∧
        (state.heap.bitmap.isPublic source.address = true →
          ¬state.heap.bitmap.IsPrivate target)) ∨
      barrier.recorder.write barrier.mutator source slot target state.heap =
        .ok () after.heap := by
  rw [write_eq, writeOutOfLine_eq] at passes
  split at passes
  · rename_i no_target_or_unmarked
    cases passes
    refine Or.inl ⟨rfl, ?_⟩
    rintro source_public ⟨not_null, _⟩
    simp [not_null, Guarded.marked, source_public] at no_target_or_unmarked
  · rw [writeToPublic_eq] at passes
    split at passes
    · rename_i target_public
      cases passes
      refine Or.inl ⟨rfl, ?_⟩
      rintro - ⟨_, unmarked⟩
      simp [Guarded.marked, unmarked] at target_public
    · have answered := Guarded.hook_of_tell passes
      exact Or.inr answered

theorem settled_of_allPublic {heap : Heap Record} {slots step number : Nat}
    (settled : allPublic heap first slots step = .ok true) (step_le : step ≤ number)
    (number_lt : number < step + slots) (slot_eq : slot.toNat = first.toNat + number * slotBytes) :
    ¬heap.bitmap.IsPrivate (heap.memory.load slot) := by
  induction slots generalizing step with
  | zero => omega
  | succ slots ih =>
      rw [allPublic] at settled
      cases slot_at : first.offset? (UInt64.ofNat (step * slotBytes)) with
      | none => simp only [slot_at, reduceCtorEq] at settled
      | some found =>
          simp only [slot_at] at settled
          split at settled
          · rename_i found_settled
            by_cases same : number = step
            · subst same
              have slot_lt := slot.toNat_lt
              have number_small : number * slotBytes < Word.count := by omega
              rw [Address.offset?_eq_some_iff, UInt64.toNat_ofNat_of_lt' number_small,
                ← slot_eq, Address.toNat_inj] at slot_at
              exact slot_at ▸ Heap.not_isPrivate_iff.mpr found_settled
            · exact ih settled (by omega) (by omega)
          · cases settled

/-- A copy into a public array that passes saw no private object, or its recorder answered. -/
theorem copyToPublic_passes (passes : barrier.copyToPublic first destination count state =
      .ok () after) :
    (after.heap = state.heap ∧
        ∀ slot, InRow first count.toNat slot →
          ¬state.heap.bitmap.IsPrivate (state.heap.memory.load slot)) ∨
      ∃ firstPast destinationPast : Address,
        firstPast.toNat = first.toNat + count.toNat * slotBytes ∧
          barrier.recorder.copy barrier.mutator ⟨first, firstPast⟩ ⟨destination, destinationPast⟩
            state.heap = .ok () after.heap := by
  rw [copyToPublic_eq] at passes
  cases bytes_eq : Word.mul? count (UInt64.ofNat slotBytes) with
  | none => simp [bytes_eq] at passes
  | some bytes =>
      cases looked : allPublic state.heap first count.toNat 0 with
      | error fault => simp [bytes_eq, looked] at passes
      | ok settled =>
          cases settled with
          | true =>
              simp only [bytes_eq, looked] at passes
              cases passes
              refine Or.inl ⟨rfl, ?_⟩
              rintro slot ⟨number, number_lt, slot_eq⟩
              exact settled_of_allPublic looked (Nat.zero_le number) (by omega) slot_eq
          | false =>
              simp only [bytes_eq, looked] at passes
              cases firstPast_eq : first.offset? bytes with
              | none => simp [firstPast_eq] at passes
              | some firstPast =>
                  cases destinationPast_eq : destination.offset? bytes with
                  | none => simp [firstPast_eq, destinationPast_eq] at passes
                  | some destinationPast =>
                      simp only [firstPast_eq, destinationPast_eq] at passes
                      have answered := Guarded.hook_of_tell passes
                      refine Or.inr ⟨firstPast, destinationPast, ?_, answered⟩
                      rw [Word.mul?_eq_some_iff] at bytes_eq
                      rw [Address.offset?_eq_some_iff, ← bytes_eq] at firstPast_eq
                      exact firstPast_eq.symm

/-- A copy that passes into a public array saw no private object, or its recorder answered. -/
theorem copy_passes (passes : barrier.copy first destination count array state = .ok () after) :
    (after.heap = state.heap ∧
        (state.heap.bitmap.isPublic array.address = true →
          ∀ slot, InRow first count.toNat slot →
            ¬state.heap.bitmap.IsPrivate (state.heap.memory.load slot))) ∨
      ∃ firstPast destinationPast : Address,
        firstPast.toNat = first.toNat + count.toNat * slotBytes ∧
          barrier.recorder.copy barrier.mutator ⟨first, firstPast⟩ ⟨destination, destinationPast⟩
            state.heap = .ok () after.heap := by
  rw [copy_eq] at passes
  split at passes
  · rename_i nothing
    cases passes
    refine Or.inl ⟨rfl, ?_⟩
    rintro - slot ⟨number, number_lt, -⟩
    simp [nothing] at number_lt
  · rw [copyOutOfLine_eq] at passes
    split at passes
    · rename_i unmarked
      cases passes
      refine Or.inl ⟨rfl, ?_⟩
      intro array_public
      simp [Guarded.marked, array_public] at unmarked
    · rcases copyToPublic_passes passes with ⟨heap_eq, settled⟩ | told
      · exact Or.inl ⟨heap_eq, fun _ => settled⟩
      · exact Or.inr told

end Barrier

/-- Publishes some roots in order, up to the first publication that meets a fault. -/
def Heap.publishEach (mutator : MutatorId) : List ObjectRef → Action (Heap Published) Unit
  | [] => fun heap => .ok () heap
  | root :: roots => fun heap =>
      match heap.publishClosure mutator root with
      | .ok _ after => publishEach mutator roots after
      | .error fault after => .error fault after

theorem Heap.publishEach_cons_ok {mutator : MutatorId} {root : ObjectRef} {roots : List ObjectRef}
    {heap after : Heap Published}
    (passes : heap.publishEach mutator (root :: roots) = .ok () after) :
    ∃ found middle, heap.Completes mutator root found middle ∧
      middle.publishEach mutator roots = .ok () after := by
  cases published : heap.publishClosure mutator root with
  | error fault middle => simp [publishEach, published] at passes
  | ok count middle =>
      simp only [publishEach, published] at passes
      obtain ⟨found, completes⟩ := completes_of_publishClosure published
      exact ⟨found, middle, completes, passes⟩

theorem Heap.publishClosure_memory {mutator : MutatorId} {root : ObjectRef}
    {heap after : Heap Published} {count : Nat}
    (published : heap.publishClosure mutator root = .ok count after) :
    after.memory = heap.memory := by
  obtain ⟨_, completes⟩ := completes_of_publishClosure published
  exact completes.memory_eq

theorem Recorder.publishing_publish (mutator : MutatorId) (object : ObjectRef) :
    publishing.publish mutator object = Heap.publishEach mutator [object] := by
  funext heap
  simp only [publishing, Heap.publishEach, bind, EStateM.bind]
  cases Heap.publishClosure mutator object heap <;> rfl

theorem Recorder.publishing_write (mutator : MutatorId) (source : ObjectRef) (slot : Address)
    (target : ObjectRef) :
    publishing.write mutator source slot target = Heap.publishEach mutator [target] :=
  publishing_publish mutator target

/-- A copy publishes what its slots refer to, one after another. -/
theorem Recorder.publishCopied_eq (mutator : MutatorId) {count : Nat} {first : Address}
    {heap : Heap Published} (fits : first.toNat + count * slotBytes < Word.count) :
    publishCopied mutator count first heap =
      heap.publishEach mutator (heap.memory.row first count) := by
  induction count generalizing first heap with
  | zero => rfl
  | succ count ih =>
      rw [Nat.succ_mul] at fits
      have next_fits : first.toNat + (UInt64.ofNat slotBytes).toNat < Word.count := by
        change first.toNat + slotBytes < Word.count
        omega
      obtain ⟨next, next_at, next_eq⟩ := Address.exists_offset? next_fits
      rw [Memory.row_succ _ count next_eq]
      simp only [publishCopied, get, getThe, Action.get_bind, Heap.publishEach]
      simp only [bind, EStateM.bind]
      cases published : heap.publishClosure mutator (heap.memory.load first) with
      | error fault middle => rfl
      | ok published_count middle =>
          have rest_fits : next.toNat + count * slotBytes < Word.count := by
            rw [next_eq]
            change first.toNat + slotBytes + count * slotBytes < Word.count
            omega
          simp only [next_at, Action.orFault]
          rw [← Heap.publishClosure_memory published]
          exact ih rest_fits

/-- The recorder answers a copy by publishing what the copied slots refer to. -/
theorem Recorder.publishing_copy {mutator : MutatorId} {first firstPast : Address}
    {destination : AddressRange} {count : Nat} {heap : Heap Published}
    (firstPast_eq : firstPast.toNat = first.toNat + count * slotBytes) :
    publishing.copy mutator ⟨first, firstPast⟩ destination heap =
      heap.publishEach mutator (heap.memory.row first count) := by
  have slots_eq : (firstPast.toNat - first.toNat + (slotBytes - 1)) / slotBytes = count := by
    rw [firstPast_eq, slotBytes]
    omega
  have fits : first.toNat + count * slotBytes < Word.count := firstPast_eq ▸ firstPast.toNat_lt
  rw [← publishCopied_eq mutator fits, ← slots_eq]
  rfl

end Publication

theorem Process.onGuarded_passes {Record Host Value : Type} {mutator : MutatorId}
    {action : Action (Publication.Guarded Record) Value} {before after : Process Record Host}
    {value : Value} (passes : Process.onGuarded mutator action before = .ok value after) :
    ∃ guarded, action ⟨before.heap, before.counts mutator⟩ = .ok value guarded ∧
      guarded.heap = after.heap := by
  unfold onGuarded Action.onPart Action.mapState at passes
  split at passes
  · rename_i found guarded ends
    cases passes
    exact ⟨guarded, ends, rfl⟩
  · cases passes

end Safepoint
