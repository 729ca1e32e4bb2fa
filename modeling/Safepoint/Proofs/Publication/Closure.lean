import Mathlib.Algebra.BigOperators.Group.Finset.Basic
import Mathlib.Algebra.Order.BigOperators.Group.Finset
import Mathlib.Data.Set.Finite.Basic
import Mathlib.Data.Fintype.Card
import Safepoint.Proofs.Publication.Publishes
import Safepoint.Proofs.Vacant

/-!
# Publishing everything that a root reaches

The walk over the objects still to be scanned uses the bitmap as its set of visited objects, while
reachability is a matter of the heap as it was when the walk began.  `Walk` is the invariant that
ties the two together: what is marked so far is reached, and the slots of whatever left the waiting
list refer to no private object.  When nothing waits, the marked objects are all that the root
reaches, and `publishClosure_exact` says what a publication answers, marks and counts.
-/

namespace Safepoint.Publication

/-- The sum of the sizes of some objects. -/
def totalSize (objects : ObjectModel) (found : List ObjectRef) : Nat :=
  found.foldr (fun object total => (objects.size object).toNat + total) 0

theorem totalSize_cons (objects : ObjectModel) (object : ObjectRef) (found : List ObjectRef) :
    totalSize objects (object :: found) = (objects.size object).toNat + totalSize objects found :=
  rfl

theorem totalSize_append (objects : ObjectModel) (first second : List ObjectRef) :
    totalSize objects (first ++ second) = totalSize objects first + totalSize objects second := by
  induction first with
  | nil => exact (Nat.zero_add _).symm
  | cons object first ih => rw [List.cons_append, totalSize_cons, totalSize_cons, ih, Nat.add_assoc]

/-- A tally counts some objects and their bytes. -/
structure Tally.Counts (objects : ObjectModel) (found : List ObjectRef) (tally : Tally) :
    Prop where
  /-- The number of the objects. -/
  objects_eq : tally.objects = found.length
  /-- The sum of their sizes, which fits a word. -/
  bytes_eq : tally.bytes.toNat = totalSize objects found

theorem ObjectModel.mayPublish_iff {objects : ObjectModel} {mutator : MutatorId}
    {object : ObjectRef} :
    objects.mayPublish mutator object = true ↔
      objects.owner object = none ∨ objects.owner object = some mutator := by
  unfold ObjectModel.mayPublish
  split <;> simp_all

namespace Heap

variable {Record : Type}

/-- The reference is `root`, or a slot of a private object that `root` reaches holds it. -/
inductive Reaches (heap : Heap Record) (root : ObjectRef) : ObjectRef → Prop where
  /-- The root is reached. -/
  | root : Reaches heap root root
  /-- What a slot of a reached private object holds is reached. -/
  | slot {object next : ObjectRef} (reached : Reaches heap root object)
      (object_private : heap.bitmap.IsPrivate object)
      (referred : Refers heap.memory (heap.objects.slots object) next) : Reaches heap root next

/--
A walk from `root` is under way: since its start the objects in `waiting` and `done` became public,
and those in `done` were scanned.
-/
structure Walk (heap : Heap Record) (mutator : MutatorId) (root : ObjectRef)
    (done waiting : List ObjectRef) (bitmap : Bitmap) : Prop where
  /-- These objects became public, and no others. -/
  publishes : Publishes heap.objects mutator heap.bitmap (waiting ++ done) bitmap
  /-- The root is one of them. -/
  root_mem : root ∈ waiting ++ done
  /-- The root reaches them. -/
  reached : ∀ object ∈ waiting ++ done, heap.Reaches root object
  /-- No slot of a scanned object refers to a private one. -/
  scanned : ∀ object ∈ done, ∀ next,
    Refers heap.memory (heap.objects.slots object) next → ¬bitmap.IsPrivate next

/-- How a walk from a private root ends. -/
inductive WalkEnd (heap : Heap Record) (mutator : MutatorId) (root : ObjectRef) :
    Ending Bitmap Tally → Prop where
  /-- Everything that became public is scanned and counted. -/
  | finished {found : List ObjectRef} {after : Bitmap} {tally : Tally}
      (walk : Walk heap mutator root found [] after)
      (counts : tally.Counts heap.objects found) : WalkEnd heap mutator root (.ok tally after)
  /-- The walk met a private object that the mutator may not make public. -/
  | refused {found : List ObjectRef} {after : Bitmap} {object : ObjectRef}
      (publishes : Publishes heap.objects mutator heap.bitmap found after)
      (reached : ∀ other ∈ found, heap.Reaches root other)
      (object_reached : heap.Reaches root object) (object_private : after.IsPrivate object)
      (not_publishable : ¬after.Publishable heap.objects mutator object)
      (root_mem : root ∈ found ∨ object = root) :
      WalkEnd heap mutator root (.error (refusal after heap.objects mutator object) after)
  /-- The sizes of the objects do not fit a word. -/
  | overflowed {found : List ObjectRef} {after : Bitmap}
      (publishes : Publishes heap.objects mutator heap.bitmap found after)
      (reached : ∀ other ∈ found, heap.Reaches root other)
      (size_ge : Word.count ≤ totalSize heap.objects found) :
      WalkEnd heap mutator root (.error .addOverflow after)

namespace Walk

variable {heap : Heap Record} {mutator : MutatorId} {root object : ObjectRef}
variable {done waiting fresh : List ObjectRef} {before after : Bitmap}

/-- A walk that begins at a private root which the mutator may make public. -/
theorem start (root_private : heap.bitmap.IsPrivate root)
    (publishable : heap.bitmap.Publishable heap.objects mutator root)
    (covered : heap.bitmap.Covers root.address.toNat) :
    Walk heap mutator root [] [root] (heap.bitmap.setMark root.address.toNat covered) where
  publishes := (Publishes.nil heap.bitmap).cons root_private publishable covered
  root_mem := List.mem_singleton_self root
  reached object member := by
    rw [List.append_nil, List.mem_singleton] at member
    exact member ▸ .root
  scanned := by simp

theorem head_reached (walk : Walk heap mutator root done (object :: waiting) before) :
    heap.Reaches root object ∧ heap.bitmap.IsPrivate object :=
  ⟨walk.reached object (by simp), walk.publishes.wasPrivate object (by simp)⟩

theorem reached_of_referred (walk : Walk heap mutator root done (object :: waiting) before)
    {next : ObjectRef} (referred : Refers heap.memory (heap.objects.slots object) next) :
    heap.Reaches root next :=
  .slot walk.head_reached.1 walk.head_reached.2 referred

theorem reached_append (walk : Walk heap mutator root done (object :: waiting) before)
    (referred : ∀ next ∈ fresh, Refers heap.memory (heap.objects.slots object) next) :
    ∀ next ∈ fresh ++ (object :: waiting ++ done), heap.Reaches root next := by
  intro next member
  rcases List.mem_append.mp member with new | old
  · exact walk.reached_of_referred (referred next new)
  · exact walk.reached next old

/-- Scanning the next waiting object keeps the walk under way. -/
theorem scan (walk : Walk heap mutator root done (object :: waiting) before)
    (publishes : Publishes heap.objects mutator heap.bitmap
      (fresh ++ (object :: waiting ++ done)) after)
    (referred : ∀ next ∈ fresh, Refers heap.memory (heap.objects.slots object) next)
    (settled : ∀ next, Refers heap.memory (heap.objects.slots object) next →
      ¬after.IsPrivate next) :
    Walk heap mutator root (object :: done) (fresh ++ waiting) after := by
  have same : (fresh ++ (object :: waiting ++ done)).Perm
      (fresh ++ waiting ++ object :: done) := by
    rw [List.append_assoc]
    exact (List.perm_middle.symm).append_left fresh
  refine ⟨publishes.of_perm same, ?_, ?_, ?_⟩
  · exact same.mem_iff.mp (List.mem_append_right fresh walk.root_mem)
  · intro next member
    exact walk.reached_append referred next (same.mem_iff.mpr member)
  · intro other member next next_referred next_private
    rcases List.mem_cons.mp member with rfl | scanned_before
    · exact settled next next_referred next_private
    · exact walk.scanned other scanned_before next next_referred
        (walk.publishes.isPrivate_of_subset publishes (List.subset_append_right fresh _)
          next_private)

end Walk

/-- A walk under way ends in one of three ways, whatever the heap. -/
theorem scanWaiting_end {heap : Heap Record} {mutator : MutatorId} {root : ObjectRef}
    {done waiting : List ObjectRef} {tally : Tally} {bitmap : Bitmap}
    (walk : Walk heap mutator root done waiting bitmap)
    (counts : tally.Counts heap.objects done) :
    WalkEnd heap mutator root
      (scanWaiting heap.memory heap.objects mutator waiting tally bitmap) := by
  fun_induction scanWaiting heap.memory heap.objects mutator waiting tally bitmap
    generalizing done with
  | case1 tally bitmap => exact .finished walk counts
  | case2 tally bitmap object waiting overflows =>
      refine .overflowed walk.publishes walk.reached ?_
      rw [Word.add?_eq_none_iff, counts.bytes_eq] at overflows
      rw [totalSize_append, totalSize_cons]
      omega
  | case3 tally bitmap object waiting bytes sum_eq reached after scanned ih =>
      rw [Word.add?_eq_some_iff, counts.bytes_eq] at sum_eq
      have ends := publishSlots_end heap.memory (heap.objects.slots object) waiting walk.publishes
      rw [scanned] at ends
      cases ends with
      | finished fresh publishes referred settled =>
          refine ih (walk.scan publishes referred settled) ⟨?_, ?_⟩
          · rw [counts.objects_eq, List.length_cons]
          · rw [← sum_eq, Nat.add_comm, totalSize_cons]
  | case4 tally bitmap object waiting bytes sum_eq fault after scanned =>
      have ends := publishSlots_end heap.memory (heap.objects.slots object) waiting walk.publishes
      rw [scanned] at ends
      cases ends with
      | refused fresh publishes referred object_referred object_private not_publishable =>
          exact .refused publishes (walk.reached_append referred)
            (walk.reached_of_referred object_referred) object_private not_publishable
            (Or.inl (List.mem_append_right fresh walk.root_mem))

/-- A publication of a private root is a walk from it, unless the root is refused at once. -/
theorem publishReach_end {heap : Heap Record} (mutator : MutatorId) {root : ObjectRef}
    (root_private : heap.bitmap.IsPrivate root) :
    WalkEnd heap mutator root
      (publishReach heap.memory heap.objects mutator root heap.bitmap) := by
  by_cases publishable : heap.bitmap.Publishable heap.objects mutator root
  · obtain ⟨covered, marked⟩ := publishOne_of_private root_private publishable
    simp only [publishReach, marked]
    exact scanWaiting_end (.start root_private publishable covered) ⟨rfl, rfl⟩
  · simp only [publishReach, publishOne_of_refused root_private publishable]
    exact .refused (.nil heap.bitmap) (by simp) .root root_private publishable (Or.inr rfl)

theorem publishClosure_of_not_private {heap : Heap Published} {mutator : MutatorId}
    {root : ObjectRef} (settled : ¬heap.bitmap.IsPrivate root) :
    heap.publishClosure mutator root = .ok 0 heap := by
  simp [publishClosure, publishReach, publishOne_of_not_private settled]

/-- A publication that comes to its end has walked over everything private that the root reaches. -/
theorem walk_of_publishClosure {heap after : Heap Published} {mutator : MutatorId}
    {root : ObjectRef} {count : Nat} (root_private : heap.bitmap.IsPrivate root)
    (ended : heap.publishClosure mutator root = .ok count after) :
    ∃ found tally, Walk heap mutator root found [] after.bitmap ∧
      Tally.Counts heap.objects found tally ∧ count = tally.objects ∧
      after.record =
        { objects := heap.record.objects + UInt64.ofNat tally.objects
          bytes := heap.record.bytes + tally.bytes } ∧
      after.memory = heap.memory ∧ after.objects = heap.objects := by
  have ends := publishReach_end mutator root_private
  generalize reach_eq :
    publishReach heap.memory heap.objects mutator root heap.bitmap = ending at ends
  simp only [publishClosure, reach_eq] at ended
  cases ends with
  | @finished found bitmap tally walk counts =>
      cases ended
      exact ⟨found, tally, walk, counts, rfl, rfl, rfl, rfl⟩
  | refused => cases ended
  | overflowed => cases ended

/-- What a publication that came to its end has done: `found` became public. -/
structure Completes (heap : Heap Published) (mutator : MutatorId) (root : ObjectRef)
    (found : List ObjectRef) (after : Heap Published) : Prop where
  publishes : Publishes heap.objects mutator heap.bitmap found after.bitmap
  reached : ∀ object ∈ found, heap.Reaches root object
  /-- No slot of an object that became public refers to a private one. -/
  scanned : ∀ object ∈ found, ∀ next,
    Refers heap.memory (heap.objects.slots object) next → ¬after.bitmap.IsPrivate next
  root_settled : ¬after.bitmap.IsPrivate root
  memory_eq : after.memory = heap.memory
  objects_eq : after.objects = heap.objects

theorem completes_of_publishClosure {heap after : Heap Published} {mutator : MutatorId}
    {root : ObjectRef} {count : Nat} (ended : heap.publishClosure mutator root = .ok count after) :
    ∃ found, heap.Completes mutator root found after := by
  by_cases root_private : heap.bitmap.IsPrivate root
  · obtain ⟨found, tally, walk, -, -, -, memory_eq, objects_eq⟩ :=
      walk_of_publishClosure root_private ended
    exact ⟨found, walk.publishes, walk.reached, walk.scanned,
      walk.publishes.not_isPrivate_of_mem walk.root_mem, memory_eq, objects_eq⟩
  · rw [publishClosure_of_not_private root_private] at ended
    cases ended
    exact ⟨[], .nil _, by simp, by simp, root_private, rfl, rfl⟩

/-! ## What a root reaches -/

instance : Finite ObjectRef :=
  Finite.of_injective (fun object => object.word.toFin) fun _ _ same =>
    congrArg ObjectRef.mk (UInt64.toFin_inj.mp same)

/-- The private objects that a root reaches through slots of private objects. -/
noncomputable def privateReach (heap : Heap Record) (root : ObjectRef) : Finset ObjectRef :=
  (Set.toFinite {object | heap.Reaches root object ∧ heap.bitmap.IsPrivate object}).toFinset

variable {heap : Heap Record} {mutator : MutatorId} {root object : ObjectRef}

theorem mem_privateReach :
    object ∈ heap.privateReach root ↔
      heap.Reaches root object ∧ heap.bitmap.IsPrivate object := by
  simp [privateReach]

theorem privateReach_of_not_private (settled : ¬heap.bitmap.IsPrivate root) :
    heap.privateReach root = ∅ := by
  have only_root {object : ObjectRef} (reached : heap.Reaches root object) : object = root := by
    induction reached with
    | root => rfl
    | slot _ object_private _ ih => exact absurd (ih ▸ object_private) settled
  rw [Finset.eq_empty_iff_forall_notMem]
  intro object member
  obtain ⟨reached, object_private⟩ := mem_privateReach.mp member
  exact settled (only_root reached ▸ object_private)

/-- Whatever contains a root and what slots of its private members hold contains all it reaches. -/
theorem Reaches.mem_of_closed {listed : List ObjectRef} (reached : heap.Reaches root object)
    (root_mem : root ∈ listed)
    (closed : ∀ source ∈ listed, heap.bitmap.IsPrivate source →
      ∀ slot ∈ heap.objects.slots source, heap.memory.load slot ∈ listed) : object ∈ listed := by
  induction reached with
  | root => exact root_mem
  | slot _ source_private referred ih =>
      obtain ⟨slot, slot_mem, rfl⟩ := referred
      exact closed _ ih source_private slot slot_mem

variable {found : List ObjectRef} {bitmap : Bitmap}

theorem toFinset_subset_privateReach
    (publishes : Publishes heap.objects mutator heap.bitmap found bitmap)
    (reached : ∀ object ∈ found, heap.Reaches root object) :
    found.toFinset ⊆ heap.privateReach root := by
  intro object member
  rw [List.mem_toFinset] at member
  exact mem_privateReach.mpr ⟨reached object member, publishes.wasPrivate object member⟩

/-- A walk that has ended met every private object that the root reaches. -/
theorem Walk.mem_of_mem_privateReach (walk : Walk heap mutator root found [] bitmap)
    (distinct : Set.InjOn heap.bitmap.home (heap.privateReach root))
    (member : object ∈ heap.privateReach root) : object ∈ found := by
  have found_subset := toFinset_subset_privateReach walk.publishes walk.reached
  obtain ⟨reached, object_private⟩ := mem_privateReach.mp member
  induction reached with
  | root => exact walk.root_mem
  | @slot object next reached parent_private referred ih =>
      have parent_mem := ih (mem_privateReach.mpr ⟨reached, parent_private⟩) parent_private
      have settled := walk.scanned object parent_mem next referred
      have public_after : bitmap.isPublic next.address = true := by
        simpa [Bitmap.IsPrivate, object_private.1] using settled
      rcases walk.publishes.isPublic_iff.mp public_after with old | ⟨_, other, other_mem, same_home⟩
      · simp [object_private.2] at old
      · have other_member := found_subset (List.mem_toFinset.mpr other_mem)
        exact distinct other_member member same_home ▸ other_mem

/-- A walk that has ended found the private objects that the root reaches. -/
theorem Walk.toFinset_eq (walk : Walk heap mutator root found [] bitmap)
    (distinct : Set.InjOn heap.bitmap.home (heap.privateReach root)) :
    found.toFinset = heap.privateReach root := by
  apply Finset.Subset.antisymm
  · exact toFinset_subset_privateReach walk.publishes walk.reached
  · intro object member
    exact List.mem_toFinset.mpr (walk.mem_of_mem_privateReach distinct member)

theorem totalSize_eq_sum (objects : ObjectModel) (found_nodup : found.Nodup) :
    totalSize objects found = ∑ object ∈ found.toFinset, (objects.size object).toNat := by
  induction found with
  | nil => rfl
  | cons object found ih =>
      obtain ⟨fresh, rest_nodup⟩ := List.nodup_cons.mp found_nodup
      rw [totalSize_cons, List.toFinset_cons, Finset.sum_insert (by simpa using fresh),
        ih rest_nodup]

theorem Walk.tally_eq {tally : Tally} (walk : Walk heap mutator root found [] bitmap)
    (counts : tally.Counts heap.objects found)
    (distinct : Set.InjOn heap.bitmap.home (heap.privateReach root)) :
    tally.objects = (heap.privateReach root).card ∧
      tally.bytes =
        UInt64.ofNat (∑ object ∈ heap.privateReach root, (heap.objects.size object).toNat) := by
  have found_eq := walk.toFinset_eq distinct
  have found_nodup : found.Nodup := walk.publishes.nodup
  constructor
  · rw [counts.objects_eq, ← found_eq, List.toFinset_card_of_nodup found_nodup]
  · rw [← found_eq, ← totalSize_eq_sum _ found_nodup, ← counts.bytes_eq, UInt64.ofNat_toNat]

/--
A publication that meets nothing it may not publish makes public exactly what the root reaches, and
counts it; publishing the same root again finds nothing to do.
-/
theorem publishClosure_exact {heap : Heap Published}
    (covered : ∀ object ∈ heap.privateReach root, heap.bitmap.contains object.address = true)
    (permitted : ∀ object ∈ heap.privateReach root,
      heap.objects.owner object = none ∨ heap.objects.owner object = some mutator)
    (distinct : Set.InjOn heap.bitmap.home (heap.privateReach root))
    (fits : ∑ object ∈ heap.privateReach root, (heap.objects.size object).toNat < Word.count) :
    ∃ after : Heap Published,
      heap.publishClosure mutator root = .ok (heap.privateReach root).card after ∧
      heap.bitmap.SameRange after.bitmap ∧
      after.bitmap.publicGranules =
        heap.bitmap.publicGranules ∪ heap.bitmap.home '' heap.privateReach root ∧
      after.record.objects = heap.record.objects + UInt64.ofNat (heap.privateReach root).card ∧
      after.record.bytes = heap.record.bytes +
        UInt64.ofNat (∑ object ∈ heap.privateReach root, (heap.objects.size object).toNat) ∧
      after.memory = heap.memory ∧ after.objects = heap.objects ∧
      after.publishClosure mutator root = .ok 0 after := by
  by_cases root_private : heap.bitmap.IsPrivate root
  · have ends := publishReach_end mutator root_private
    generalize reach_eq :
      publishReach heap.memory heap.objects mutator root heap.bitmap = ending at ends
    cases ends with
    | @finished found bitmap tally walk counts =>
        obtain ⟨card_eq, bytes_eq⟩ := walk.tally_eq counts distinct
        have published : heap.publishClosure mutator root =
            .ok (heap.privateReach root).card
              { heap with
                bitmap := bitmap
                record :=
                  { objects := heap.record.objects + UInt64.ofNat (heap.privateReach root).card
                    bytes := heap.record.bytes + tally.bytes } } := by
          simp only [publishClosure, reach_eq, card_eq]
        refine ⟨_, published, walk.publishes.sameRange, ?_, rfl, by rw [bytes_eq], rfl, rfl, ?_⟩
        · rw [walk.publishes.publicGranules_eq, ← walk.toFinset_eq distinct, List.coe_toFinset]
          rfl
        · exact publishClosure_of_not_private
            (walk.publishes.not_isPrivate_of_mem walk.root_mem)
    | refused publishes reached object_reached object_private not_publishable =>
        have member := mem_privateReach.mpr
          ⟨object_reached, publishes.isPrivate_before object_private⟩
        refine absurd ?_ not_publishable
        exact publishes.sameRange.publishable_iff.mpr
          ⟨covered _ member, ObjectModel.mayPublish_iff.mpr (permitted _ member)⟩
    | overflowed publishes reached size_ge =>
        have found_subset := toFinset_subset_privateReach publishes reached
        rw [totalSize_eq_sum _ publishes.nodup] at size_ge
        have sum_le := Finset.sum_le_sum_of_subset found_subset
          (f := fun object => (heap.objects.size object).toNat)
        omega
  · have nothing := privateReach_of_not_private root_private
    refine ⟨heap, ?_, .refl _, ?_, ?_, ?_, rfl, rfl, publishClosure_of_not_private root_private⟩
    · rw [nothing, Finset.card_empty, publishClosure_of_not_private root_private]
    · simp [nothing]
    · simp [nothing]
    · simp [nothing]

/-- The object that starts in the granule with the given number, of eight bytes each. -/
private def inGranule (number : Word) : ObjectRef := ⟨8 * number⟩

/--
Two objects that refer to each other.  The first refers to itself and to nothing, too, and the
second to a public object, which refers to a private one.
-/
def ring : Heap Published :=
  { vacant {} with
    bitmap := .ofByte 4
    memory.load := fun slot =>
      if slot = ⟨0x2000⟩ then inGranule 513
      else if slot = ⟨0x2010⟩ then inGranule 512
      else if slot = ⟨0x2018⟩ then inGranule 512
      else if slot = ⟨0x2020⟩ then inGranule 514
      else if slot = ⟨0x2028⟩ then inGranule 515
      else .null
    objects.size := fun object => if object = inGranule 512 then 24 else 16
    objects.slots := fun object =>
      if object = inGranule 512 then [⟨0x2000⟩, ⟨0x2008⟩, ⟨0x2010⟩]
      else if object = inGranule 513 then [⟨0x2018⟩, ⟨0x2020⟩]
      else if object = inGranule 514 then [⟨0x2028⟩]
      else []
    objects.owner := fun object =>
      if object = inGranule 512 then some ⟨7⟩
      else if object = inGranule 514 then some ⟨9⟩
      else none }

private theorem ring_reaches {object : ObjectRef} (reached : ring.Reaches (inGranule 512) object) :
    object ∈ [inGranule 512, inGranule 513, inGranule 514, .null] := by
  have closed : ∀ source ∈ [inGranule 512, inGranule 513, inGranule 514, .null],
      ring.bitmap.IsPrivate source → ∀ slot ∈ ring.objects.slots source,
        ring.memory.load slot ∈ [inGranule 512, inGranule 513, inGranule 514, .null] := by
    decide
  exact reached.mem_of_closed List.mem_cons_self closed

theorem ring_privateReach : ring.privateReach (inGranule 512) = {inGranule 512, inGranule 513} := by
  ext object
  rw [mem_privateReach, Finset.mem_insert, Finset.mem_singleton]
  constructor
  · rintro ⟨reached, object_private⟩
    have listed := ring_reaches reached
    simp only [List.mem_cons, List.not_mem_nil, or_false] at listed
    rcases listed with first | second | rfl | rfl
    · exact Or.inl first
    · exact Or.inr second
    · exact absurd object_private (by decide)
    · exact absurd object_private (by decide)
  · rintro (rfl | rfl)
    · exact ⟨.root, by decide⟩
    · exact ⟨.slot .root (by decide) ⟨⟨0x2000⟩, by decide, by decide⟩, by decide⟩

/-- Publishing the first object of the ring publishes the second and leaves the rest as it was. -/
theorem publishClosure_exact_ring :
    ∃ after : Heap Published,
      ring.publishClosure ⟨7⟩ (inGranule 512) = .ok 2 after ∧
      after.bitmap.publicGranules = ring.bitmap.publicGranules ∪ {512, 513} ∧
      after.record.objects = 2 ∧ after.record.bytes = 40 ∧
      after.publishClosure ⟨7⟩ (inGranule 512) = .ok 0 after := by
  have covered : ∀ object ∈ ring.privateReach (inGranule 512),
      ring.bitmap.contains object.address = true := by
    rw [ring_privateReach]
    decide
  have permitted : ∀ object ∈ ring.privateReach (inGranule 512),
      ring.objects.owner object = none ∨ ring.objects.owner object = some ⟨7⟩ := by
    rw [ring_privateReach]
    decide
  have distinct : Set.InjOn ring.bitmap.home (ring.privateReach (inGranule 512)) := by
    rw [ring_privateReach, Finset.coe_pair, Set.injOn_pair]
    decide
  have fits : ∑ object ∈ ring.privateReach (inGranule 512), (ring.objects.size object).toNat <
      Word.count := by
    rw [ring_privateReach]
    decide
  obtain ⟨after, published, -, granules_eq, objects_eq, bytes_eq, -, -, again⟩ :=
    publishClosure_exact covered permitted distinct fits
  rw [ring_privateReach] at published granules_eq objects_eq bytes_eq
  refine ⟨after, published, ?_, objects_eq, bytes_eq, again⟩
  rw [granules_eq, Finset.coe_pair, Set.image_pair]
  rfl

end Heap

end Safepoint.Publication
