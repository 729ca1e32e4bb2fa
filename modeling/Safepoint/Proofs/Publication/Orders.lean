import Mathlib.Data.Finset.Union
import Safepoint.Proofs.Publication.Legality
import Safepoint.Proofs.Publication.Marks

/-!
# Publications in any order

What a publication finds depends on what earlier ones have made public: whatever they reached is
settled, and so is everything behind it.  Together they publish what their roots reach in the heap
as it was, and that knows no order.  `Reveals` says how two heaps differ after a set of objects
became public.  A publication from one heap reveals what its root reaches, a further one reveals
what is left of its own, and the union of what a whole run reveals is read off the first heap.
`publishAll_eq_of_perm` concludes that neither the order of the publications nor the order in which
objects report their slots makes a difference to the heap.
-/

namespace Safepoint.Publication

/-- A mutator shares what a root reaches. -/
structure Sharing where
  mutator : MutatorId
  root : ObjectRef
  deriving DecidableEq, Repr

namespace Heap

variable {heap middle after left right : Heap Published} {mutator : MutatorId}
variable {root other object : ObjectRef} {found more : Finset ObjectRef} {count total : Nat}
variable {sharing : Sharing} {sharings rest : List Sharing} {slots : ObjectRef → List Address}

/-- Publishes for one sharing after the other, and answers how many objects that were. -/
def publishAll : List Sharing → Action (Heap Published) Nat
  | [] => pure 0
  | sharing :: rest => do
      let count ← publishClosure sharing.mutator sharing.root
      let total ← publishAll rest
      return count + total

theorem publishAll_cons_ok :
    heap.publishAll (sharing :: rest) = .ok total after ↔
      ∃ count middle remaining,
        heap.publishClosure sharing.mutator sharing.root = .ok count middle ∧
          middle.publishAll rest = .ok remaining after ∧ total = count + remaining := by
  rw [publishAll]
  constructor
  · intro ended
    cases first : heap.publishClosure sharing.mutator sharing.root with
    | error fault middle =>
        rw [Action.bind_of_error first] at ended
        cases ended
    | ok count middle =>
        rw [Action.bind_of_ok first] at ended
        cases second : middle.publishAll rest with
        | error fault last =>
            rw [Action.bind_of_error second] at ended
            cases ended
        | ok remaining last =>
            rw [Action.bind_of_ok second] at ended
            cases ended
            exact ⟨count, middle, remaining, rfl, second, rfl⟩
  · rintro ⟨count, middle, remaining, first, second, rfl⟩
    rw [Action.bind_of_ok first, Action.bind_of_ok second]
    rfl

/-- How two heaps differ after the objects of a set became public and were counted. -/
structure Reveals (heap : Heap Published) (found : Finset ObjectRef) (after : Heap Published) :
    Prop where
  /-- Marks were set and nothing else was done to the bitmap. -/
  gains : heap.bitmap.Gains after.bitmap
  /-- The objects lie in the covered range. -/
  covered : ∀ object ∈ found, heap.bitmap.contains object.address = true
  /-- The granules of the objects are public now, and those that were. -/
  publicGranules_eq :
    after.bitmap.publicGranules = heap.bitmap.publicGranules ∪ heap.bitmap.home '' found
  /-- The counter of objects grew by their number. -/
  count_eq : after.record.objects = heap.record.objects + UInt64.ofNat found.card
  /-- The counter of bytes grew by their sizes. -/
  bytes_eq : after.record.bytes =
    heap.record.bytes + UInt64.ofNat (∑ object ∈ found, (heap.objects.size object).toNat)
  memory_eq : after.memory = heap.memory
  objects_eq : after.objects = heap.objects

namespace Reveals

theorem refl (heap : Heap Published) : heap.Reveals ∅ heap where
  gains := .refl
  covered := by simp
  publicGranules_eq := by simp
  count_eq := by simp
  bytes_eq := by simp
  memory_eq := rfl
  objects_eq := rfl

theorem home_eq (reveals : heap.Reveals found after) : after.bitmap.home = heap.bitmap.home :=
  funext reveals.gains.sameRange.home_eq

theorem trans (first : heap.Reveals found middle) (second : middle.Reveals more after)
    (disjoint : Disjoint found more) : heap.Reveals (found ∪ more) after where
  gains := first.gains.trans second.gains
  covered object member := by
    rcases Finset.mem_union.mp member with early | late
    · exact first.covered object early
    · rw [← first.gains.sameRange.contains_eq]
      exact second.covered object late
  publicGranules_eq := by
    rw [second.publicGranules_eq, first.publicGranules_eq, first.home_eq, Finset.coe_union,
      Set.image_union, Set.union_assoc]
  count_eq := by
    rw [second.count_eq, first.count_eq, Finset.card_union_of_disjoint disjoint,
      UInt64.ofNat_add, UInt64.add_assoc]
  bytes_eq := by
    rw [second.bytes_eq, first.bytes_eq, first.objects_eq, Finset.sum_union disjoint,
      UInt64.ofNat_add, UInt64.add_assoc]
  memory_eq := second.memory_eq.trans first.memory_eq
  objects_eq := second.objects_eq.trans first.objects_eq

/-- The heap afterwards is known by the objects that became public. -/
theorem unique (to_left : heap.Reveals found left) (to_right : heap.Reveals found right) :
    left = right := by
  have bitmap_eq : left.bitmap = right.bitmap :=
    to_left.gains.eq_of_publicGranules_eq to_right.gains
      (to_left.publicGranules_eq.trans to_right.publicGranules_eq.symm)
  have memory_eq := to_left.memory_eq.trans to_right.memory_eq.symm
  have objects_eq := to_left.objects_eq.trans to_right.objects_eq.symm
  have count_eq := to_left.count_eq.trans to_right.count_eq.symm
  have bytes_eq := to_left.bytes_eq.trans to_right.bytes_eq.symm
  obtain ⟨_, _, _, _, _⟩ := left
  obtain ⟨_, _, _, _, _⟩ := right
  cases bitmap_eq
  cases memory_eq
  cases objects_eq
  cases count_eq
  cases bytes_eq
  rfl

theorem isPublic_iff (reveals : heap.Reveals found after) :
    after.bitmap.isPublic object.address = true ↔
      heap.bitmap.isPublic object.address = true ∨
        heap.bitmap.contains object.address = true ∧
          ∃ other ∈ found, heap.bitmap.home other = heap.bitmap.home object :=
  Bitmap.isPublic_iff_of_union reveals.gains.sameRange reveals.publicGranules_eq

theorem before_of_isPrivate (reveals : heap.Reveals found after)
    (still_private : after.bitmap.IsPrivate object) :
    heap.bitmap.IsPrivate object ∧ object ∉ found := by
  obtain ⟨not_null, unmarked⟩ := still_private
  have never_public : ¬after.bitmap.isPublic object.address = true := by simp [unmarked]
  rw [reveals.isPublic_iff, not_or] at never_public
  refine ⟨⟨not_null, by simpa using never_public.1⟩, fun member => never_public.2 ?_⟩
  exact ⟨reveals.covered object member, object, member, rfl⟩

theorem isPrivate_of_before {span : Set ObjectRef} (reveals : heap.Reveals found after)
    (distinct : Set.InjOn heap.bitmap.home span) (found_subset : ↑found ⊆ span)
    (object_mem : object ∈ span) (was_private : heap.bitmap.IsPrivate object)
    (fresh : object ∉ found) : after.bitmap.IsPrivate object := by
  refine ⟨was_private.1, ?_⟩
  by_contra object_public
  rw [Bool.not_eq_false, reveals.isPublic_iff] at object_public
  rcases object_public with old | ⟨-, other, other_mem, same_home⟩
  · simp [was_private.2] at old
  · have other_eq := distinct (found_subset other_mem) object_mem same_home
    exact fresh (other_eq ▸ other_mem)

end Reveals

/-- A heap with more private objects and more references reaches more. -/
theorem Reaches.mono (reached : left.Reaches root object)
    (private_before : ∀ object, left.bitmap.IsPrivate object → right.bitmap.IsPrivate object)
    (refers : ∀ object next, Refers left.memory (left.objects.slots object) next →
      Refers right.memory (right.objects.slots object) next) : right.Reaches root object := by
  induction reached with
  | root => exact .root
  | slot _ object_private referred ih =>
      exact .slot ih (private_before _ object_private) (refers _ _ referred)

section Left

variable (reveals : heap.Reveals (heap.privateReach root) middle)

include reveals

/--
What a root reaches on its way to a private object is settled by an earlier publication, or is to be
reached still.
-/
theorem Reveals.reaches_or_mem
    (distinct : Set.InjOn heap.bitmap.home (heap.privateReach root ∪ heap.privateReach other))
    (reached : heap.Reaches other object) (object_private : heap.bitmap.IsPrivate object) :
    object ∈ heap.privateReach root ∨
      middle.Reaches other object ∧ middle.bitmap.IsPrivate object := by
  have private_after {object : ObjectRef} (reached : heap.Reaches other object)
      (object_private : heap.bitmap.IsPrivate object) (fresh : object ∉ heap.privateReach root) :
      middle.bitmap.IsPrivate object :=
    reveals.isPrivate_of_before distinct Set.subset_union_left
      (Set.mem_union_right _ (mem_privateReach.mpr ⟨reached, object_private⟩)) object_private fresh
  induction reached with
  | root =>
      by_cases settled : other ∈ heap.privateReach root
      · exact Or.inl settled
      · exact Or.inr ⟨.root, private_after .root object_private settled⟩
  | @slot parent next parent_reached parent_private referred ih =>
      by_cases settled : next ∈ heap.privateReach root
      · exact Or.inl settled
      · have next_private := private_after (.slot parent_reached parent_private referred)
          object_private settled
        rcases ih parent_private with parent_mem | ⟨parent_left, parent_left_private⟩
        · -- The earlier publication went on from the parent to the object.
          have parent_reached := (mem_privateReach.mp parent_mem).1
          exact absurd (mem_privateReach.mpr
            ⟨.slot parent_reached parent_private referred, object_private⟩) settled
        · refine Or.inr ⟨.slot parent_left parent_left_private ?_, next_private⟩
          rw [reveals.memory_eq, reveals.objects_eq]
          exact referred

/-- After a publication a root reaches what it did before, without what became public. -/
theorem Reveals.privateReach_eq
    (distinct : Set.InjOn heap.bitmap.home (heap.privateReach root ∪ heap.privateReach other)) :
    middle.privateReach other = heap.privateReach other \ heap.privateReach root := by
  ext object
  rw [Finset.mem_sdiff, mem_privateReach, mem_privateReach]
  constructor
  · rintro ⟨reached, still_private⟩
    obtain ⟨was_private, fresh⟩ := reveals.before_of_isPrivate still_private
    refine ⟨⟨reached.mono ?_ ?_, was_private⟩, fresh⟩
    · exact fun object still_private => (reveals.before_of_isPrivate still_private).1
    · rw [reveals.memory_eq, reveals.objects_eq]
      exact fun _ _ referred => referred
  · rintro ⟨⟨reached, was_private⟩, fresh⟩
    exact (reveals.reaches_or_mem distinct reached was_private).resolve_left fresh

end Left

/-- The private objects that the roots reach, whichever does. -/
noncomputable def sharedReach (heap : Heap Published) (sharings : List Sharing) :
    Finset ObjectRef :=
  sharings.toFinset.biUnion fun sharing => heap.privateReach sharing.root

theorem mem_sharedReach :
    object ∈ heap.sharedReach sharings ↔
      ∃ sharing ∈ sharings, object ∈ heap.privateReach sharing.root := by
  simp [sharedReach]

theorem sharedReach_cons :
    heap.sharedReach (sharing :: rest) =
      heap.privateReach sharing.root ∪ heap.sharedReach rest := by
  rw [sharedReach, List.toFinset_cons, Finset.biUnion_insert, sharedReach]

theorem sharedReach_perm {others : List Sharing} (perm : sharings.Perm others) :
    heap.sharedReach others = heap.sharedReach sharings := by
  rw [sharedReach, sharedReach, List.toFinset_eq_of_perm _ _ perm]

/-- After its first publication a run has the rest of what it shares before it. -/
theorem Reveals.sharedReach_eq (reveals : heap.Reveals (heap.privateReach sharing.root) middle)
    (distinct : Set.InjOn heap.bitmap.home (heap.sharedReach (sharing :: rest))) :
    middle.sharedReach rest = heap.sharedReach rest \ heap.privateReach sharing.root := by
  have left_eq : ∀ other ∈ rest,
      middle.privateReach other.root =
        heap.privateReach other.root \ heap.privateReach sharing.root := by
    intro other other_mem
    refine reveals.privateReach_eq (distinct.mono (Set.union_subset ?_ ?_))
    · exact fun object member =>
        mem_sharedReach.mpr ⟨sharing, List.mem_cons_self, member⟩
    · exact fun object member =>
        mem_sharedReach.mpr ⟨other, List.mem_cons_of_mem sharing other_mem, member⟩
  ext object
  rw [Finset.mem_sdiff, mem_sharedReach, mem_sharedReach]
  constructor
  · rintro ⟨other, other_mem, member⟩
    rw [left_eq other other_mem, Finset.mem_sdiff] at member
    exact ⟨⟨other, other_mem, member.1⟩, member.2⟩
  · rintro ⟨⟨other, other_mem, member⟩, fresh⟩
    refine ⟨other, other_mem, ?_⟩
    rw [left_eq other other_mem, Finset.mem_sdiff]
    exact ⟨member, fresh⟩

/-- A publication reveals what its root reaches and answers how many objects that are. -/
theorem reveals_of_publishClosure
    (distinct : Set.InjOn heap.bitmap.home (heap.privateReach root))
    (ended : heap.publishClosure mutator root = .ok count after) :
    heap.Reveals (heap.privateReach root) after ∧ count = (heap.privateReach root).card := by
  by_cases root_private : heap.bitmap.IsPrivate root
  · have gains := gains_publishClosure heap mutator root
    rw [ended] at gains
    obtain ⟨found, tally, walk, counts, rfl, record_eq, memory_eq, objects_eq⟩ :=
      walk_of_publishClosure root_private ended
    obtain ⟨card_eq, bytes_eq⟩ := walk.tally_eq counts distinct
    have found_eq := walk.toFinset_eq distinct
    refine ⟨⟨gains, ?_, ?_, ?_, ?_, memory_eq, objects_eq⟩, card_eq⟩
    · intro object member
      rw [← found_eq, List.mem_toFinset] at member
      exact (walk.publishes.publishable object member).1
    · rw [walk.publishes.publicGranules_eq, ← found_eq, List.coe_toFinset]
      rfl
    · rw [record_eq, card_eq]
    · rw [record_eq, bytes_eq]
  · rw [publishClosure_of_not_private root_private] at ended
    cases ended
    rw [privateReach_of_not_private root_private]
    exact ⟨.refl heap, rfl⟩

theorem distinct_first
    (distinct : Set.InjOn heap.bitmap.home (heap.sharedReach (sharing :: rest))) :
    Set.InjOn heap.bitmap.home (heap.privateReach sharing.root) := by
  rw [sharedReach_cons] at distinct
  exact distinct.mono Finset.subset_union_left

/-- So has what the rest of a run reaches when its first publication is over. -/
theorem Reveals.distinct_rest (reveals : heap.Reveals (heap.privateReach sharing.root) middle)
    (distinct : Set.InjOn heap.bitmap.home (heap.sharedReach (sharing :: rest))) :
    Set.InjOn middle.bitmap.home (middle.sharedReach rest) := by
  rw [reveals.home_eq, reveals.sharedReach_eq distinct]
  rw [sharedReach_cons] at distinct
  refine distinct.mono fun object member => ?_
  exact Finset.mem_union_right _ (Finset.mem_sdiff.mp member).1

/-- A run reveals what its roots reach in the heap at its start, and counts every object once. -/
theorem reveals_of_publishAll
    (distinct : Set.InjOn heap.bitmap.home (heap.sharedReach sharings))
    (ended : heap.publishAll sharings = .ok total after) :
    heap.Reveals (heap.sharedReach sharings) after ∧ total = (heap.sharedReach sharings).card := by
  induction sharings generalizing heap total with
  | nil =>
      cases ended
      exact ⟨.refl after, rfl⟩
  | cons sharing rest ih =>
      obtain ⟨count, middle, remaining, first, second, rfl⟩ := publishAll_cons_ok.mp ended
      obtain ⟨to_middle, count_eq⟩ := reveals_of_publishClosure (distinct_first distinct) first
      obtain ⟨to_after, remaining_eq⟩ := ih (to_middle.distinct_rest distinct) second
      rw [to_middle.sharedReach_eq distinct] at to_after remaining_eq
      have disjoint : Disjoint (heap.privateReach sharing.root)
          (heap.sharedReach rest \ heap.privateReach sharing.root) := Finset.disjoint_sdiff
      rw [sharedReach_cons, ← Finset.union_sdiff_self_eq_union]
      refine ⟨to_middle.trans to_after disjoint, ?_⟩
      rw [Finset.card_union_of_disjoint disjoint, count_eq, remaining_eq]

/-- The heap whose objects report these slots. -/
def withSlots (heap : Heap Published) (slots : ObjectRef → List Address) : Heap Published :=
  { heap with objects := { heap.objects with slots := slots } }

theorem Reveals.withSlots (reveals : heap.Reveals found after)
    (slots : ObjectRef → List Address) :
    (heap.withSlots slots).Reveals found (after.withSlots slots) where
  gains := reveals.gains
  covered := reveals.covered
  publicGranules_eq := reveals.publicGranules_eq
  count_eq := reveals.count_eq
  bytes_eq := reveals.bytes_eq
  memory_eq := reveals.memory_eq
  objects_eq :=
    congrArg (fun objects => { objects with slots := slots }) reveals.objects_eq

section Reordered

variable (reordered : ∀ object, (slots object).Perm (heap.objects.slots object))

include reordered

/-- The order of the slots makes no difference to what a root reaches. -/
theorem privateReach_withSlots :
    (heap.withSlots slots).privateReach root = heap.privateReach root := by
  have slot_mem_iff (object : ObjectRef) (slot : Address) :
      slot ∈ slots object ↔ slot ∈ heap.objects.slots object := (reordered object).mem_iff
  ext object
  rw [mem_privateReach, mem_privateReach]
  refine and_congr_left fun _ => ⟨fun reached => ?_, fun reached => ?_⟩
  · refine reached.mono (fun _ still_private => still_private) ?_
    rintro object _ ⟨slot, member, rfl⟩
    exact ⟨slot, (slot_mem_iff object slot).mp member, rfl⟩
  · refine reached.mono (fun _ still_private => still_private) ?_
    rintro object _ ⟨slot, member, rfl⟩
    exact ⟨slot, (slot_mem_iff object slot).mpr member, rfl⟩

theorem publishClosure_withSlots
    (distinct : Set.InjOn heap.bitmap.home (heap.privateReach root))
    (ended : heap.publishClosure mutator root = .ok count after) :
    (heap.withSlots slots).publishClosure mutator root = .ok count (after.withSlots slots) := by
  have reach_eq : (heap.withSlots slots).privateReach root = heap.privateReach root :=
    privateReach_withSlots reordered
  have distinct_reordered :
      Set.InjOn (heap.withSlots slots).bitmap.home ((heap.withSlots slots).privateReach root) := by
    rw [reach_eq]
    exact distinct
  obtain ⟨publishable, fits⟩ := (publishClosure_ok_iff distinct).mp ⟨count, after, ended⟩
  obtain ⟨other_count, other_after, other_ended⟩ :
      ∃ count after, (heap.withSlots slots).publishClosure mutator root = .ok count after := by
    rw [publishClosure_ok_iff distinct_reordered, reach_eq]
    exact ⟨publishable, fits⟩
  obtain ⟨reveals, rfl⟩ := reveals_of_publishClosure distinct ended
  obtain ⟨other_reveals, rfl⟩ := reveals_of_publishClosure distinct_reordered other_ended
  rw [reach_eq] at other_ended other_reveals
  rw [other_ended, other_reveals.unique (reveals.withSlots slots)]

end Reordered

/-- A run does the same whatever the order of the slots. -/
theorem publishAll_withSlots (reordered : ∀ object, (slots object).Perm (heap.objects.slots object))
    (distinct : Set.InjOn heap.bitmap.home (heap.sharedReach sharings))
    (ended : heap.publishAll sharings = .ok total after) :
    (heap.withSlots slots).publishAll sharings = .ok total (after.withSlots slots) := by
  induction sharings generalizing heap total with
  | nil =>
      cases ended
      rfl
  | cons sharing rest ih =>
      obtain ⟨count, middle, remaining, first, second, rfl⟩ := publishAll_cons_ok.mp ended
      obtain ⟨to_middle, -⟩ := reveals_of_publishClosure (distinct_first distinct) first
      have reordered_middle (object : ObjectRef) :
          (slots object).Perm (middle.objects.slots object) := by
        rw [to_middle.objects_eq]
        exact reordered object
      exact publishAll_cons_ok.mpr ⟨count, middle.withSlots slots, remaining,
        publishClosure_withSlots reordered (distinct_first distinct) first,
        ih reordered_middle (to_middle.distinct_rest distinct) second, rfl⟩

/--
Publications that all come to their end leave the same heap in any order, the counters included, and
answer the same number of objects together, also if every object reports its slots in another order.
-/
theorem publishAll_eq_of_perm {others : List Sharing} {other_total : Nat}
    {other_after : Heap Published} (perm : sharings.Perm others)
    (distinct : Set.InjOn heap.bitmap.home (heap.sharedReach sharings))
    (ended : heap.publishAll sharings = .ok total after)
    (other_ended : heap.publishAll others = .ok other_total other_after) :
    other_total = total ∧ other_after = after ∧
      ∀ slots : ObjectRef → List Address,
        (∀ object, (slots object).Perm (heap.objects.slots object)) →
        (heap.withSlots slots).publishAll others = .ok total (after.withSlots slots) := by
  have other_distinct : Set.InjOn heap.bitmap.home (heap.sharedReach others) := by
    rw [sharedReach_perm perm]
    exact distinct
  obtain ⟨reveals, total_eq⟩ := reveals_of_publishAll distinct ended
  obtain ⟨other_reveals, other_total_eq⟩ := reveals_of_publishAll other_distinct other_ended
  rw [sharedReach_perm perm] at other_reveals other_total_eq
  obtain rfl : other_total = total := other_total_eq.trans total_eq.symm
  obtain rfl : other_after = after := other_reveals.unique reveals
  exact ⟨rfl, rfl, fun slots reordered =>
    publishAll_withSlots reordered other_distinct other_ended⟩

private def stairObjects : List ObjectRef := [⟨0x1000⟩, ⟨0x1008⟩, ⟨0x1010⟩, ⟨0x1018⟩]

/--
The first object refers to the second and the third, the second to the third, and so does the
fourth, which belongs to another mutator than the first two.  The third has no owner.
-/
def stair : Heap Published :=
  { vacant {} with
    memory.load := fun slot =>
      if slot = ⟨0x2000⟩ then ⟨0x1008⟩
      else if slot = ⟨0x2008⟩ then ⟨0x1010⟩
      else if slot = ⟨0x2010⟩ then ⟨0x1010⟩
      else if slot = ⟨0x2018⟩ then ⟨0x1010⟩
      else .null
    objects.size := fun object => if object = ⟨0x1010⟩ then 24 else 8
    objects.slots := fun object =>
      if object = ⟨0x1000⟩ then [⟨0x2000⟩, ⟨0x2008⟩]
      else if object = ⟨0x1008⟩ then [⟨0x2010⟩]
      else if object = ⟨0x1018⟩ then [⟨0x2018⟩]
      else []
    objects.owner := fun object =>
      if object = ⟨0x1010⟩ then none else if object = ⟨0x1018⟩ then some ⟨2⟩ else some ⟨1⟩ }

private def fromLeft : Sharing := ⟨⟨1⟩, ⟨0x1000⟩⟩

private def fromRight : Sharing := ⟨⟨2⟩, ⟨0x1018⟩⟩

private theorem mem_stairObjects (member : object ∈ stair.sharedReach [fromLeft, fromRight]) :
    object ∈ stairObjects := by
  obtain ⟨sharing, sharing_mem, member⟩ := mem_sharedReach.mp member
  have root_mem : ∀ sharing ∈ [fromLeft, fromRight], sharing.root ∈ stairObjects := by decide
  have closed : ∀ source ∈ stairObjects, ∀ slot ∈ stair.objects.slots source,
      stair.memory.load slot ∈ stairObjects := by
    decide
  exact (mem_privateReach.mp member).1.mem_of_closed (root_mem sharing sharing_mem)
    fun source source_mem _ => closed source source_mem

/--
The first object takes the third along if it comes first, and the fourth does otherwise: the single
publications answer three and one, or two and two.
-/
theorem publishAll_eq_of_perm_stair :
    ∃ after : Heap Published,
      stair.publishAll [fromLeft, fromRight] = .ok 4 after ∧
      stair.publishAll [fromRight, fromLeft] = .ok 4 after ∧
      (stair.withSlots fun object => (stair.objects.slots object).reverse).publishAll
          [fromRight, fromLeft] =
        .ok 4 (after.withSlots fun object => (stair.objects.slots object).reverse) ∧
      after.record = ⟨4, 48⟩ := by
  have distinct : Set.InjOn stair.bitmap.home (stair.sharedReach [fromLeft, fromRight]) := by
    have homes_inj : ∀ left ∈ stairObjects, ∀ right ∈ stairObjects,
        stair.bitmap.home left = stair.bitmap.home right → left = right := by
      decide
    intro left left_mem right right_mem
    exact homes_inj left (mem_stairObjects left_mem) right (mem_stairObjects right_mem)
  have ended : stair.publishAll [fromLeft, fromRight] = .ok 4 (Action.left _) :=
    Action.eq_ok_of_value? (by decide +kernel)
  have other_ended : stair.publishAll [fromRight, fromLeft] = .ok 4 (Action.left _) :=
    Action.eq_ok_of_value? (by decide +kernel)
  obtain ⟨-, same_after, reordered_ended⟩ :=
    publishAll_eq_of_perm (.swap fromRight fromLeft []) distinct ended other_ended
  refine ⟨_, ended, same_after ▸ other_ended, ?_, by decide +kernel⟩
  exact reordered_ended _ fun object => List.reverse_perm _

end Heap

end Safepoint.Publication
