import Mathlib.Data.List.Nodup
import Mathlib.Data.Set.Image
import Safepoint.Proofs.Publication.Granules
import Safepoint.Publication.Publisher

/-!
# What publishing does to a bitmap

Publishing an object has three outcomes, told apart by two questions about the object: whether it is
private, and whether the mutator may make it public.  This file answers what one object, and what
the slots of one object, leave behind.  The central definition, `Publishes`, says how two bitmaps
differ after a list of objects became public; it holds step by step, also up to the object that was
refused.
-/

namespace Safepoint.Publication

namespace Bitmap

/-- The reference is to an object that is not public. -/
def IsPrivate (bitmap : Bitmap) (object : ObjectRef) : Prop :=
  object ≠ .null ∧ bitmap.isPublic object.address = false

instance (bitmap : Bitmap) (object : ObjectRef) : Decidable (bitmap.IsPrivate object) :=
  inferInstanceAs (Decidable (_ ∧ _))

/-- Number of the granule in which an object starts. -/
def home (bitmap : Bitmap) (object : ObjectRef) : Nat := bitmap.granuleOf object.address.toNat

/-- A mutator may make the object public: it is covered, and no other mutator owns it. -/
def Publishable (bitmap : Bitmap) (objects : ObjectModel) (mutator : MutatorId)
    (object : ObjectRef) : Prop :=
  bitmap.contains object.address = true ∧ objects.mayPublish mutator object = true

instance (bitmap : Bitmap) (objects : ObjectModel) (mutator : MutatorId) (object : ObjectRef) :
    Decidable (bitmap.Publishable objects mutator object) :=
  inferInstanceAs (Decidable (_ ∧ _))

theorem SameRange.home_eq {left right : Bitmap} (same : SameRange left right)
    (object : ObjectRef) : right.home object = left.home object :=
  same.granuleOf_eq object.address.toNat

theorem SameRange.publishable_iff {left right : Bitmap} (same : SameRange left right)
    {objects : ObjectModel} {mutator : MutatorId} {object : ObjectRef} :
    right.Publishable objects mutator object ↔ left.Publishable objects mutator object := by
  rw [Publishable, Publishable, same.contains_eq]

theorem isPublic_iff_of_union {before after : Bitmap} {span : Set ObjectRef} {address : Address}
    (same : SameRange before after)
    (granules_eq : after.publicGranules = before.publicGranules ∪ before.home '' span) :
    after.isPublic address = true ↔
      before.isPublic address = true ∨
        before.contains address = true ∧
          ∃ object ∈ span, before.home object = before.granuleOf address.toNat := by
  rw [isPublic_iff, isPublic_iff, granules_eq, same.contains_eq, same.granuleOf_eq,
    Set.mem_union, Set.mem_image, and_or_left]

end Bitmap

/-- The fault of publishing a private object that the mutator may not make public. -/
def refusal (bitmap : Bitmap) (objects : ObjectModel) (mutator : MutatorId)
    (object : ObjectRef) : Fault :=
  if bitmap.contains object.address then .publishForeign mutator (objects.describe object)
  else .publishOutside mutator object

section PublishOne

variable {objects : ObjectModel} {mutator : MutatorId} {object : ObjectRef} {bitmap : Bitmap}

theorem publishOne_of_not_private (settled : ¬bitmap.IsPrivate object) :
    publishOne objects mutator object bitmap = .ok false bitmap := by
  by_cases is_null : object = .null
  · rw [publishOne, if_pos is_null]
  · have object_public : bitmap.isPublic object.address = true := by
      simpa [Bitmap.IsPrivate, is_null] using settled
    have covered := (Bitmap.isPublic_iff.mp object_public).1
    rw [publishOne, if_neg is_null, if_pos covered, if_pos object_public]

theorem publishOne_of_private (object_private : bitmap.IsPrivate object)
    (publishable : bitmap.Publishable objects mutator object) :
    ∃ covered : bitmap.Covers object.address.toNat,
      publishOne objects mutator object bitmap =
        .ok true (bitmap.setMark object.address.toNat covered) := by
  obtain ⟨not_null, unmarked⟩ := object_private
  obtain ⟨contained, permitted⟩ := publishable
  have covered : bitmap.Covers object.address.toNat := by
    simpa [Bitmap.contains] using contained
  have place_unmarked : bitmap.marked object.address.toNat = false := unmarked
  refine ⟨covered, ?_⟩
  rw [publishOne, if_neg not_null, if_pos contained, if_neg (by simp [unmarked]), if_pos permitted]
  simp [Bitmap.markPublic, covered, place_unmarked]

/-- A private object that the mutator may not make public is refused, and nothing changes. -/
theorem publishOne_of_refused (object_private : bitmap.IsPrivate object)
    (refused : ¬bitmap.Publishable objects mutator object) :
    publishOne objects mutator object bitmap =
      .error (refusal bitmap objects mutator object) bitmap := by
  obtain ⟨not_null, unmarked⟩ := object_private
  rw [publishOne, if_neg not_null]
  by_cases contained : bitmap.contains object.address = true
  · have foreign : ¬objects.mayPublish mutator object = true :=
      fun permitted => refused ⟨contained, permitted⟩
    rw [if_pos contained, if_neg (by simp [unmarked]), if_neg foreign, refusal, if_pos contained]
  · rw [if_neg contained, refusal, if_neg contained]

end PublishOne

/-- How two bitmaps differ after `found` became public for a mutator, and nothing else did. -/
structure Publishes (objects : ObjectModel) (mutator : MutatorId) (before : Bitmap)
    (found : List ObjectRef) (after : Bitmap) : Prop where
  /-- The covered range stays. -/
  sameRange : before.SameRange after
  /-- The granules of the objects are public now, and those that were. -/
  publicGranules_eq :
    after.publicGranules = before.publicGranules ∪ before.home '' {object | object ∈ found}
  /-- Each object was private. -/
  wasPrivate : ∀ object ∈ found, before.IsPrivate object
  /-- The mutator might make each of them public. -/
  publishable : ∀ object ∈ found, before.Publishable objects mutator object
  /-- No two of them share a granule. -/
  homes_nodup : (found.map before.home).Nodup
  /-- Each took one mark of its own. -/
  publicCount_eq : after.publicCount = before.publicCount + found.length

namespace Publishes

variable {objects : ObjectModel} {mutator : MutatorId} {before middle after : Bitmap}
variable {found more : List ObjectRef} {object : ObjectRef}

theorem nil (bitmap : Bitmap) : Publishes objects mutator bitmap [] bitmap where
  sameRange := .refl bitmap
  publicGranules_eq := by simp
  wasPrivate := by simp
  publishable := by simp
  homes_nodup := by simp
  publicCount_eq := rfl

theorem of_perm (publishes : Publishes objects mutator before found after)
    (same : found.Perm more) : Publishes objects mutator before more after where
  sameRange := publishes.sameRange
  publicGranules_eq := by
    simp only [publishes.publicGranules_eq, same.mem_iff]
  wasPrivate object member := publishes.wasPrivate object (same.mem_iff.mpr member)
  publishable object member := publishes.publishable object (same.mem_iff.mpr member)
  homes_nodup := (same.map before.home).nodup_iff.mp publishes.homes_nodup
  publicCount_eq := by rw [publishes.publicCount_eq, same.length_eq]

theorem nodup (publishes : Publishes objects mutator before found after) : found.Nodup :=
  List.Nodup.of_map before.home publishes.homes_nodup

/-- An address is public afterwards if it was before or lies in the granule of a found object. -/
theorem isPublic_iff (publishes : Publishes objects mutator before found after)
    {address : Address} :
    after.isPublic address = true ↔
      before.isPublic address = true ∨
        before.contains address = true ∧
          ∃ object ∈ found, before.home object = before.granuleOf address.toNat :=
  Bitmap.isPublic_iff_of_union publishes.sameRange publishes.publicGranules_eq

theorem isPrivate_of_subset (less : Publishes objects mutator before found middle)
    (most : Publishes objects mutator before more after) (subset : found ⊆ more)
    (still_private : after.IsPrivate object) : middle.IsPrivate object := by
  refine ⟨still_private.1, ?_⟩
  by_contra public_before
  rw [Bool.not_eq_false, less.isPublic_iff] at public_before
  have public_after : after.isPublic object.address = true := by
    rw [most.isPublic_iff]
    rcases public_before with old | ⟨covered, other, other_mem, same_home⟩
    · exact Or.inl old
    · exact Or.inr ⟨covered, other, subset other_mem, same_home⟩
  simp [still_private.2] at public_after

theorem isPrivate_before (publishes : Publishes objects mutator before found after)
    (still_private : after.IsPrivate object) : before.IsPrivate object :=
  isPrivate_of_subset (.nil before) publishes (List.nil_subset found) still_private

theorem not_isPrivate_of_mem (publishes : Publishes objects mutator before found after)
    (member : object ∈ found) : ¬after.IsPrivate object := by
  intro still_private
  have public_after : after.isPublic object.address = true :=
    publishes.isPublic_iff.mpr
      (Or.inr ⟨(publishes.publishable object member).1, object, member, rfl⟩)
  simp [still_private.2] at public_after

theorem cons (publishes : Publishes objects mutator before found middle)
    (object_private : middle.IsPrivate object)
    (publishable : middle.Publishable objects mutator object)
    (covered : middle.Covers object.address.toNat) :
    Publishes objects mutator before (object :: found)
      (middle.setMark object.address.toNat covered) where
  sameRange := publishes.sameRange.trans (middle.sameRange_setMark covered)
  publicGranules_eq := by
    have granule_eq := publishes.sameRange.granuleOf_eq object.address.toNat
    rw [Bitmap.publicGranules_setMark, publishes.publicGranules_eq, granule_eq]
    ext number
    simp only [Set.mem_insert_iff, Set.mem_union, Set.mem_image, Set.mem_ofPred_eq,
      List.mem_cons, exists_eq_or_imp]
    rw [or_left_comm, eq_comm (a := number)]
    rfl
  wasPrivate other member := by
    rcases List.mem_cons.mp member with rfl | old
    · exact publishes.isPrivate_before object_private
    · exact publishes.wasPrivate other old
  publishable other member := by
    rcases List.mem_cons.mp member with rfl | old
    · exact publishes.sameRange.publishable_iff.mp publishable
    · exact publishes.publishable other old
  homes_nodup := by
    refine List.nodup_cons.mpr ⟨?_, publishes.homes_nodup⟩
    intro taken
    obtain ⟨other, other_mem, same_home⟩ := List.mem_map.mp taken
    have contained : before.contains object.address = true :=
      (publishes.sameRange.contains_eq object.address).symm.trans publishable.1
    have public_already : middle.isPublic object.address = true :=
      publishes.isPublic_iff.mpr (Or.inr ⟨contained, other, other_mem, same_home⟩)
    simp [object_private.2] at public_already
  publicCount_eq := by
    rw [Bitmap.publicCount_setMark covered object_private.2, publishes.publicCount_eq,
      List.length_cons]
    rfl

end Publishes

/-- One of the slots refers to the object. -/
def Refers (memory : Memory) (slots : List Address) (object : ObjectRef) : Prop :=
  ∃ slot ∈ slots, memory.load slot = object

theorem Refers.tail {memory : Memory} {slot : Address} {slots : List Address} {object : ObjectRef}
    (refers : Refers memory slots object) : Refers memory (slot :: slots) object := by
  obtain ⟨other, other_mem, load_eq⟩ := refers
  exact ⟨other, List.mem_cons_of_mem slot other_mem, load_eq⟩

section PublishSlots

variable {memory : Memory} {objects : ObjectModel} {mutator : MutatorId}
variable {start before : Bitmap} {found waiting : List ObjectRef} {slot : Address}
variable {slots : List Address}

/-- How publishing the slots of an object ends, after `found` became public since `start`. -/
inductive SlotsEnd (memory : Memory) (objects : ObjectModel) (mutator : MutatorId)
    (start : Bitmap) (found : List ObjectRef) (slots : List Address) (waiting : List ObjectRef) :
    Ending Bitmap (List ObjectRef) → Prop where
  /-- No slot refers to a private object any more, and what became public waits. -/
  | finished (fresh : List ObjectRef) {after : Bitmap}
      (publishes : Publishes objects mutator start (fresh ++ found) after)
      (referred : ∀ object ∈ fresh, Refers memory slots object)
      (settled : ∀ object, Refers memory slots object → ¬after.IsPrivate object) :
      SlotsEnd memory objects mutator start found slots waiting (.ok (fresh ++ waiting) after)
  /-- A slot refers to a private object that the mutator may not make public. -/
  | refused (fresh : List ObjectRef) {after : Bitmap} {object : ObjectRef}
      (publishes : Publishes objects mutator start (fresh ++ found) after)
      (referred : ∀ object ∈ fresh, Refers memory slots object)
      (object_referred : Refers memory slots object) (object_private : after.IsPrivate object)
      (not_publishable : ¬after.Publishable objects mutator object) :
      SlotsEnd memory objects mutator start found slots waiting
        (.error (refusal after objects mutator object) after)

/-- A slot that refers to no private object makes no difference. -/
theorem SlotsEnd.skip {ending : Ending Bitmap (List ObjectRef)}
    (publishes : Publishes objects mutator start found before)
    (settled_head : ¬before.IsPrivate (memory.load slot))
    (rest : SlotsEnd memory objects mutator start found slots waiting ending) :
    SlotsEnd memory objects mutator start found (slot :: slots) waiting ending := by
  cases rest with
  | finished fresh publishes_rest referred settled =>
      refine .finished fresh publishes_rest (fun object member => (referred object member).tail) ?_
      rintro object ⟨other, other_mem, rfl⟩ object_private
      rcases List.mem_cons.mp other_mem with rfl | tail_mem
      · exact settled_head (Publishes.isPrivate_of_subset publishes publishes_rest
          (List.subset_append_right fresh found) object_private)
      · exact settled _ ⟨other, tail_mem, rfl⟩ object_private
  | refused fresh publishes_rest referred object_referred object_private not_publishable =>
      exact .refused fresh publishes_rest (fun object member => (referred object member).tail)
        object_referred.tail object_private not_publishable

theorem SlotsEnd.mark {ending : Ending Bitmap (List ObjectRef)}
    (rest : SlotsEnd memory objects mutator start (memory.load slot :: found) slots
      (memory.load slot :: waiting) ending) :
    SlotsEnd memory objects mutator start found (slot :: slots) waiting ending := by
  have referred_snoc {fresh : List ObjectRef}
      (referred : ∀ object ∈ fresh, Refers memory slots object) :
      ∀ object ∈ fresh ++ [memory.load slot], Refers memory (slot :: slots) object := by
    intro object member
    rcases List.mem_append.mp member with old | head
    · exact (referred object old).tail
    · exact ⟨slot, List.mem_cons_self, (List.mem_singleton.mp head).symm⟩
  cases rest with
  | finished fresh publishes referred settled =>
      rw [List.append_cons] at publishes ⊢
      refine .finished _ publishes (referred_snoc referred) ?_
      rintro object ⟨other, other_mem, rfl⟩
      rcases List.mem_cons.mp other_mem with rfl | tail_mem
      · exact publishes.not_isPrivate_of_mem (by simp)
      · exact settled _ ⟨other, tail_mem, rfl⟩
  | refused fresh publishes referred object_referred object_private not_publishable =>
      rw [List.append_cons] at publishes
      exact .refused _ publishes (referred_snoc referred) object_referred.tail object_private
        not_publishable

/-- Publishing the slots of an object ends in one of two ways, whatever they refer to. -/
theorem publishSlots_end (memory : Memory) (slots : List Address) (waiting : List ObjectRef)
    (publishes : Publishes objects mutator start found before) :
    SlotsEnd memory objects mutator start found slots waiting
      (publishSlots memory objects mutator slots waiting before) := by
  induction slots generalizing waiting before found with
  | nil => exact .finished [] publishes (by simp) (by simp [Refers])
  | cons slot slots ih =>
      by_cases object_private : before.IsPrivate (memory.load slot)
      · by_cases publishable : before.Publishable objects mutator (memory.load slot)
        · obtain ⟨covered, marked⟩ := publishOne_of_private object_private publishable
          simp only [publishSlots, marked]
          exact (ih _ (publishes.cons object_private publishable covered)).mark
        · simp only [publishSlots, publishOne_of_refused object_private publishable]
          exact .refused [] publishes (by simp) ⟨slot, List.mem_cons_self, rfl⟩
            object_private publishable
      · simp only [publishSlots, publishOne_of_not_private object_private]
        exact (ih waiting publishes).skip publishes object_private

end PublishSlots

end Safepoint.Publication
