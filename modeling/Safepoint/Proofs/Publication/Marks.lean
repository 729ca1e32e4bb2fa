import Mathlib.Logic.Relation
import Safepoint.Proofs.Publication.Publishes

/-!
# Bitmaps that only gain marks

The public granules of a bitmap are read off its covered places.  The last metadata byte may have
bits that stand for no covered place, and two bitmaps with the same public granules may differ
there.  Publications never touch such bits: they set marks of covered places and nothing else.
`Gains.eq_of_publicGranules_eq` concludes that publications from one bitmap which end with the same
public granules end with the same bitmap.
-/

namespace Safepoint.Publication

namespace Bitmap

variable {bitmap start before after left right : Bitmap} {place index number : Nat}

theorem SameRange.byteIndex_eq (same : SameRange left right) (place : Nat) :
    right.byteIndex place = left.byteIndex place := by
  rw [byteIndex, byteIndex, granule, granule, same.base_eq, same.logGranule_eq]

theorem SameRange.bitIndex_eq (same : SameRange left right) (place : Nat) :
    right.bitIndex place = left.bitIndex place := by
  rw [bitIndex, bitIndex, granule, granule, same.logGranule_eq]

/-- A bit by the numbers of its metadata byte and inside it; there is none past the last byte. -/
def bit (bitmap : Bitmap) (index number : Nat) : Bool :=
  (bitmap.bytes[index]?).any fun byte => Octet.test byte number

theorem bit_of_covers (covered : bitmap.Covers place) :
    bitmap.bit (bitmap.byteIndex place) (bitmap.bitIndex place) = bitmap.marked place := by
  rw [bit, Array.getElem?_eq_getElem (byteIndex_lt covered), marked, dif_pos covered]
  rfl

/-- A bitmap is known by its range and its bits. -/
theorem eq_of_bit_eq (same : SameRange left right)
    (bits_eq : ∀ index number, left.bit index number = right.bit index number) : left = right := by
  have size_eq : left.bytes.size = right.bytes.size := by
    rw [left.bytes_size, right.bytes_size, same.size_eq, same.logGranule_eq]
  have bytes_eq : left.bytes = right.bytes := by
    apply Array.ext size_eq
    intro index left_lt right_lt
    apply Octet.eq_of_test_eq
    intro number
    have bit_eq := bits_eq index number
    simp only [bit, Array.getElem?_eq_getElem left_lt, Array.getElem?_eq_getElem right_lt,
      Option.any_some] at bit_eq
    exact bit_eq
  obtain ⟨base_eq, range_eq, logGranule_eq⟩ := same
  cases left
  cases right
  cases base_eq
  cases range_eq
  cases logGranule_eq
  cases bytes_eq
  rfl

theorem bit_setMark (covered : bitmap.Covers place) (index number : Nat) :
    (bitmap.setMark place covered).bit index number =
      (decide (bitmap.byteIndex place = index ∧ bitmap.bitIndex place = number) ||
        bitmap.bit index number) := by
  have byte_lt := byteIndex_lt covered
  simp only [bit, setMark, setByte, Array.getElem?_set]
  by_cases same_byte : bitmap.byteIndex place = index
  · subst same_byte
    rw [if_pos rfl, Array.getElem?_eq_getElem byte_lt, Option.any_some, Option.any_some,
      Octet.test_set _ (bitmap.bitIndex_lt place), byteFor]
    simp only [true_and, eq_comm]
  · rw [if_neg same_byte]
    simp [same_byte]

/-- One covered place is marked. -/
def GainsMark (before after : Bitmap) : Prop :=
  ∃ place, ∃ covered : before.Covers place, after = before.setMark place covered

/-- The second bitmap is the first with some more places marked. -/
abbrev Gains : Bitmap → Bitmap → Prop := Relation.ReflTransGen GainsMark

theorem gains_setMark (covered : bitmap.Covers place) :
    Gains bitmap (bitmap.setMark place covered) :=
  .single ⟨place, covered, rfl⟩

namespace Gains

theorem sameRange (gains : Gains before after) : SameRange before after := by
  induction gains with
  | refl => exact .refl before
  | @tail middle _ _ marked ih =>
      obtain ⟨place, covered, rfl⟩ := marked
      exact ih.trans (middle.sameRange_setMark covered)

theorem bit_eq (gains : Gains before after)
    (stray : ∀ place, before.Covers place →
      ¬(before.byteIndex place = index ∧ before.bitIndex place = number)) :
    after.bit index number = before.bit index number := by
  induction gains with
  | refl => rfl
  | @tail middle _ gained marked ih =>
      obtain ⟨place, covered, rfl⟩ := marked
      have same := sameRange gained
      have place_stray := stray place ((same.covers_iff place).mp covered)
      rw [bit_setMark covered, same.byteIndex_eq, same.bitIndex_eq, decide_eq_false place_stray,
        Bool.false_or, ih]

/-- Bitmaps that gained marks from one start are equal if they have the same public granules. -/
theorem eq_of_publicGranules_eq (left_gains : Gains start left) (right_gains : Gains start right)
    (granules_eq : left.publicGranules = right.publicGranules) : left = right := by
  have left_same := left_gains.sameRange
  have right_same := right_gains.sameRange
  have same : SameRange left right :=
    ⟨right_same.base_eq.trans left_same.base_eq.symm,
      right_same.size_eq.trans left_same.size_eq.symm,
      right_same.logGranule_eq.trans left_same.logGranule_eq.symm⟩
  refine eq_of_bit_eq same fun index number => ?_
  by_cases stray : ∀ place, start.Covers place →
      ¬(start.byteIndex place = index ∧ start.bitIndex place = number)
  · rw [left_gains.bit_eq stray, right_gains.bit_eq stray]
  · -- A bit of a covered place is its mark, and the public granules decide that.
    push Not at stray
    obtain ⟨place, covered, rfl, rfl⟩ := stray
    have left_covered := (left_same.covers_iff place).mpr covered
    have right_covered := (right_same.covers_iff place).mpr covered
    have marked_eq : left.marked place = right.marked place := by
      rw [Bool.eq_iff_iff, marked_iff, marked_iff, granules_eq, same.covers_iff,
        same.granuleOf_eq]
    rw [← bit_of_covers left_covered, ← bit_of_covers right_covered, left_same.byteIndex_eq,
      left_same.bitIndex_eq, right_same.byteIndex_eq, right_same.bitIndex_eq] at marked_eq
    exact marked_eq

end Gains

end Bitmap

open Bitmap (Gains gains_setMark)

variable (memory : Memory) (objects : ObjectModel) (mutator : MutatorId)

theorem gains_publishOne (object : ObjectRef) (bitmap : Bitmap) :
    Gains bitmap (Action.left (publishOne objects mutator object bitmap)) := by
  by_cases object_private : bitmap.IsPrivate object
  · by_cases publishable : bitmap.Publishable objects mutator object
    · obtain ⟨covered, marked⟩ := publishOne_of_private object_private publishable
      rw [marked]
      exact gains_setMark covered
    · rw [publishOne_of_refused object_private publishable]
      exact .refl
  · rw [publishOne_of_not_private object_private]
    exact .refl

theorem gains_publishSlots (slots : List Address) (waiting : List ObjectRef) (bitmap : Bitmap) :
    Gains bitmap (Action.left (publishSlots memory objects mutator slots waiting bitmap)) := by
  induction slots generalizing waiting bitmap with
  | nil => exact .refl
  | cons slot slots ih =>
      have gains := gains_publishOne objects mutator (memory.load slot) bitmap
      simp only [publishSlots]
      cases published : publishOne objects mutator (memory.load slot) bitmap with
      | error fault after =>
          rw [published] at gains
          exact gains
      | ok was_private after =>
          rw [published] at gains
          cases was_private with
          | true => exact gains.trans (ih _ after)
          | false => exact gains.trans (ih _ after)

theorem gains_scanWaiting (waiting : List ObjectRef) (tally : Tally) (bitmap : Bitmap) :
    Gains bitmap (Action.left (scanWaiting memory objects mutator waiting tally bitmap)) := by
  fun_induction scanWaiting memory objects mutator waiting tally bitmap with
  | case1 => exact .refl
  | case2 => exact .refl
  | case3 tally bitmap object waiting bytes sum_eq reached after scanned ih =>
      have gains := gains_publishSlots memory objects mutator (objects.slots object) waiting bitmap
      rw [scanned] at gains
      exact gains.trans ih
  | case4 tally bitmap object waiting bytes sum_eq fault after scanned =>
      have gains := gains_publishSlots memory objects mutator (objects.slots object) waiting bitmap
      rw [scanned] at gains
      exact gains

theorem gains_publishReach (root : ObjectRef) (bitmap : Bitmap) :
    Gains bitmap (Action.left (publishReach memory objects mutator root bitmap)) := by
  have gains := gains_publishOne objects mutator root bitmap
  simp only [publishReach]
  cases published : publishOne objects mutator root bitmap with
  | error fault after =>
      rw [published] at gains
      exact gains
  | ok was_private after =>
      rw [published] at gains
      cases was_private with
      | true => exact gains.trans (gains_scanWaiting memory objects mutator [root] {} after)
      | false => exact gains

/-- However a publication ends, it has set marks and done nothing else to the bitmap. -/
theorem Heap.gains_publishClosure (heap : Heap Published) (mutator : MutatorId)
    (root : ObjectRef) :
    Gains heap.bitmap (Action.left (heap.publishClosure mutator root)).bitmap := by
  have gains := gains_publishReach heap.memory heap.objects mutator root heap.bitmap
  unfold publishClosure
  generalize publishReach heap.memory heap.objects mutator root heap.bitmap = ending at gains
  cases ending with
  | ok tally after => exact gains
  | error fault after => exact gains

end Safepoint.Publication
