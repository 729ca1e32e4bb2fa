import Mathlib.Data.Set.Insert
import Safepoint.Publication.Bitmap

/-!
# A bitmap as a set of granules

A mark is found by two numbers, one counted from the base of the covered range and the other from
the start of the address space.  Since the base starts a granule, the two together single out one
granule and no other.  The central statements read a bitmap as the set of its public granules: a
place is public when it is covered and its granule is in the set, and marking a place adds its
granule.
-/

namespace Safepoint.Publication.Bitmap

/-- Number of the granule around a place, counted from the start of the address space. -/
def granuleOf (bitmap : Bitmap) (place : Nat) : Nat := place / bitmap.granule

/-- The granules with a mark. -/
def publicGranules (bitmap : Bitmap) : Set Nat :=
  {number | ∃ place, bitmap.granuleOf place = number ∧ bitmap.marked place = true}

/-- Two bitmaps over the same range in the same granules. -/
structure SameRange (left right : Bitmap) : Prop where
  /-- Both ranges start at one place. -/
  base_eq : right.base = left.base
  /-- Both ranges have one size. -/
  size_eq : right.size = left.size
  /-- Both have granules of one size. -/
  logGranule_eq : right.logGranule = left.logGranule

namespace SameRange

theorem refl (bitmap : Bitmap) : SameRange bitmap bitmap := ⟨rfl, rfl, rfl⟩

theorem trans {first second third : Bitmap} (left : SameRange first second)
    (right : SameRange second third) : SameRange first third :=
  ⟨right.base_eq.trans left.base_eq, right.size_eq.trans left.size_eq,
    right.logGranule_eq.trans left.logGranule_eq⟩

variable {left right : Bitmap}

theorem granuleOf_eq (same : SameRange left right) (place : Nat) :
    right.granuleOf place = left.granuleOf place := by
  rw [granuleOf, granuleOf, granule, granule, same.logGranule_eq]

theorem covers_iff (same : SameRange left right) (place : Nat) :
    right.Covers place ↔ left.Covers place := by
  rw [Covers, Covers, same.base_eq, same.size_eq]

theorem contains_eq (same : SameRange left right) (address : Address) :
    right.contains address = left.contains address := by
  simp only [contains, same.covers_iff]

end SameRange

/-- A place lies as many whole granules after the base as its granule's number says. -/
private theorem granuleOf_eq_base_add {bitmap : Bitmap} {place : Nat}
    (base_le : bitmap.base.toNat ≤ place) :
    bitmap.granuleOf place =
      bitmap.granuleOf bitmap.base.toNat + (place - bitmap.base.toNat) / bitmap.granule := by
  have granule_pos := bitmap.granule_pos
  have base_dvd : bitmap.granule ∣ bitmap.base.toNat :=
    Nat.dvd_of_mod_eq_zero bitmap.base_aligned
  obtain ⟨first, base_eq⟩ := base_dvd
  obtain ⟨distance, rfl⟩ := Nat.exists_eq_add_of_le base_le
  rw [granuleOf, granuleOf, Nat.add_sub_cancel_left, base_eq, Nat.mul_add_div granule_pos,
    Nat.mul_div_cancel_left _ granule_pos]

/-- Byte and mark of a covered place single out its granule. -/
theorem index_eq_iff {bitmap : Bitmap} {left right : Nat} (left_covered : bitmap.Covers left)
    (right_covered : bitmap.Covers right) :
    (bitmap.byteIndex left = bitmap.byteIndex right ∧
        bitmap.bitIndex left = bitmap.bitIndex right) ↔
      bitmap.granuleOf left = bitmap.granuleOf right := by
  have left_eq := granuleOf_eq_base_add left_covered.1
  have right_eq := granuleOf_eq_base_add right_covered.1
  have bit_eq (place : Nat) : bitmap.bitIndex place = bitmap.granuleOf place % 8 := rfl
  have byte_eq (place : Nat) : bitmap.byteIndex place =
      (place - bitmap.base.toNat) / bitmap.granule / 8 := by
    rw [byteIndex, granulesPerByte, Nat.mul_comm, Nat.div_div_eq_div_mul]
  rw [bit_eq, bit_eq, byte_eq, byte_eq]
  omega

theorem marked_congr {bitmap : Bitmap} {left right : Nat} (left_covered : bitmap.Covers left)
    (right_covered : bitmap.Covers right)
    (same_granule : bitmap.granuleOf left = bitmap.granuleOf right) :
    bitmap.marked left = bitmap.marked right := by
  obtain ⟨same_byte, same_bit⟩ := (index_eq_iff left_covered right_covered).mpr same_granule
  simp only [marked, left_covered, right_covered, dite_true, byteFor, same_byte, same_bit]

theorem covers_of_marked {bitmap : Bitmap} {place : Nat}
    (place_marked : bitmap.marked place = true) :
    bitmap.Covers place := by
  by_contra outside
  simp [marked, outside] at place_marked

/-- A place is public when it is covered and its granule is public. -/
theorem marked_iff {bitmap : Bitmap} {place : Nat} :
    bitmap.marked place = true ↔
      bitmap.Covers place ∧ bitmap.granuleOf place ∈ bitmap.publicGranules := by
  constructor
  · intro place_marked
    exact ⟨covers_of_marked place_marked, place, rfl, place_marked⟩
  · rintro ⟨covered, other, same_granule, other_marked⟩
    rw [← other_marked]
    exact marked_congr covered (covers_of_marked other_marked) same_granule.symm

theorem isPublic_iff {bitmap : Bitmap} {address : Address} :
    bitmap.isPublic address = true ↔
      bitmap.contains address = true ∧
        bitmap.granuleOf address.toNat ∈ bitmap.publicGranules := by
  rw [isPublic, contains, decide_eq_true_iff, marked_iff]

theorem byteFor_setByte {bitmap : Bitmap} {index : Nat} (index_lt : index < bitmap.bytes.size)
    (byte : UInt8) {place : Nat} (covered : bitmap.Covers place) :
    (bitmap.setByte index index_lt byte).byteFor place covered =
      if index = bitmap.byteIndex place then byte else bitmap.byteFor place covered := by
  have place_lt := byteIndex_lt covered
  change getElem (bitmap.bytes.set index byte index_lt) (bitmap.byteIndex place)
    (by simpa using place_lt) = _
  rw [Array.getElem_set]
  rfl

/-- A new byte for a place decides the marks that stand in it, and no others. -/
theorem marked_setByte {bitmap : Bitmap} {place other : Nat} (covered : bitmap.Covers place)
    (byte : UInt8) (other_covered : bitmap.Covers other) :
    (bitmap.setByte (bitmap.byteIndex place) (byteIndex_lt covered) byte).marked other =
      if bitmap.byteIndex place = bitmap.byteIndex other then
        Octet.test byte (bitmap.bitIndex other)
      else bitmap.marked other := by
  have after_covered :
      (bitmap.setByte (bitmap.byteIndex place) (byteIndex_lt covered) byte).Covers other :=
    other_covered
  simp only [marked, after_covered, other_covered, dite_true, byteFor_setByte _ _ other_covered]
  split <;> rfl

theorem sameRange_setMark (bitmap : Bitmap) {place : Nat} (covered : bitmap.Covers place) :
    SameRange bitmap (bitmap.setMark place covered) := ⟨rfl, rfl, rfl⟩

theorem marked_setMark {bitmap : Bitmap} {place : Nat} (covered : bitmap.Covers place)
    (other : Nat) :
    (bitmap.setMark place covered).marked other = true ↔
      bitmap.marked other = true ∨
        bitmap.Covers other ∧ bitmap.granuleOf other = bitmap.granuleOf place := by
  by_cases other_covered : bitmap.Covers other
  · rw [setMark, marked_setByte covered _ other_covered, ← index_eq_iff other_covered covered]
    split
    · rename_i same_byte
      have byte_eq : bitmap.byteFor place covered = bitmap.byteFor other other_covered := by
        simp only [byteFor, same_byte]
      rw [Octet.test_set _ (bitmap.bitIndex_lt place), byte_eq]
      simp [marked, other_covered, same_byte, or_comm]
    · rename_i other_byte
      simp [Ne.symm other_byte]
  · have after_uncovered : ¬(bitmap.setMark place covered).Covers other := other_covered
    simp [marked, after_uncovered, other_covered]

/-- Marking a place adds its granule to the public ones. -/
theorem publicGranules_setMark {bitmap : Bitmap} {place : Nat} (covered : bitmap.Covers place) :
    (bitmap.setMark place covered).publicGranules =
      insert (bitmap.granuleOf place) bitmap.publicGranules := by
  ext number
  simp only [publicGranules, Set.mem_ofPred_eq, Set.mem_insert_iff, marked_setMark]
  constructor
  · rintro ⟨other, rfl, old | ⟨_, same_granule⟩⟩
    · exact Or.inr ⟨other, rfl, old⟩
    · exact Or.inl same_granule
  · rintro (rfl | ⟨other, rfl, old⟩)
    · exact ⟨place, rfl, Or.inr ⟨covered, rfl⟩⟩
    · exact ⟨other, rfl, Or.inl old⟩

/-- A bitmap of one byte, for eight granules of eight bytes. -/
def ofByte (marks : UInt8) : Bitmap where
  base := 0x1000
  size := 0x40
  logGranule := 3
  bytes := #[marks]
  logGranule_lt := by decide
  base_aligned := by decide
  bytes_size := rfl

end Safepoint.Publication.Bitmap
