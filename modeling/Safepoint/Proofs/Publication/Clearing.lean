import Mathlib.Data.Set.Card
import Mathlib.Order.Interval.Set.Basic
import Safepoint.Proofs.Publication.Granules

/-!
# Clearing marks

Reclaimed memory becomes private again one granule after another.  A granule whose first place is
not covered has no mark, so skipping it loses nothing; and the place after the last granule, which
need not fit a word, is computed only when that granule is done.  `clears_clearRange` draws the
conclusion: whatever the ending, exactly the granules that meet the range have lost their marks, if
the range is not empty.
-/

namespace Safepoint.Publication.Bitmap

variable {bitmap before after : Bitmap} {place number first count : Nat}

theorem setByte_byteFor (covered : bitmap.Covers place) :
    bitmap.setByte (bitmap.byteIndex place) (byteIndex_lt covered)
      (bitmap.byteFor place covered) = bitmap := by
  simp only [setByte, byteFor, Array.set_getElem_self]

theorem clearMark_of_unmarked (covered : bitmap.Covers place)
    (unmarked : bitmap.marked place = false) : bitmap.clearMark place covered = bitmap := by
  simp only [marked, covered, dite_true] at unmarked
  rw [clearMark, Octet.clear_of_unmarked unmarked, setByte_byteFor]

theorem setMark_clearMark (covered : bitmap.Covers place)
    (place_marked : bitmap.marked place = true) :
    (bitmap.clearMark place covered).setMark place covered = bitmap := by
  have byte_eq : (bitmap.clearMark place covered).byteFor place covered =
      Octet.clear (bitmap.byteFor place covered) (bitmap.bitIndex place) :=
    (byteFor_setByte _ _ covered).trans (if_pos rfl)
  simp only [marked, covered, dite_true] at place_marked
  have byte_restored : Octet.set ((bitmap.clearMark place covered).byteFor place covered)
      (bitmap.bitIndex place) = bitmap.byteFor place covered := by
    rw [byte_eq, Octet.set_clear (bitmap.bitIndex_lt place) place_marked]
  calc (bitmap.clearMark place covered).setMark place covered
      = (bitmap.clearMark place covered).setByte (bitmap.byteIndex place)
          (@byteIndex_lt (bitmap.clearMark place covered) place covered)
          (bitmap.byteFor place covered) := by
        rw [← byte_restored]
        rfl
    _ = bitmap.setByte (bitmap.byteIndex place) (byteIndex_lt covered)
          (bitmap.byteFor place covered) := by
        simp only [clearMark, setByte, Array.set_set]
    _ = bitmap := setByte_byteFor covered

theorem marked_clearMark (covered : bitmap.Covers place) (other : Nat) :
    (bitmap.clearMark place covered).marked other = true ↔
      bitmap.marked other = true ∧ bitmap.granuleOf other ≠ bitmap.granuleOf place := by
  by_cases other_covered : bitmap.Covers other
  · rw [clearMark, marked_setByte covered _ other_covered, Ne,
      ← index_eq_iff other_covered covered]
    split
    · rename_i same_byte
      have byte_eq : bitmap.byteFor place covered = bitmap.byteFor other other_covered := by
        simp only [byteFor, same_byte]
      rw [Octet.test_clear, byte_eq]
      simp [marked, other_covered, same_byte, and_comm]
    · rename_i other_byte
      simp [Ne.symm other_byte]
  · have after_uncovered : ¬(bitmap.clearMark place covered).Covers other := other_covered
    simp [marked, after_uncovered, other_covered]

theorem publicGranules_clearMark (covered : bitmap.Covers place) :
    (bitmap.clearMark place covered).publicGranules =
      bitmap.publicGranules \ {bitmap.granuleOf place} := by
  ext number
  simp only [publicGranules, Set.mem_ofPred_eq, Set.mem_sdiff, Set.mem_singleton_iff,
    marked_clearMark]
  constructor
  · rintro ⟨other, rfl, old, granule_ne⟩
    exact ⟨⟨other, rfl, old⟩, granule_ne⟩
  · rintro ⟨⟨other, rfl, old⟩, granule_ne⟩
    exact ⟨other, rfl, old, granule_ne⟩

/-- With any place of a granule its first one is covered, because the base starts a granule. -/
theorem covers_start (covered : bitmap.Covers place) :
    bitmap.Covers (bitmap.granuleOf place * bitmap.granule) := by
  obtain ⟨base_le, place_lt⟩ := covered
  obtain ⟨base_number, base_eq⟩ : bitmap.granule ∣ bitmap.base.toNat :=
    Nat.dvd_of_mod_eq_zero bitmap.base_aligned
  have start_le : bitmap.granuleOf place * bitmap.granule ≤ place := Nat.div_mul_le_self _ _
  refine ⟨?_, by omega⟩
  rw [base_eq, Nat.mul_comm] at base_le ⊢
  have number_le : base_number ≤ bitmap.granuleOf place :=
    (Nat.le_div_iff_mul_le bitmap.granule_pos).mpr base_le
  exact Nat.mul_le_mul_right _ number_le

theorem granuleOf_start (bitmap : Bitmap) (number : Nat) :
    bitmap.granuleOf (number * bitmap.granule) = number :=
  Nat.mul_div_cancel _ bitmap.granule_pos

theorem publicGranules_unmark (bitmap : Bitmap) (number : Nat) :
    (bitmap.unmark (number * bitmap.granule)).publicGranules =
      bitmap.publicGranules \ {number} := by
  by_cases covered : bitmap.Covers (number * bitmap.granule)
  · rw [unmark, dif_pos covered, publicGranules_clearMark, granuleOf_start]
  · rw [unmark, dif_neg covered, Set.sdiff_singleton_eq_self]
    rintro ⟨place, rfl, place_marked⟩
    exact covered (covers_start (covers_of_marked place_marked))

theorem sameRange_unmark (bitmap : Bitmap) (place : Nat) :
    SameRange bitmap (bitmap.unmark place) := by
  unfold unmark
  split
  · exact ⟨rfl, rfl, rfl⟩
  · exact .refl bitmap

theorem granule_unmark (bitmap : Bitmap) (place : Nat) :
    (bitmap.unmark place).granule = bitmap.granule :=
  congrArg granuleSize (sameRange_unmark bitmap place).logGranule_eq

theorem publicGranules_unmark_subset (bitmap : Bitmap) (place : Nat) :
    (bitmap.unmark place).publicGranules ⊆ bitmap.publicGranules := by
  unfold unmark
  split
  · rw [publicGranules_clearMark]
    exact Set.sdiff_subset
  · exact Set.Subset.rfl

/-- Every mark stands for a granule; the last metadata byte can have marks to spare. -/
def Counted (bitmap : Bitmap) : Prop := bitmap.publicCount = bitmap.publicGranules.ncard

theorem publicGranules_finite (bitmap : Bitmap) : bitmap.publicGranules.Finite := by
  have places_finite : (Set.Iio (bitmap.base.toNat + bitmap.size.toNat)).Finite :=
    (Set.finite_lt_nat _)
  refine (places_finite.image bitmap.granuleOf).subset ?_
  rintro number ⟨place, rfl, place_marked⟩
  exact ⟨place, (covers_of_marked place_marked).2, rfl⟩

namespace Counted

theorem setMark (counted : bitmap.Counted) (covered : bitmap.Covers place)
    (unmarked : bitmap.marked place = false) : (bitmap.setMark place covered).Counted := by
  have fresh : bitmap.granuleOf place ∉ bitmap.publicGranules := by
    intro granule_public
    have place_marked := marked_iff.mpr ⟨covered, granule_public⟩
    rw [unmarked] at place_marked
    cases place_marked
  rw [Counted, publicCount_setMark covered unmarked, publicGranules_setMark,
    Set.ncard_insert_of_notMem fresh bitmap.publicGranules_finite, counted]

theorem clearMark (counted : bitmap.Counted) (covered : bitmap.Covers place) :
    (bitmap.clearMark place covered).Counted := by
  cases place_marked : bitmap.marked place with
  | false =>
      rw [clearMark_of_unmarked covered place_marked]
      exact counted
  | true =>
      have unmarked : (bitmap.clearMark place covered).marked place = false := by
        rw [Bool.eq_false_iff, Ne, marked_clearMark]
        exact fun still => still.2 rfl
      have still_covered : (bitmap.clearMark place covered).Covers place := covered
      have count_eq := publicCount_setMark still_covered unmarked
      rw [setMark_clearMark covered place_marked] at count_eq
      have card_eq := Set.ncard_sdiff_singleton_add_one (marked_iff.mp place_marked).2
        bitmap.publicGranules_finite
      rw [Counted] at counted
      rw [Counted, publicGranules_clearMark]
      omega

theorem unmark (counted : bitmap.Counted) (place : Nat) : (bitmap.unmark place).Counted := by
  unfold Bitmap.unmark
  split
  · exact counted.clearMark _
  · exact counted

end Counted

/-- How two bitmaps differ after a set of granules has lost its marks. -/
structure Clears (numbers : Set Nat) (before after : Bitmap) : Prop where
  sameRange : before.SameRange after
  publicGranules_eq : after.publicGranules = before.publicGranules \ numbers
  counted : before.Counted → after.Counted

namespace Clears

variable {numbers more : Set Nat} {middle : Bitmap}

theorem refl (bitmap : Bitmap) : Clears ∅ bitmap bitmap where
  sameRange := .refl bitmap
  publicGranules_eq := Set.sdiff_empty.symm
  counted := id

theorem unmark (bitmap : Bitmap) (number : Nat) :
    Clears {number} bitmap (bitmap.unmark (number * bitmap.granule)) where
  sameRange := sameRange_unmark _ _
  publicGranules_eq := publicGranules_unmark _ _
  counted counted := counted.unmark _

theorem trans (left : Clears numbers before middle) (right : Clears more middle after) :
    Clears (numbers ∪ more) before after where
  sameRange := left.sameRange.trans right.sameRange
  publicGranules_eq := by
    rw [right.publicGranules_eq, left.publicGranules_eq, Set.sdiff_sdiff]
  counted counted := right.counted (left.counted counted)

end Clears

theorem clearFrom_succ (bitmap : Bitmap) (count place : Nat) :
    clearFrom (count + 1) place bitmap =
      if place + bitmap.granule < Word.count then
        clearFrom count (place + bitmap.granule) (bitmap.unmark place)
      else .error .addOverflow (bitmap.unmark place) :=
  rfl

theorem publicGranules_clearFrom_subset (bitmap : Bitmap) (count place : Nat) :
    (Action.left (clearFrom count place bitmap)).publicGranules ⊆ bitmap.publicGranules := by
  induction count generalizing bitmap place with
  | zero => exact Set.Subset.rfl
  | succ count ih =>
      rw [clearFrom_succ]
      split
      · exact (ih _ _).trans (publicGranules_unmark_subset bitmap place)
      · exact publicGranules_unmark_subset bitmap place

theorem clears_clearFrom
    (fits : ∀ step < count, (first + step) * bitmap.granule < Word.count) :
    Clears (Set.Ico first (first + count)) bitmap
      (Action.left (clearFrom count (first * bitmap.granule) bitmap)) := by
  induction count generalizing first bitmap with
  | zero =>
      rw [Nat.add_zero, Set.Ico_self]
      exact .refl bitmap
  | succ count ih =>
      have row_eq : Set.Ico first (first + (count + 1)) =
          {first} ∪ Set.Ico (first + 1) (first + 1 + count) := by
        ext number
        simp only [Set.mem_Ico, Set.mem_union, Set.mem_singleton_iff]
        omega
      have head := Clears.unmark bitmap first
      have granule_eq := bitmap.granule_unmark (first * bitmap.granule)
      have next_eq : first * bitmap.granule + bitmap.granule = (first + 1) * bitmap.granule :=
        (Nat.succ_mul first bitmap.granule).symm
      rw [row_eq, clearFrom_succ, next_eq]
      split
      · have rest_fits : ∀ step < count, (first + 1 + step) *
            (bitmap.unmark (first * bitmap.granule)).granule < Word.count := by
          intro step step_lt
          rw [granule_eq, Nat.add_assoc, Nat.add_comm 1 step]
          exact fits (step + 1) (by omega)
        have rest := ih rest_fits
        rw [granule_eq] at rest
        exact head.trans rest
      · rename_i leaves
        -- the place after this granule is no word, so this was the last granule
        have count_eq : count = 0 := by
          by_contra more
          exact leaves (fits 1 (by omega))
        subst count_eq
        rw [Nat.add_zero, Set.Ico_self]
        exact head.trans (.refl _)

/-- Some place of the granule lies in a range. -/
def Meets (bitmap : Bitmap) (start past number : Nat) : Prop :=
  ∃ place, bitmap.granuleOf place = number ∧ start ≤ place ∧ place < past

theorem meets_iff {start past : Nat} (start_lt : start < past) :
    bitmap.Meets start past number ↔
      bitmap.granuleOf start ≤ number ∧ number * bitmap.granule < past := by
  constructor
  · rintro ⟨place, rfl, start_le, place_lt⟩
    have floor_le : bitmap.granuleOf place * bitmap.granule ≤ place := Nat.div_mul_le_self _ _
    exact ⟨Nat.div_le_div_right start_le, by omega⟩
  · rintro ⟨number_ge, number_lt⟩
    rcases Nat.le_total start (number * bitmap.granule) with start_le | start_ge
    · exact ⟨number * bitmap.granule, granuleOf_start bitmap number, start_le, number_lt⟩
    · have number_le : number ≤ bitmap.granuleOf start :=
        (Nat.le_div_iff_mul_le bitmap.granule_pos).mpr start_ge
      exact ⟨start, Nat.le_antisymm number_ge number_le, Nat.le_refl start, start_lt⟩

/-- A cleared range counts its granules from the one around its start, rounding up. -/
theorem mem_row_iff {start past : Nat} (start_le : bitmap.granuleOf start * bitmap.granule ≤ past) :
    number ∈ Set.Ico (bitmap.granuleOf start) (bitmap.granuleOf start +
        (past - bitmap.granuleOf start * bitmap.granule + (bitmap.granule - 1)) / bitmap.granule) ↔
      bitmap.granuleOf start ≤ number ∧ number * bitmap.granule < past := by
  rw [Set.mem_Ico]
  refine and_congr_right fun first_le => ?_
  obtain ⟨step, rfl⟩ := Nat.exists_eq_add_of_le first_le
  have granule_pos := bitmap.granule_pos
  have step_lt_iff := Nat.le_div_iff_mul_le granule_pos (x := step + 1)
    (y := past - bitmap.granuleOf start * bitmap.granule + (bitmap.granule - 1))
  rw [Nat.succ_mul] at step_lt_iff
  rw [Nat.add_lt_add_iff_left, ← Nat.succ_le_iff, step_lt_iff, Nat.add_mul]
  omega

theorem publicGranules_clearRange_subset (bitmap : Bitmap) (start : Address) (bytes : Word) :
    (Action.left (clearRange start bytes bitmap)).publicGranules ⊆ bitmap.publicGranules := by
  unfold clearRange
  cases start.offset? bytes with
  | none => exact Set.Subset.rfl
  | some past => exact publicGranules_clearFrom_subset bitmap _ _

/-- A range inside the address space is cleared as a row from the granule around its start. -/
theorem clearRange_eq (bitmap : Bitmap) {start : Address} {bytes : Word}
    (past_lt : start.toNat + bytes.toNat < Word.count) :
    clearRange start bytes bitmap =
      clearFrom ((start.toNat + bytes.toNat - bitmap.granuleOf start.toNat * bitmap.granule +
          (bitmap.granule - 1)) / bitmap.granule)
        (bitmap.granuleOf start.toNat * bitmap.granule) bitmap := by
  obtain ⟨past, offset_eq, past_eq⟩ := Address.exists_offset? past_lt
  rw [clearRange, offset_eq, ← past_eq]
  rfl

/-- Whether or not the last step leaves the word, a row of granules has lost its marks. -/
theorem clears_row (bitmap : Bitmap) {start : Address} {bytes : Word}
    (past_lt : start.toNat + bytes.toNat < Word.count) :
    Clears {number | bitmap.granuleOf start.toNat ≤ number ∧
        number * bitmap.granule < start.toNat + bytes.toNat} bitmap
      (Action.left (clearRange start bytes bitmap)) := by
  have floor_le : bitmap.granuleOf start.toNat * bitmap.granule ≤ start.toNat :=
    Nat.div_mul_le_self _ _
  have row_iff (number : Nat) := @mem_row_iff bitmap number start.toNat
    (start.toNat + bytes.toNat) (by omega)
  have row_eq : {number | bitmap.granuleOf start.toNat ≤ number ∧
      number * bitmap.granule < start.toNat + bytes.toNat} =
      Set.Ico (bitmap.granuleOf start.toNat) (bitmap.granuleOf start.toNat +
        (start.toNat + bytes.toNat - bitmap.granuleOf start.toNat * bitmap.granule +
          (bitmap.granule - 1)) / bitmap.granule) := by
    ext number
    exact (row_iff number).symm
  rw [row_eq, clearRange_eq bitmap past_lt]
  apply clears_clearFrom
  intro step step_lt
  have in_row := (row_iff (bitmap.granuleOf start.toNat + step)).mp ⟨by omega, by omega⟩
  omega

/-- The granules of the row are those that meet the range, unless the range is empty. -/
theorem clears_clearRange (bitmap : Bitmap) {start : Address} {bytes : Word}
    (bytes_pos : 0 < bytes.toNat)
    (past_lt : start.toNat + bytes.toNat < Word.count) :
    Clears {number | bitmap.Meets start.toNat (start.toNat + bytes.toNat) number} bitmap
      (Action.left (clearRange start bytes bitmap)) := by
  have row := bitmap.clears_row past_lt
  simp only [← meets_iff (show start.toNat < start.toNat + bytes.toNat by omega)] at row
  exact row

end Safepoint.Publication.Bitmap
