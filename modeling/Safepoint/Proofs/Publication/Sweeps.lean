import Safepoint.Proofs.Publication.Clearing
import Safepoint.Settings

/-!
# The borders of a cleared range

A clearing sweeps over its range granule by granule: it begins at the start of the granule around
the first place, stops once it has come to the end, and computes the place after each granule.  Both
borders have a flaw.  An empty range that starts inside a granule clears that granule all the same,
and a sweep over the last granule of the address space has no place to go on from.
`sparesOutside_iff` and `completes_iff_of_valid` say that these are the only ranges that go wrong.
-/

namespace Safepoint.Publication.Bitmap

variable {bitmap : Bitmap} {start : Address} {bytes : Word}

/-- A sweep that clears granules as long as they start before `past`, from a place up to its end. -/
inductive Sweep (past : Nat) : Bitmap → Nat → Ending Bitmap Unit → Prop where
  | done {bitmap : Bitmap} {place : Nat} (reached : past ≤ place) :
      Sweep past bitmap place (.ok () bitmap)
  | turn {bitmap : Bitmap} {place : Nat} {ending : Ending Bitmap Unit} (below : place < past)
      (fits : place + bitmap.granule < Word.count)
      (sweep : Sweep past (bitmap.unmark place) (place + bitmap.granule) ending) :
      Sweep past bitmap place ending
  /-- The place after the granule is no word. -/
  | overflow {bitmap : Bitmap} {place : Nat} (below : place < past)
      (leaves : Word.count ≤ place + bitmap.granule) :
      Sweep past bitmap place (.error .addOverflow (bitmap.unmark place))

/-- As many granules are cleared as a sweep takes turns. -/
theorem sweep_clearFrom (bitmap : Bitmap) (past place : Nat) :
    Sweep past bitmap place
      (clearFrom ((past - place + (bitmap.granule - 1)) / bitmap.granule) place bitmap) := by
  generalize count_eq : (past - place + (bitmap.granule - 1)) / bitmap.granule = count
  have granule_pos := bitmap.granule_pos
  induction count generalizing bitmap place with
  | zero =>
      have distance_lt := (Nat.div_eq_zero_iff_lt granule_pos).mp count_eq
      exact .done (by omega)
  | succ count ih =>
      have below : place < past := by
        by_contra reached
        rw [Nat.sub_eq_zero_of_le (Nat.le_of_not_lt reached), Nat.zero_add,
          Nat.div_eq_of_lt (by omega)] at count_eq
        cases count_eq
      -- a turn takes one granule off the distance, and the last one what is left of it
      have rest_eq : (past - (place + bitmap.granule) + (bitmap.granule - 1)) / bitmap.granule =
          count := by
        rcases Nat.le_total past (place + bitmap.granule) with last | more
        · have count_lt : count + 1 < 2 := by
            rw [← count_eq, Nat.div_lt_iff_lt_mul granule_pos]
            omega
          rw [Nat.sub_eq_zero_of_le last, Nat.zero_add, Nat.div_eq_of_lt (by omega)]
          omega
        · rw [show past - place + (bitmap.granule - 1) =
            past - (place + bitmap.granule) + (bitmap.granule - 1) + bitmap.granule by omega,
            Nat.add_div_right _ granule_pos] at count_eq
          omega
      rw [clearFrom_succ]
      split
      · rename_i fits
        refine .turn below fits (ih _ _ ?_ (granule_pos.trans_eq (granule_unmark _ _).symm))
        rw [granule_unmark, rest_eq]
      · rename_i leaves
        exact .overflow below (Nat.le_of_not_lt leaves)

theorem sweep_clearRange (past_lt : start.toNat + bytes.toNat < Word.count) :
    Sweep (start.toNat + bytes.toNat) bitmap (bitmap.granuleOf start.toNat * bitmap.granule)
      (clearRange start bytes bitmap) := by
  rw [clearRange_eq bitmap past_lt]
  exact sweep_clearFrom bitmap _ _

/-- Granules that do not meet the range stay public when it is cleared. -/
def SparesOutside (bitmap : Bitmap) (start : Address) (bytes : Word) : Prop :=
  ∀ number ∈ bitmap.publicGranules,
    ¬bitmap.Meets start.toNat (start.toNat + bytes.toNat) number →
      number ∈ (Action.left (clearRange start bytes bitmap)).publicGranules

theorem not_meets_empty (bitmap : Bitmap) (start number : Nat) :
    ¬bitmap.Meets start start number := by
  rintro ⟨place, -, start_le, place_lt⟩
  omega

/-- A row up to a place begins with the granule around it, unless the place starts its granule. -/
theorem mem_row_self_iff (bitmap : Bitmap) (start number : Nat) :
    bitmap.granuleOf start ≤ number ∧ number * bitmap.granule < start ↔
      number = bitmap.granuleOf start ∧ ¬bitmap.granule ∣ start := by
  have floor_le : bitmap.granuleOf start * bitmap.granule ≤ start := Nat.div_mul_le_self _ _
  constructor
  · rintro ⟨number_ge, number_lt⟩
    have number_le : number ≤ bitmap.granuleOf start :=
      (Nat.le_div_iff_mul_le bitmap.granule_pos).mpr (Nat.le_of_lt number_lt)
    have number_eq := Nat.le_antisymm number_le number_ge
    refine ⟨number_eq, fun aligned => ?_⟩
    rw [number_eq, granuleOf, Nat.div_mul_cancel aligned] at number_lt
    exact Nat.lt_irrefl _ number_lt
  · rintro ⟨rfl, unaligned⟩
    refine ⟨Nat.le_refl _, Nat.lt_of_le_of_ne floor_le fun same => unaligned ?_⟩
    exact ⟨bitmap.granuleOf start, by rw [Nat.mul_comm, same]⟩

theorem mem_clearRange_of_empty (empty : bytes.toNat = 0) (number : Nat) :
    number ∈ (Action.left (clearRange start bytes bitmap)).publicGranules ↔
      number ∈ bitmap.publicGranules ∧
        ¬(number = bitmap.granuleOf start.toNat ∧ ¬bitmap.granule ∣ start.toNat) := by
  have past_eq : start.toNat + bytes.toNat = start.toNat := by omega
  have row := bitmap.clears_row (past_eq ▸ start.toNat_lt)
  rw [row.publicGranules_eq, Set.mem_sdiff, Set.mem_ofPred_eq, past_eq, mem_row_self_iff]

theorem sparesOutside_of_pos (bytes_pos : 0 < bytes.toNat)
    (past_lt : start.toNat + bytes.toNat < Word.count) : bitmap.SparesOutside start bytes := by
  intro number public_before apart
  rw [(bitmap.clears_clearRange bytes_pos past_lt).publicGranules_eq]
  exact ⟨public_before, apart⟩

/--
Whether or not it comes to its end, a clearing keeps everything outside its range public, unless the
range is empty and starts in the midst of a public granule; then it clears that granule.
-/
theorem sparesOutside_iff (past_lt : start.toNat + bytes.toNat < Word.count) :
    (bitmap.SparesOutside start bytes ↔
        0 < bytes.toNat ∨ bitmap.granule ∣ start.toNat ∨
          bitmap.granuleOf start.toNat ∉ bitmap.publicGranules) ∧
      (¬bitmap.SparesOutside start bytes →
        (Action.left (clearRange start bytes bitmap)).publicGranules =
          bitmap.publicGranules \ {bitmap.granuleOf start.toNat}) := by
  rcases Nat.eq_zero_or_pos bytes.toNat with empty | bytes_pos
  · -- an empty range meets no granule, so it has to spare them all
    have mem_iff := @mem_clearRange_of_empty bitmap start bytes empty
    have apart (number : Nat) :
        ¬bitmap.Meets start.toNat (start.toNat + bytes.toNat) number := by
      rw [empty]
      exact bitmap.not_meets_empty start.toNat number
    by_cases aligned : bitmap.granule ∣ start.toNat
    · have spares : bitmap.SparesOutside start bytes := fun number public_before _ =>
        (mem_iff number).mpr ⟨public_before, fun lost => lost.2 aligned⟩
      exact ⟨iff_of_true spares (Or.inr (Or.inl aligned)), fun lost => absurd spares lost⟩
    · refine ⟨⟨fun spares => Or.inr (Or.inr fun public_before => ?_), ?_⟩, fun _ => ?_⟩
      · have still := (mem_iff _).mp (spares _ public_before (apart _))
        exact still.2 ⟨rfl, aligned⟩
      · rintro (bytes_pos | start_aligned | not_public)
        · omega
        · exact absurd start_aligned aligned
        · exact fun number public_before _ => (mem_iff number).mpr
            ⟨public_before, fun lost => not_public (lost.1 ▸ public_before)⟩
      · ext number
        rw [mem_iff, Set.mem_sdiff, Set.mem_singleton_iff, and_iff_left aligned]
  · have spares : bitmap.SparesOutside start bytes := sparesOutside_of_pos bytes_pos past_lt
    exact ⟨iff_of_true spares (Or.inl bytes_pos), fun lost => absurd spares lost⟩

/-- The object at the start of its granule is lost to a range of no bytes, but not to the next. -/
theorem sparesOutside_iff_ofByte :
    ¬(ofByte 1).SparesOutside ⟨0x1004⟩ 0 ∧ (ofByte 1).SparesOutside ⟨0x1008⟩ 0 ∧
      (ofByte 1).SparesOutside ⟨0x100c⟩ 4 := by
  have first_public : (ofByte 1).granuleOf 0x1004 ∈ (ofByte 1).publicGranules :=
    ⟨0x1000, rfl, rfl⟩
  have inside := @sparesOutside_iff (ofByte 1) ⟨0x1004⟩ 0 (by decide)
  have behind := @sparesOutside_iff (ofByte 1) ⟨0x1008⟩ 0 (by decide)
  have beyond := @sparesOutside_iff (ofByte 1) ⟨0x100c⟩ 4 (by decide)
  refine ⟨fun spares => ?_, behind.1.mpr (Or.inr (Or.inl (by decide))),
    beyond.1.mpr (Or.inl (by decide))⟩
  rcases inside.1.mp spares with bytes_pos | aligned | not_public
  · exact absurd bytes_pos (by decide)
  · exact absurd aligned (by decide)
  · exact not_public first_public

theorem granule_dvd_count (bitmap : Bitmap) : bitmap.granule ∣ Word.count := by
  rw [granule, granuleSize, Nat.one_shiftLeft]
  exact Nat.pow_dvd_pow 2 (show bitmap.logGranule ≤ 64 by have := bitmap.logGranule_lt; omega)

theorem stop?_clearFrom (bitmap : Bitmap) (count place : Nat) :
    Action.stop? (clearFrom count place bitmap) =
      if count = 0 ∨ place + count * bitmap.granule < Word.count then none
      else some .addOverflow := by
  induction count generalizing bitmap place with
  | zero => exact (if_pos (Or.inl rfl)).symm
  | succ count ih =>
      have granule_pos := bitmap.granule_pos
      rw [clearFrom_succ, Nat.succ_mul]
      by_cases fits : place + bitmap.granule < Word.count
      · rw [if_pos fits, ih, granule_unmark]
        refine if_congr ?_ rfl rfl
        rcases Nat.eq_zero_or_pos count with rfl | count_pos
        · simp [fits]
        · omega
      · rw [if_neg fits, if_neg (by omega)]
        rfl

/-- A clearing ends well exactly if it spares the last granule of the address space. -/
theorem stop?_clearRange (past_lt : start.toNat + bytes.toNat < Word.count) :
    Action.stop? (clearRange start bytes bitmap) =
      if start.toNat + bytes.toNat + bitmap.granule ≤ Word.count then none
      else some .addOverflow := by
  obtain ⟨granules, count_eq⟩ := bitmap.granule_dvd_count
  have granule_pos := bitmap.granule_pos
  have floor_le : bitmap.granuleOf start.toNat * bitmap.granule ≤ start.toNat :=
    Nat.div_mul_le_self _ _
  have first_lt : bitmap.granuleOf start.toNat < granules := by
    refine Nat.lt_of_mul_lt_mul_right (a := bitmap.granule) ?_
    rw [Nat.mul_comm granules, ← count_eq]
    omega
  -- the last granule of the address space is in the row if the row reaches that far
  have last_iff := @mem_row_iff bitmap (granules - 1) start.toNat (start.toNat + bytes.toNat)
    (by omega)
  rw [Set.mem_Ico, and_iff_right (Nat.le_sub_one_of_lt first_lt),
    and_iff_right (Nat.le_sub_one_of_lt first_lt)] at last_iff
  have last_eq : (granules - 1) * bitmap.granule + bitmap.granule = Word.count := by
    rw [← Nat.succ_mul, Nat.succ_eq_add_one, Nat.sub_add_cancel (Nat.one_le_of_lt first_lt),
      count_eq, Nat.mul_comm]
  rw [clearRange_eq bitmap past_lt, stop?_clearFrom]
  refine if_congr ?_ rfl rfl
  generalize (start.toNat + bytes.toNat - bitmap.granuleOf start.toNat * bitmap.granule +
    (bitmap.granule - 1)) / bitmap.granule = turns at last_iff ⊢
  have fits_iff : bitmap.granuleOf start.toNat * bitmap.granule + turns * bitmap.granule <
      Word.count ↔ bitmap.granuleOf start.toNat + turns < granules := by
    rw [← Nat.add_mul, count_eq, Nat.mul_comm bitmap.granule,
      Nat.mul_lt_mul_right granule_pos]
  rw [fits_iff]
  omega

/-- The bitmap is over the heap of the settings, in their granules. -/
structure Spans (bitmap : Bitmap) (settings : Settings) : Prop where
  base_eq : bitmap.base = settings.heapBase
  size_eq : bitmap.size = settings.heapSize
  logGranule_eq : bitmap.logGranule = settings.logGranule.toNat

/-- The range lies in the heap of the settings. -/
def InHeap (settings : Settings) (start : Address) (bytes : Word) : Prop :=
  settings.heapBase.toNat ≤ start.toNat ∧
    start.toNat + bytes.toNat ≤ settings.heapBase.toNat + settings.heapSize.toNat

/--
Clearing a range of a valid heap always ends: well if the address space goes on for a whole granule
behind the range, and else with the place after some granule that is no word.  So all ranges of a
heap can be cleared exactly if the address space goes on for a granule behind it.
-/
theorem completes_iff_of_valid {settings : Settings} (valid : settings.validate = .ok ())
    (spans : bitmap.Spans settings) :
    (∀ start bytes, InHeap settings start bytes →
        Sweep (start.toNat + bytes.toNat) bitmap
            (bitmap.granuleOf start.toNat * bitmap.granule) (clearRange start bytes bitmap) ∧
          Action.stop? (clearRange start bytes bitmap) =
            if start.toNat + bytes.toNat + granuleSize settings.logGranule.toNat ≤ Word.count
              then none else some .addOverflow) ∧
      ((∀ start bytes, InHeap settings start bytes →
          Action.stop? (clearRange start bytes bitmap) = none) ↔
        settings.heapBase.toNat + settings.heapSize.toNat +
          granuleSize settings.logGranule.toNat ≤ Word.count) := by
  have heap_lt := (Settings.validate_eq_ok_iff.mp valid).2.2
  have granule_eq : bitmap.granule = granuleSize settings.logGranule.toNat :=
    congrArg granuleSize spans.logGranule_eq
  have stop_eq (start : Address) (bytes : Word) (inside : InHeap settings start bytes) :
      Action.stop? (clearRange start bytes bitmap) =
        if start.toNat + bytes.toNat + granuleSize settings.logGranule.toNat ≤ Word.count
          then none else some .addOverflow := by
    rw [← granule_eq]
    exact stop?_clearRange (Nat.lt_of_le_of_lt inside.2 heap_lt)
  refine ⟨fun start bytes inside =>
    ⟨sweep_clearRange (Nat.lt_of_le_of_lt inside.2 heap_lt), stop_eq start bytes inside⟩,
    fun completes => ?_, fun fits start bytes inside => ?_⟩
  · have whole_inside : InHeap settings ⟨settings.heapBase⟩ settings.heapSize :=
      ⟨Nat.le_refl _, Nat.le_refl _⟩
    have whole_stop := stop_eq _ _ whole_inside
    rw [completes _ _ whole_inside] at whole_stop
    by_contra leaves
    rw [if_neg (show ¬(Address.toNat ⟨settings.heapBase⟩ + _ + _ ≤ _) from leaves)] at whole_stop
    cases whole_stop
  · rw [stop_eq start bytes inside, if_pos]
    have past_le := inside.2
    omega

/-- A heap of the last 64 bytes of the address space, less the very last. -/
private def lastBytes : Settings := { heapBase := 0xffffffffffffffc0, heapSize := 63, workers := 1 }

private def lastBytesBitmap : Bitmap :=
  { ofByte 0xff with
    base := lastBytes.heapBase
    size := lastBytes.heapSize
    base_aligned := by decide
    bytes_size := rfl }

/-- The last seven bytes of such a heap cannot be cleared, the eight before them can. -/
theorem completes_iff_of_valid_lastBytes :
    Action.stop? (clearRange ⟨0xfffffffffffffff8⟩ 7 lastBytesBitmap) = some .addOverflow ∧
      Action.stop? (clearRange ⟨0xfffffffffffffff0⟩ 8 lastBytesBitmap) = none ∧
      ¬∀ start bytes, InHeap lastBytes start bytes →
        Action.stop? (clearRange start bytes lastBytesBitmap) = none := by
  have spans : lastBytesBitmap.Spans lastBytes := ⟨rfl, rfl, rfl⟩
  obtain ⟨ranges, all_iff⟩ :=
    completes_iff_of_valid (show lastBytes.validate = .ok () by decide) spans
  refine ⟨(ranges ⟨0xfffffffffffffff8⟩ 7 (by unfold InHeap; decide)).2,
    (ranges ⟨0xfffffffffffffff0⟩ 8 (by unfold InHeap; decide)).2, fun completes => ?_⟩
  exact absurd (all_iff.mp completes) (by decide)

end Safepoint.Publication.Bitmap
