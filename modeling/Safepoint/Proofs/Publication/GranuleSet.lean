import Safepoint.Proofs.Publication.Clearing

/-!
# Runs of a bitmap

Marks and clearings may come in any order, fail, and run off the end of the address space.
`refines_of_new` says that a bitmap is all the same a set of granules, whatever the base, the size
and the granule: a mark inserts one, a clearing takes away those that it meets, and every answer can
be read off the set.
-/

namespace Safepoint.Publication.Bitmap

/-- A call that changes a bitmap. -/
inductive Call where
  | mark (address : Address)
  | clear (start : Address) (bytes : Word)
  deriving DecidableEq

namespace Call

/-- A range to be cleared has some byte, and its end is an address. -/
def Allowed : Call → Prop
  | mark _ => True
  | clear start bytes => 0 < bytes.toNat ∧ start.toNat + bytes.toNat < Word.count

instance (call : Call) : Decidable call.Allowed :=
  match call with
  | mark _ => inferInstanceAs (Decidable True)
  | clear _ _ => inferInstanceAs (Decidable (_ ∧ _))

end Call

/-- The bitmap that a call leaves, with or without a fault. -/
def leave (bitmap : Bitmap) : Call → Bitmap
  | .mark address => Action.left (markPublic address bitmap)
  | .clear start bytes => Action.left (clearRange start bytes bitmap)

/-- The bitmap after a row of calls. -/
def after (bitmap : Bitmap) (calls : List Call) : Bitmap := calls.foldl leave bitmap

/-- Some place of the granule is covered. -/
def CoversGranule (bitmap : Bitmap) (number : Nat) : Prop :=
  ∃ place, bitmap.granuleOf place = number ∧ bitmap.Covers place

/-- What a call should do to a set of granules of the covered range. -/
def update (range : Bitmap) (granules : Set Nat) : Call → Set Nat
  | .mark address =>
      if range.contains address then insert (range.granuleOf address.toNat) granules else granules
  | .clear start bytes =>
      granules \ {number | range.CoversGranule number ∧
        range.Meets start.toNat (start.toNat + bytes.toNat) number}

/-- The granules that should be public after a row of calls on a new bitmap. -/
def granulesAfter (range : Bitmap) (calls : List Call) : Set Nat := calls.foldl range.update ∅

/-- A bitmap answers as if it were a set of granules of the covered range. -/
structure Refines (range bitmap : Bitmap) (granules : Set Nat) : Prop where
  contains_eq : ∀ address, bitmap.contains address = range.contains address
  byteIndex_lt : ∀ address, range.contains address = true →
    bitmap.byteIndex address.toNat < bitmap.bytes.size
  isPublic_iff : ∀ address, bitmap.isPublic address = true ↔
    range.contains address = true ∧ range.granuleOf address.toNat ∈ granules
  markPublic_inside : ∀ address, range.contains address = true →
    ∃ fresh after, markPublic address bitmap = .ok fresh after ∧
      (fresh = true ↔ range.granuleOf address.toNat ∉ granules)
  markPublic_outside : ∀ address, range.contains address = false →
    markPublic address bitmap = .error (.markOutside address) bitmap
  finite : granules.Finite
  publicCount_eq : bitmap.publicCount = granules.ncard

/-- The public granules are those of a set, one mark for each. -/
structure Tracks (range bitmap : Bitmap) (granules : Set Nat) : Prop where
  sameRange : range.SameRange bitmap
  publicGranules_eq : bitmap.publicGranules = granules
  counted : bitmap.Counted

variable {range bitmap : Bitmap} {granules : Set Nat} {address start : Address} {bytes : Word}

theorem markPublic_of_marked (covered : bitmap.Covers address.toNat)
    (address_marked : bitmap.marked address.toNat = true) :
    markPublic address bitmap = .ok false bitmap := by
  rw [markPublic, dif_pos covered, if_pos address_marked]

theorem markPublic_of_unmarked (covered : bitmap.Covers address.toNat)
    (unmarked : bitmap.marked address.toNat = false) :
    markPublic address bitmap = .ok true (bitmap.setMark address.toNat covered) := by
  rw [markPublic, dif_pos covered, if_neg (by simp [unmarked])]

theorem markPublic_of_uncovered (uncovered : ¬bitmap.Covers address.toNat) :
    markPublic address bitmap = .error (.markOutside address) bitmap := by
  rw [markPublic, dif_neg uncovered]

namespace Tracks

theorem contains_iff (tracks : Tracks range bitmap granules) (address : Address) :
    range.contains address = true ↔ bitmap.Covers address.toNat := by
  rw [← tracks.sameRange.contains_eq, contains, decide_eq_true_iff]

theorem marked_iff (tracks : Tracks range bitmap granules)
    (covered : bitmap.Covers address.toNat) :
    bitmap.marked address.toNat = true ↔ range.granuleOf address.toNat ∈ granules := by
  rw [Bitmap.marked_iff, tracks.publicGranules_eq, tracks.sameRange.granuleOf_eq]
  exact and_iff_right covered

theorem refines (tracks : Tracks range bitmap granules) : Refines range bitmap granules where
  contains_eq := tracks.sameRange.contains_eq
  byteIndex_lt address inside := Bitmap.byteIndex_lt ((tracks.contains_iff address).mp inside)
  isPublic_iff address := by
    rw [Bitmap.isPublic_iff, tracks.sameRange.contains_eq, tracks.sameRange.granuleOf_eq,
      tracks.publicGranules_eq]
  markPublic_inside address inside := by
    have covered := (tracks.contains_iff address).mp inside
    have marked_iff := tracks.marked_iff covered
    cases address_marked : bitmap.marked address.toNat with
    | false =>
        refine ⟨true, _, markPublic_of_unmarked covered address_marked, ?_⟩
        simp [← marked_iff, address_marked]
    | true =>
        refine ⟨false, _, markPublic_of_marked covered address_marked, ?_⟩
        simp [← marked_iff, address_marked]
  markPublic_outside address outside := by
    apply markPublic_of_uncovered
    rw [← tracks.contains_iff, outside]
    exact Bool.false_ne_true
  finite := tracks.publicGranules_eq ▸ bitmap.publicGranules_finite
  publicCount_eq := tracks.publicGranules_eq ▸ tracks.counted

theorem mark (tracks : Tracks range bitmap granules) (address : Address) :
    Tracks range (bitmap.leave (.mark address)) (range.update granules (.mark address)) := by
  have contains_iff := tracks.contains_iff address
  by_cases covered : bitmap.Covers address.toNat
  · have marked_iff := tracks.marked_iff covered
    rw [update, if_pos (contains_iff.mpr covered), leave]
    cases address_marked : bitmap.marked address.toNat with
    | false =>
        rw [markPublic_of_unmarked covered address_marked]
        refine ⟨tracks.sameRange.trans (sameRange_setMark bitmap covered), ?_,
          tracks.counted.setMark covered address_marked⟩
        rw [Action.left, publicGranules_setMark, tracks.publicGranules_eq,
          tracks.sameRange.granuleOf_eq]
    | true =>
        rw [markPublic_of_marked covered address_marked,
          Set.insert_eq_of_mem (marked_iff.mp address_marked)]
        exact tracks
  · rw [update, if_neg (covered ∘ contains_iff.mp), leave, markPublic_of_uncovered covered]
    exact tracks

theorem clear (tracks : Tracks range bitmap granules)
    (allowed : Call.Allowed (.clear start bytes)) :
    Tracks range (bitmap.leave (.clear start bytes))
      (range.update granules (.clear start bytes)) := by
  have clears := clears_clearRange bitmap allowed.1 allowed.2
  refine ⟨tracks.sameRange.trans clears.sameRange, ?_, clears.counted tracks.counted⟩
  rw [leave, clears.publicGranules_eq, tracks.publicGranules_eq, update]
  ext number
  simp only [Set.mem_sdiff, Set.mem_ofPred_eq, not_and, Meets, tracks.sameRange.granuleOf_eq]
  refine and_congr_right fun member => ⟨fun apart _ => apart, fun apart => apart ?_⟩
  -- a public granule has a mark, and only covered places have one
  rw [← tracks.publicGranules_eq] at member
  obtain ⟨place, rfl, place_marked⟩ := member
  exact ⟨place, (tracks.sameRange.granuleOf_eq place).symm,
    (tracks.sameRange.covers_iff place).mp (covers_of_marked place_marked)⟩

theorem leave (tracks : Tracks range bitmap granules) {call : Call} (allowed : call.Allowed) :
    Tracks range (bitmap.leave call) (range.update granules call) := by
  cases call with
  | mark address => exact tracks.mark address
  | clear start bytes => exact tracks.clear allowed

theorem after (tracks : Tracks range bitmap granules) {calls : List Call}
    (allowed : ∀ call ∈ calls, call.Allowed) :
    Tracks range (bitmap.after calls) (calls.foldl range.update granules) := by
  induction calls generalizing bitmap granules with
  | nil => exact tracks
  | cons call calls ih =>
      have first := tracks.leave (allowed call List.mem_cons_self)
      exact ih first fun later later_mem => allowed later (List.mem_cons_of_mem call later_mem)

theorem of_new {base size : Word} {logGranule : UInt8}
    (accepted : Bitmap.new base size logGranule = .ok range) : Tracks range range ∅ := by
  have bytes_eq : range.bytes =
      Array.replicate (metadataBytes size.toNat logGranule.toNat) 0 := by
    unfold Bitmap.new at accepted
    split at accepted
    · split at accepted
      · cases accepted
        rfl
      · cases accepted
    · cases accepted
  have unmarked (place : Nat) : range.marked place = false := by
    unfold marked
    split
    · simp only [byteFor, bytes_eq, Array.getElem_replicate, Octet.test_zero]
    · rfl
  have no_granules : range.publicGranules = ∅ := by
    rw [Set.eq_empty_iff_forall_notMem]
    rintro number ⟨place, -, place_marked⟩
    rw [unmarked] at place_marked
    cases place_marked
  refine ⟨.refl range, no_granules, ?_⟩
  rw [Counted, no_granules, Set.ncard_empty, publicCount, bytes_eq, Array.toList_replicate,
    Octet.total_replicate_zero]

end Tracks

/-- Whatever was marked and cleared, a bitmap answers as the set of granules that is left. -/
theorem refines_of_new {base size : Word} {logGranule : UInt8}
    (accepted : Bitmap.new base size logGranule = .ok range) {calls : List Call}
    (allowed : ∀ call ∈ calls, call.Allowed) :
    Refines range (range.after calls) (range.granulesAfter calls) :=
  ((Tracks.of_new accepted).after allowed).refines

/-- Twenty bytes at the top of the address space, from the fifth granule of a metadata byte on. -/
def topRange : Bitmap :=
  { ofByte 0 with
    base := 0xffffffffffffffe8
    size := 20
    base_aligned := by decide
    bytes_size := rfl }

/-- The last clearing runs off the address space. -/
theorem refines_of_new_topRange :
    Bitmap.new 0xffffffffffffffe8 20 3 = .ok topRange ∧
      Refines topRange
        (topRange.after [.mark ⟨0xffffffffffffffe9⟩, .mark ⟨0xfffffffffffffffb⟩,
          .clear ⟨0xfffffffffffffffc⟩ 3])
        (topRange.granulesAfter [.mark ⟨0xffffffffffffffe9⟩, .mark ⟨0xfffffffffffffffb⟩,
          .clear ⟨0xfffffffffffffffc⟩ 3]) := by
  have accepted : Bitmap.new 0xffffffffffffffe8 20 3 = .ok topRange := rfl
  exact ⟨accepted, refines_of_new accepted (by decide)⟩

end Safepoint.Publication.Bitmap
