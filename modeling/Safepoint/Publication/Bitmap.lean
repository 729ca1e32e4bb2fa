import Safepoint.Action
import Safepoint.Publication.Octet

/-!
# The publication bitmap

One mark for each granule of a range of the address space says whether the object that starts in
the granule is public.  Marks stand in metadata bytes: the byte is chosen by the distance from the
base of the range and covers eight granules, the mark inside it by the granule's number in the
whole address space.  The central statements say that a covered address always has its metadata
byte, and that marking a private granule makes exactly one more mark.
-/

namespace Safepoint.Publication

/-- Granules under one metadata byte. -/
def granulesPerByte : Nat := 8

/-- Bytes in a granule with the given binary logarithm. -/
def granuleSize (logGranule : Nat) : Nat := 1 <<< logGranule

theorem granuleSize_pos (logGranule : Nat) : 0 < granuleSize logGranule := by
  rw [granuleSize, Nat.one_shiftLeft]
  exact Nat.two_pow_pos logGranule

/-- Metadata bytes for `size` bytes of address space in granules with the given logarithm. -/
def metadataBytes (size logGranule : Nat) : Nat :=
  ((size + (granuleSize logGranule - 1)) / granuleSize logGranule + (granulesPerByte - 1)) /
    granulesPerByte

/-- Marks for the granules of one range of the address space. -/
structure Bitmap where
  /-- Where the covered range starts. -/
  base : Word
  /-- Bytes in the covered range. -/
  size : Word
  /-- Binary logarithm of the bytes in a granule. -/
  logGranule : Nat
  /-- The marks, eight to a byte. -/
  bytes : Array UInt8
  /-- Eight granules fit a word. -/
  logGranule_lt : logGranule + 3 < 64
  /-- The covered range starts with a granule. -/
  base_aligned : base.toNat % granuleSize logGranule = 0
  /-- Every covered granule has its mark. -/
  bytes_size : bytes.size = metadataBytes size.toNat logGranule
  deriving DecidableEq

namespace Bitmap

/-- A bitmap of private granules over `size` bytes from `base`. -/
def new (base size : Word) (logGranule : UInt8) : Except Fault Bitmap :=
  if logGranule_lt : logGranule.toNat + 3 < 64 then
    if base_aligned : base.toNat % granuleSize logGranule.toNat = 0 then
      .ok
        { base := base
          size := size
          logGranule := logGranule.toNat
          bytes := Array.replicate (metadataBytes size.toNat logGranule.toNat) 0
          logGranule_lt := logGranule_lt
          base_aligned := base_aligned
          bytes_size := Array.size_replicate }
    else
      .error (.unalignedBase base (granuleSize logGranule.toNat))
  else
    .error (.granuleTooLarge logGranule)

/-- Bytes in a granule. -/
def granule (bitmap : Bitmap) : Nat := granuleSize bitmap.logGranule

theorem granule_pos (bitmap : Bitmap) : 0 < bitmap.granule :=
  granuleSize_pos bitmap.logGranule

/-- The place lies in the covered range. -/
def Covers (bitmap : Bitmap) (place : Nat) : Prop :=
  bitmap.base.toNat ≤ place ∧ place < bitmap.base.toNat + bitmap.size.toNat

instance (bitmap : Bitmap) (place : Nat) : Decidable (bitmap.Covers place) :=
  inferInstanceAs (Decidable (_ ∧ _))

/-- Whether an address lies in the covered range. -/
def contains (bitmap : Bitmap) (address : Address) : Bool :=
  decide (bitmap.Covers address.toNat)

/-- Number of the metadata byte for a covered place. -/
def byteIndex (bitmap : Bitmap) (place : Nat) : Nat :=
  (place - bitmap.base.toNat) / (granulesPerByte * bitmap.granule)

/-- Number of the mark inside its metadata byte. -/
def bitIndex (bitmap : Bitmap) (place : Nat) : Nat :=
  place / bitmap.granule % granulesPerByte

theorem bitIndex_lt (bitmap : Bitmap) (place : Nat) : bitmap.bitIndex place < granulesPerByte :=
  Nat.mod_lt _ (by decide)

theorem byteIndex_lt {bitmap : Bitmap} {place : Nat} (covered : bitmap.Covers place) :
    bitmap.byteIndex place < bitmap.bytes.size := by
  obtain ⟨base_le, place_lt⟩ := covered
  rw [bitmap.bytes_size, byteIndex, metadataBytes, granule, granulesPerByte,
    Nat.mul_comm, ← Nat.div_div_eq_div_mul]
  have granule_pos := granuleSize_pos bitmap.logGranule
  generalize granuleSize bitmap.logGranule = width at granule_pos
  have distance_le : place - bitmap.base.toNat ≤ bitmap.size.toNat - 1 := by omega
  have granule_le := Nat.div_le_div_right (c := width) distance_le
  have rounded : (bitmap.size.toNat + (width - 1)) / width =
      (bitmap.size.toNat - 1) / width + 1 := by
    rw [show bitmap.size.toNat + (width - 1) = (bitmap.size.toNat - 1) + width by omega,
      Nat.add_div_right _ granule_pos]
  rw [rounded]
  omega

/-- The metadata byte for a covered place. -/
def byteFor (bitmap : Bitmap) (place : Nat) (covered : bitmap.Covers place) : UInt8 :=
  getElem bitmap.bytes (bitmap.byteIndex place) (byteIndex_lt covered)

/-- Whether the granule around a place is covered and marked. -/
def marked (bitmap : Bitmap) (place : Nat) : Bool :=
  if covered : bitmap.Covers place then
    Octet.test (bitmap.byteFor place covered) (bitmap.bitIndex place)
  else
    false

/-- Whether the granule around an address is public; outside the covered range nothing is. -/
def isPublic (bitmap : Bitmap) (address : Address) : Bool := bitmap.marked address.toNat

/-- The bitmap with another byte in one position. -/
def setByte (bitmap : Bitmap) (index : Nat) (index_lt : index < bitmap.bytes.size)
    (byte : UInt8) : Bitmap :=
  { bitmap with
    bytes := bitmap.bytes.set index byte index_lt
    bytes_size := by rw [Array.size_set, bitmap.bytes_size] }

/-- The bitmap with the granule around a covered place marked. -/
def setMark (bitmap : Bitmap) (place : Nat) (covered : bitmap.Covers place) : Bitmap :=
  bitmap.setByte (bitmap.byteIndex place) (byteIndex_lt covered)
    (Octet.set (bitmap.byteFor place covered) (bitmap.bitIndex place))

/-- The bitmap with the granule around a covered place unmarked. -/
def clearMark (bitmap : Bitmap) (place : Nat) (covered : bitmap.Covers place) : Bitmap :=
  bitmap.setByte (bitmap.byteIndex place) (byteIndex_lt covered)
    (Octet.clear (bitmap.byteFor place covered) (bitmap.bitIndex place))

/-- Makes the granule around an address public; answers whether it was private before. -/
def markPublic (address : Address) : Action Bitmap Bool := fun bitmap =>
  if covered : bitmap.Covers address.toNat then
    if bitmap.marked address.toNat then .ok false bitmap
    else .ok true (bitmap.setMark address.toNat covered)
  else
    .error (.markOutside address) bitmap

/-- The bitmap with the granule around a place unmarked if it is covered. -/
def unmark (bitmap : Bitmap) (place : Nat) : Bitmap :=
  if covered : bitmap.Covers place then bitmap.clearMark place covered else bitmap

/--
Unmarks `granules` granules from `place` on.  The place after each granule is computed whether or
not another granule follows, and it has to fit a word.
-/
def clearFrom : (granules place : Nat) → Action Bitmap Unit
  | 0, _ => fun bitmap => .ok () bitmap
  | granules + 1, place => fun bitmap =>
      if place + bitmap.granule < Word.count then
        clearFrom granules (place + bitmap.granule) (bitmap.unmark place)
      else
        .error .addOverflow (bitmap.unmark place)

/--
Makes reclaimed memory private: every granule that starts before the end of the range, from the one
around `start` on.
-/
def clearRange (start : Address) (bytes : Word) : Action Bitmap Unit := fun bitmap =>
  match start.offset? bytes with
  | none => .error .addOverflow bitmap
  | some past =>
      let first := start.toNat / bitmap.granule * bitmap.granule
      clearFrom ((past.toNat - first + (bitmap.granule - 1)) / bitmap.granule) first bitmap

/-- Number of public granules. -/
def publicCount (bitmap : Bitmap) : Nat := Octet.total bitmap.bytes.toList

/-- Number of marks that are not set. -/
def clearCount (bitmap : Bitmap) : Nat := granulesPerByte * bitmap.bytes.size - bitmap.publicCount

theorem publicCount_le (bitmap : Bitmap) :
    bitmap.publicCount ≤ granulesPerByte * bitmap.bytes.size := by
  simpa [publicCount, granulesPerByte] using Octet.total_le bitmap.bytes.toList

theorem publicCount_setMark {bitmap : Bitmap} {place : Nat} (covered : bitmap.Covers place)
    (unmarked : bitmap.marked place = false) :
    (bitmap.setMark place covered).publicCount = bitmap.publicCount + 1 := by
  simp only [marked, covered, dite_true] at unmarked
  have count_set := Octet.count_set (bitmap.bitIndex_lt place) unmarked
  simp only [setMark, setByte, publicCount, Array.toList_set]
  exact Octet.total_set (by simpa using byteIndex_lt covered)
    (by simpa [byteFor] using count_set)

theorem bytes_size_setMark {bitmap : Bitmap} {place : Nat} (covered : bitmap.Covers place) :
    (bitmap.setMark place covered).bytes.size = bitmap.bytes.size := by
  simp [setMark, setByte]

/-- A granule that becomes public leaves one clear mark less. -/
theorem clearCount_setMark {bitmap : Bitmap} {place : Nat} (covered : bitmap.Covers place)
    (unmarked : bitmap.marked place = false) :
    (bitmap.setMark place covered).clearCount + 1 = bitmap.clearCount := by
  have after_le := publicCount_le (bitmap.setMark place covered)
  rw [publicCount_setMark covered unmarked, bytes_size_setMark covered] at after_le
  rw [clearCount, clearCount, publicCount_setMark covered unmarked, bytes_size_setMark covered]
  omega

/--
The addresses of `count` consecutive granules from `start` on that are public.  All the addresses
have to fit a word.
-/
def publicAmong (bitmap : Bitmap) (start : Address) (count : Nat) : Except Fault (List Address) :=
  if count = 0 ∨ start.toNat + (count - 1) * bitmap.granule < Word.count then
    .ok (((List.range count).map fun step =>
      (⟨UInt64.ofNat (start.toNat + step * bitmap.granule)⟩ : Address)).filter bitmap.isPublic)
  else
    .error .addOverflow

/-- The bitmap as it is shown in messages, without its marks. -/
def text (bitmap : Bitmap) : String :=
  s!"PublicBitmap \x7b base: {Word.hex bitmap.base}, size: {Word.decimal bitmap.size}, " ++
    s!"granule: {bitmap.granule} \x7d"

end Bitmap

end Safepoint.Publication
