/-!
# Octets

One metadata byte holds the marks of eight granules.  This file gives the marks of a byte by
number, how one of them is set and cleared, and how many are set in a byte and in a row of bytes.
The central statements say that setting or clearing a mark changes that mark alone, and that
setting a clear mark adds one to their number.
-/

namespace Safepoint.Publication.Octet

/-- The byte with the single mark `place`. -/
def mask (place : Nat) : UInt8 := UInt8.ofBitVec (BitVec.twoPow 8 place)

/-- Whether a byte has a mark. -/
def test (byte : UInt8) (place : Nat) : Bool := byte.toBitVec.getLsbD place

/-- The byte with one mark set. -/
def set (byte : UInt8) (place : Nat) : UInt8 := byte ||| mask place

/-- The byte with one mark cleared. -/
def clear (byte : UInt8) (place : Nat) : UInt8 := byte &&& ~~~mask place

/-- How many marks a byte has. -/
def count (byte : UInt8) : Nat := (List.range 8).countP (test byte)

theorem test_set (byte : UInt8) {place : Nat} (place_lt : place < 8) (other : Nat) :
    test (set byte place) other = (decide (other = place) || test byte other) := by
  by_cases same : other = place
  · subst same
    simp [test, set, mask, place_lt]
  · simp [test, set, mask, same, Ne.symm same]

theorem test_clear (byte : UInt8) (place other : Nat) :
    test (clear byte place) other = (decide (other ≠ place) && test byte other) := by
  by_cases same : other = place
  · subst same
    by_cases inside : other < 8
    · simp [test, clear, mask, inside]
    · simp [test, BitVec.getLsbD_of_ge _ _ (Nat.le_of_not_lt inside)]
  · by_cases inside : other < 8
    · simp [test, clear, mask, same, inside]
    · simp [test, BitVec.getLsbD_of_ge _ _ (Nat.le_of_not_lt inside)]

@[simp]
theorem test_zero (place : Nat) : test 0 place = false := by
  simp [test]

theorem eq_of_test_eq {left right : UInt8} (same : ∀ place, test left place = test right place) :
    left = right := by
  rw [← UInt8.toBitVec_inj]
  exact BitVec.eq_of_getLsbD_eq fun place _ => same place

theorem set_clear {byte : UInt8} {place : Nat} (place_lt : place < 8)
    (marked : test byte place = true) : set (clear byte place) place = byte := by
  apply eq_of_test_eq
  intro other
  rw [test_set _ place_lt, test_clear]
  by_cases same : other = place
  · simp [same, marked]
  · simp [same]

theorem clear_of_unmarked {byte : UInt8} {place : Nat} (unmarked : test byte place = false) :
    clear byte place = byte := by
  apply eq_of_test_eq
  intro other
  rw [test_clear]
  by_cases same : other = place
  · simp [same, unmarked]
  · simp [same]

theorem count_le (byte : UInt8) : count byte ≤ 8 :=
  Nat.le_trans List.countP_le_length (by simp)

theorem count_zero : count 0 = 0 := by
  simp [count]

private theorem countP_insert {places : List Nat} (places_nodup : places.Nodup) {place : Nat}
    (place_mem : place ∈ places) {marked : Nat → Bool} (unmarked : marked place = false) :
    places.countP (fun other => decide (other = place) || marked other) =
      places.countP marked + 1 := by
  induction places with
  | nil => cases place_mem
  | cons head tail ih =>
      obtain ⟨head_fresh, tail_nodup⟩ := List.nodup_cons.mp places_nodup
      rcases List.mem_cons.mp place_mem with rfl | tail_mem
      · have tail_same : tail.countP (fun other => decide (other = place) || marked other) =
            tail.countP marked := by
          apply List.countP_congr
          intro other other_mem
          have other_ne : other ≠ place := fun same => head_fresh (same ▸ other_mem)
          simp [other_ne]
        simp [tail_same, unmarked]
      · have head_ne : head ≠ place := fun same => head_fresh (same ▸ tail_mem)
        simp only [List.countP_cons, ih tail_nodup tail_mem, head_ne, decide_false, Bool.false_or]
        omega

theorem count_set {byte : UInt8} {place : Nat} (place_lt : place < 8)
    (unmarked : test byte place = false) : count (set byte place) = count byte + 1 := by
  have marks : test (set byte place) = fun other => decide (other = place) || test byte other :=
    funext (test_set byte place_lt)
  rw [count, marks]
  exact countP_insert List.nodup_range (List.mem_range.mpr place_lt) unmarked

/-- How many marks a row of bytes has. -/
def total (bytes : List UInt8) : Nat := bytes.foldr (fun byte rest => count byte + rest) 0

@[simp]
theorem total_nil : total [] = 0 := rfl

@[simp]
theorem total_cons (byte : UInt8) (bytes : List UInt8) :
    total (byte :: bytes) = count byte + total bytes := rfl

theorem total_replicate_zero (length : Nat) : total (List.replicate length 0) = 0 := by
  induction length with
  | zero => rfl
  | succ length ih => rw [List.replicate_succ, total_cons, count_zero, ih]

theorem total_le (bytes : List UInt8) : total bytes ≤ 8 * bytes.length := by
  induction bytes with
  | nil => simp
  | cons byte bytes ih =>
      have byte_le := count_le byte
      rw [total_cons, List.length_cons]
      omega

theorem total_set {bytes : List UInt8} {index : Nat} (index_lt : index < bytes.length)
    {byte : UInt8} (byte_count : count byte = count bytes[index] + 1) :
    total (bytes.set index byte) = total bytes + 1 := by
  induction bytes generalizing index with
  | nil => cases index_lt
  | cons head tail ih =>
      cases index with
      | zero =>
          simp only [List.getElem_cons_zero] at byte_count
          rw [List.set_cons_zero, total_cons, total_cons, byte_count]
          omega
      | succ index =>
          simp only [List.getElem_cons_succ] at byte_count
          have tail_lt : index < tail.length := by simpa using index_lt
          rw [List.set_cons_succ, total_cons, total_cons, ih tail_lt byte_count]
          omega

end Safepoint.Publication.Octet
