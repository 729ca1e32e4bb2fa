import Mathlib.Data.List.Basic
import Safepoint.Roots.CodeBlobs

/-!
# Registered blobs

What holds of the installed code whatever was registered, forgotten and scanned before, also by
scans that met a fault: a blob is in the nursery or mature but never both, no blob is without
slots, and no more slots are registered than counted.  The converse of the last does not hold,
because a scan that meets a fault can lose blobs without counting them off.
-/

namespace Safepoint.Roots.CodeBlobs

/-- The slots of a row of blobs. -/
def slotsOf (entries : List (Address × List Address)) : List Address :=
  (entries.map Prod.snd).flatten

/-- Number of slots in all blobs of a table. -/
def slotTotal (table : Table Address (List Address)) : Nat :=
  (slotsOf table.entries).length

/-- Number of slots in all blobs that are registered. -/
def registered (blobs : CodeBlobs) : Nat :=
  slotTotal blobs.mature + slotTotal blobs.nursery

/-- The blobs without the one at an address. -/
def without (blobs : CodeBlobs) (code : Address) : CodeBlobs :=
  { blobs with
    mature := blobs.mature.erase code
    nursery := blobs.nursery.erase code }

/-- Number of slots of the blob at an address, wherever it is. -/
def taken (blobs : CodeBlobs) (code : Address) : Nat :=
  recorded blobs.mature code + recorded blobs.nursery code

/-- What holds of the blobs at all times. -/
structure Sound (blobs : CodeBlobs) : Prop where
  apart : ∀ young ∈ blobs.nursery.entries, ∀ old ∈ blobs.mature.entries, young.1 ≠ old.1
  nursery_ne_nil : ∀ entry ∈ blobs.nursery.entries, entry.2 ≠ []
  mature_ne_nil : ∀ entry ∈ blobs.mature.entries, entry.2 ≠ []
  registered_le : blobs.registered ≤ blobs.slotCount

variable {blobs : CodeBlobs} {code : Address} {slots : List Address}

theorem slotsOf_cons (entry : Address × List Address) (entries : List (Address × List Address)) :
    slotsOf (entry :: entries) = entry.2 ++ slotsOf entries :=
  rfl

theorem slotsOf_append (first second : List (Address × List Address)) :
    slotsOf (first ++ second) = slotsOf first ++ slotsOf second := by
  simp [slotsOf]

theorem slotTotal_erase (table : Table Address (List Address)) (code : Address) :
    slotTotal (table.erase code) + recorded table code = slotTotal table := by
  obtain ⟨entries, keys_nodup⟩ := table
  simp only [slotTotal, recorded, Table.erase, Table.get?]
  induction entries with
  | nil => rfl
  | cons entry entries ih =>
      obtain ⟨fresh, rest_nodup⟩ := List.nodup_cons.mp keys_nodup
      by_cases same : entry.1 = code
      · have kept : ∀ other ∈ entries, other.1 ≠ code := by
          rintro other other_mem rfl
          exact fresh (same ▸ List.mem_map_of_mem other_mem)
        have rest_eq : (entries.filter fun other => other.1 ≠ code) = entries :=
          List.filter_eq_self.mpr fun other other_mem => by simpa using kept other other_mem
        rw [List.filter_cons_of_neg (by simpa using same), rest_eq,
          List.find?_cons_of_pos (by simpa using same), slotsOf_cons, List.length_append]
        exact Nat.add_comm _ _
      · have rest_eq := ih rest_nodup
        rw [List.filter_cons_of_pos (by simpa using same), slotsOf_cons, List.length_append,
          List.find?_cons_of_neg (by simpa using same), slotsOf_cons, List.length_append, ← rest_eq,
          Nat.add_assoc]

theorem slotTotal_insert (table : Table Address (List Address)) (code : Address)
    (slots : List Address) :
    slotTotal (table.insert code slots) = slotTotal (table.erase code) + slots.length := by
  simp [slotTotal, Table.insert, slotsOf]

theorem registered_without (blobs : CodeBlobs) (code : Address) :
    (blobs.without code).registered + blobs.taken code = blobs.registered := by
  have mature_eq := slotTotal_erase blobs.mature code
  have nursery_eq := slotTotal_erase blobs.nursery code
  simp only [registered, without, taken]
  omega

namespace Sound

theorem empty : Sound {} where
  apart _ young_mem := absurd young_mem List.not_mem_nil
  nursery_ne_nil _ entry_mem := absurd entry_mem List.not_mem_nil
  mature_ne_nil _ entry_mem := absurd entry_mem List.not_mem_nil
  registered_le := Nat.le_refl 0

theorem taken_le (sound : blobs.Sound) (code : Address) : blobs.taken code ≤ blobs.slotCount := by
  have balance := registered_without blobs code
  have registered_le := sound.registered_le
  omega

theorem without (sound : blobs.Sound) (code : Address) {count : Nat}
    (covers : (blobs.without code).registered ≤ count) :
    ({ blobs.without code with slotCount := count } : CodeBlobs).Sound where
  apart young young_mem old old_mem :=
    sound.apart young (List.mem_of_mem_filter young_mem) old (List.mem_of_mem_filter old_mem)
  nursery_ne_nil entry entry_mem := sound.nursery_ne_nil entry (List.mem_of_mem_filter entry_mem)
  mature_ne_nil entry entry_mem := sound.mature_ne_nil entry (List.mem_of_mem_filter entry_mem)
  registered_le := covers

theorem insert (sound : blobs.Sound) (not_mature : blobs.mature.has code = false)
    (slots_ne_nil : slots ≠ []) {count : Nat} (covers : blobs.registered + slots.length ≤ count) :
    ({ blobs with
        nursery := blobs.nursery.insert code slots
        slotCount := count } : CodeBlobs).Sound := by
  have entry_cases : ∀ entry ∈ (blobs.nursery.insert code slots).entries,
      entry ∈ blobs.nursery.entries ∨ entry = (code, slots) := by
    intro entry entry_mem
    rcases List.mem_append.mp entry_mem with old | new
    · exact Or.inl (List.mem_of_mem_filter old)
    · exact Or.inr (List.mem_singleton.mp new)
  refine ⟨?_, ?_, sound.mature_ne_nil, ?_⟩
  · intro young young_mem old old_mem
    rcases entry_cases young young_mem with present | rfl
    · exact sound.apart young present old old_mem
    · exact (Table.has_eq_false_iff.mp not_mature old old_mem).symm
  · intro entry entry_mem
    rcases entry_cases entry entry_mem with present | rfl
    · exact sound.nursery_ne_nil entry present
    · exact slots_ne_nil
  · have total_eq := slotTotal_insert blobs.nursery code slots
    have erase_eq := slotTotal_erase blobs.nursery code
    simp only [registered] at covers ⊢
    omega

end Sound

/-- Taking a blob away and counting its slots off meets a fault only if too few were counted. -/
theorem take_countOff (blobs : CodeBlobs) (code : Address) :
    (take code >>= countOff) blobs =
      if blobs.taken code ≤ blobs.slotCount then
        .ok () { blobs.without code with slotCount := blobs.slotCount - blobs.taken code }
      else
        .error .subtractOverflow (blobs.without code) :=
  rfl

theorem unregister_eq (blobs : CodeBlobs) (code : Address) :
    unregister code blobs =
      if blobs.taken code ≤ blobs.slotCount then
        .ok (blobs.taken code)
          { blobs.without code with slotCount := blobs.slotCount - blobs.taken code }
      else
        .error .subtractOverflow (blobs.without code) := by
  by_cases covered : blobs.taken code ≤ blobs.slotCount
  · refine Eq.trans ?_ (if_pos covered).symm
    have counted_off : countOff (blobs.taken code) (blobs.without code) = .ok () _ :=
      if_pos covered
    simp only [unregister, bind, EStateM.bind, take]
    rw [taken, without] at counted_off
    rw [counted_off]
    rfl
  · refine Eq.trans ?_ (if_neg covered).symm
    have refused : countOff (blobs.taken code) (blobs.without code) = .error _ _ :=
      if_neg covered
    simp only [unregister, bind, EStateM.bind, take]
    rw [taken, without] at refused
    rw [refused]
    rfl

namespace Sound

theorem register (sound : blobs.Sound) (code : Address) (slots : List Address) :
    (Action.left (CodeBlobs.register code slots blobs)).Sound := by
  have balance := registered_without blobs code
  have registered_le := sound.registered_le
  rw [CodeBlobs.register, take_countOff, if_pos (sound.taken_le code)]
  split
  · exact sound
  · rename_i not_empty
    have slots_ne_nil : slots ≠ [] := by simpa using not_empty
    simp only
    split
    · have counted_off : ({ blobs.without code with
          slotCount := blobs.slotCount - blobs.taken code } : CodeBlobs).Sound :=
        sound.without code (by omega)
      refine counted_off.insert ?_ slots_ne_nil (Nat.add_le_add_right ?_ _)
      · simp [Table.has, CodeBlobs.without]
      · exact counted_off.registered_le
    · exact sound.without code (by omega)

theorem unregister (sound : blobs.Sound) (code : Address) :
    (Action.left (CodeBlobs.unregister code blobs)).Sound := by
  have balance := registered_without blobs code
  have registered_le := sound.registered_le
  rw [unregister_eq, if_pos (sound.taken_le code)]
  exact sound.without code (by omega)

end Sound

end Safepoint.Roots.CodeBlobs
