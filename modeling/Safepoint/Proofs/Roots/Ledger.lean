import Mathlib.Algebra.BigOperators.Finprod
import Mathlib.Data.Set.Card
import Safepoint.Proofs.Roots.Scans

/-!
# The ledger of registered blobs

Nursery, mature blobs and counter together stand for one map: from the address of a blob to its
slots and to whether a scan has yet to see them.  This file gives the map with the sums taken over
it, and reads it off the two tables.  `total_ledger` and `visits_ledger` say that the sums over the
map are those over the tables, as long as no blob is in both.
-/

namespace Safepoint.Roots

/-- For the address of each blob its slots, and whether the blob is new. -/
abbrev Ledger := Address → Option (List Address × Bool)

namespace Ledger

/-- The slots of a blob that a scan visits. -/
def due (nurseryOnly : Bool) : Option (List Address × Bool) → List Address
  | none => []
  | some (slots, isNew) => if nurseryOnly && !isNew then [] else slots

/-- The slots that a scan of all blobs, or of the new ones only, should visit. -/
noncomputable def visits (ledger : Ledger) (nurseryOnly : Bool) : Multiset Address :=
  ∑ᶠ code, (due nurseryOnly (ledger code) : Multiset Address)

/-- Number of slots in all blobs. -/
noncomputable def total (ledger : Ledger) : Nat :=
  ∑ᶠ code, (due false (ledger code)).length

/-- The addresses of blobs. -/
def codes (ledger : Ledger) : Set Address := {code | ledger code ≠ none}

end Ledger

section Sums

variable {Value Sum : Type} [AddCommMonoid Sum]

theorem support_get? (table : Table Address Value) (weight : Value → Sum) :
    (Function.support fun code => (table.get? code).elim 0 weight) ⊆ table.keys.toFinset := by
  intro code weighs
  rw [List.coe_toFinset]
  refine Table.mem_keys_iff.mpr fun absent => weighs ?_
  simp only [absent, Option.elim_none]

theorem finite_support_get? (table : Table Address Value) (weight : Value → Sum) :
    (Function.support fun code => (table.get? code).elim 0 weight).Finite :=
  (Finset.finite_toSet _).subset (support_get? table weight)

/-- A sum over all keys is one over the entries, because no key has two. -/
theorem finsum_get? (table : Table Address Value) (weight : Value → Sum) :
    ∑ᶠ code, (table.get? code).elim 0 weight =
      (table.entries.map fun entry => weight entry.2).sum := by
  calc ∑ᶠ code, (table.get? code).elim 0 weight
      = ∑ code ∈ table.keys.toFinset, (table.get? code).elim 0 weight :=
        finsum_eq_sum_of_support_subset _ (support_get? table weight)
    _ = (table.keys.map fun code => (table.get? code).elim 0 weight).sum :=
        List.sum_toFinset _ table.keys_nodup
    _ = (table.entries.map fun entry => weight entry.2).sum := by
        rw [Table.keys, List.map_map]
        congr 1
        refine List.map_congr_left fun entry entry_mem => ?_
        have found : table.get? entry.1 = some entry.2 := Table.get?_eq_some_iff.mpr entry_mem
        simp [found]

end Sums

namespace CodeBlobs

/-- The map that two tables stand for. -/
def ledger (blobs : CodeBlobs) : Ledger := fun code =>
  match blobs.nursery.get? code with
  | some slots => some (slots, true)
  | none => (blobs.mature.get? code).map fun slots => (slots, false)

/-- No blob is in both tables. -/
def Apart (blobs : CodeBlobs) : Prop :=
  ∀ code, blobs.nursery.get? code = none ∨ blobs.mature.get? code = none

variable {blobs : CodeBlobs} {code : Address} {slots : List Address}

theorem Sound.separate (sound : blobs.Sound) : blobs.Apart := by
  intro code
  cases young : blobs.nursery.get? code with
  | none => exact Or.inl rfl
  | some slots =>
      refine Or.inr (Table.get?_eq_none_iff.mpr fun old old_mem => ?_)
      exact (sound.apart _ (Table.get?_eq_some_iff.mp young) old old_mem).symm

theorem Apart.keys_nodup (apart : blobs.Apart) :
    (blobs.mature.keys ++ blobs.nursery.keys).Nodup := by
  refine List.Nodup.append blobs.mature.keys_nodup blobs.nursery.keys_nodup ?_
  intro code old young
  exact (apart code).elim (Table.mem_keys_iff.mp young) (Table.mem_keys_iff.mp old)

theorem ledger_eq_young_iff :
    blobs.ledger code = some (slots, true) ↔ blobs.nursery.get? code = some slots := by
  unfold ledger
  split
  · rename_i young_slots young
    simp [young]
  · rename_i young
    simp [young]

theorem ledger_eq_old_iff (apart : blobs.Apart) :
    blobs.ledger code = some (slots, false) ↔ blobs.mature.get? code = some slots := by
  unfold ledger
  split
  · rename_i young_slots young
    have old := (apart code).resolve_left (by simp [young])
    simp [old]
  · simp

theorem ledger_eq_none_iff :
    blobs.ledger code = none ↔ blobs.nursery.get? code = none ∧ blobs.mature.get? code = none := by
  unfold ledger
  split
  · rename_i young_slots young
    simp [young]
  · rename_i young
    simp [young]

section Sums

variable {Sum : Type} [AddCommMonoid Sum]

/-- What a blob adds to a sum it adds from one table or the other. -/
theorem weight_ledger (apart : blobs.Apart) (weight : List Address → Sum)
    (weight_nil : weight [] = 0) (nurseryOnly : Bool) (code : Address) :
    weight (Ledger.due nurseryOnly (blobs.ledger code)) =
      (blobs.nursery.get? code).elim 0 weight +
        (blobs.mature.get? code).elim 0 fun slots => if nurseryOnly then 0 else weight slots := by
  cases young : blobs.nursery.get? code with
  | some slots =>
      have old := (apart code).resolve_left (by simp [young])
      simp [ledger, young, old, Ledger.due]
  | none =>
      cases old : blobs.mature.get? code with
      | none => simp [ledger, young, old, Ledger.due, weight_nil]
      | some slots => cases nurseryOnly <;> simp [ledger, young, old, Ledger.due, weight_nil]

theorem finsum_ledger (apart : blobs.Apart) (weight : List Address → Sum)
    (weight_nil : weight [] = 0) (nurseryOnly : Bool) :
    ∑ᶠ code, weight (Ledger.due nurseryOnly (blobs.ledger code)) =
      (blobs.nursery.entries.map fun entry => weight entry.2).sum +
        (blobs.mature.entries.map fun entry => if nurseryOnly then 0 else weight entry.2).sum := by
  simp only [weight_ledger apart weight weight_nil]
  rw [finsum_add_distrib (finite_support_get? _ _) (finite_support_get? _ _), finsum_get?,
    finsum_get?]

end Sums

theorem slotTotal_eq_sum (table : Table Address (List Address)) :
    slotTotal table = (table.entries.map fun entry => entry.2.length).sum := by
  rw [slotTotal, slotsOf, List.length_flatten, List.map_map]
  rfl

theorem total_ledger (apart : blobs.Apart) : blobs.ledger.total = blobs.registered := by
  have sum_eq := finsum_ledger apart List.length rfl false
  rw [Ledger.total, sum_eq, registered, slotTotal_eq_sum, slotTotal_eq_sum, Nat.add_comm]
  rfl

theorem coe_slotsOf (entries : List (Address × List Address)) :
    (slotsOf entries : Multiset Address) =
      (entries.map fun entry => (entry.2 : Multiset Address)).sum := by
  induction entries with
  | nil => rfl
  | cons entry entries ih =>
      rw [slotsOf_cons, ← Multiset.coe_add, ih, List.map_cons, List.sum_cons]

theorem visits_ledger (apart : blobs.Apart) (nurseryOnly : Bool) :
    blobs.ledger.visits nurseryOnly = (blobs.scannedSlots nurseryOnly : Multiset Address) := by
  have sum_eq := finsum_ledger apart (fun slots => (slots : Multiset Address)) rfl nurseryOnly
  rw [Ledger.visits, sum_eq, scannedSlots, ← Multiset.coe_add, coe_slotsOf, add_comm]
  cases nurseryOnly with
  | true => simp [matureSlots]
  | false =>
      have mature_eq : blobs.matureSlots false = slotsOf blobs.mature.entries := rfl
      rw [mature_eq, coe_slotsOf]
      rfl

theorem codes_ledger (apart : blobs.Apart) :
    blobs.ledger.codes.Finite ∧ blobs.ledger.codes.ncard = blobs.size := by
  have codes_eq : blobs.ledger.codes = ↑(blobs.mature.keys ++ blobs.nursery.keys).toFinset := by
    ext code
    simp only [Ledger.codes, Set.mem_ofPred_eq, Ne, ledger_eq_none_iff, List.coe_toFinset,
      List.mem_append, Table.mem_keys_iff]
    tauto
  rw [codes_eq]
  refine ⟨Finset.finite_toSet _, ?_⟩
  rw [Set.ncard_coe_finset, List.toFinset_card_of_nodup apart.keys_nodup, List.length_append, size,
    Table.keys, Table.keys, List.length_map, List.length_map]
  rfl

end CodeBlobs

end Safepoint.Roots
