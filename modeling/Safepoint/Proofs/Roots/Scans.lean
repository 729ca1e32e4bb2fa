import Mathlib.Data.List.Nodup
import Safepoint.Proofs.Roots.Blobs

/-!
# Scans that meet a fault

A visitor may stop a scan at any slot.  A fault among the mature blobs leaves everything as it was.
A fault in the nursery does not: the blobs visited so far are mature, but the blob under visit and
all after it are forgotten, and their slots still counted.  `kept_iff_of_fault` says that this is so
whatever happened before and whoever visits.
-/

namespace Safepoint.Roots.CodeBlobs

variable {State : Type} {visit : Address → Action State Unit} {blobs : CodeBlobs}
variable {nurseryOnly : Bool} {state : State}

theorem visitSlots_append (first rest : List Address) (state : State) :
    visitSlots visit (first ++ rest) state =
      match visitSlots visit first state with
      | .ok _ after => visitSlots visit rest after
      | .error fault after => .error fault after := by
  induction first generalizing state with
  | nil => rfl
  | cons slot first ih =>
      simp only [List.cons_append, visitSlots]
      cases visit slot state with
      | ok value after => exact ih after
      | error fault after => rfl

/-- The table with a row of blobs put in. -/
def insertAll (table : Table Address (List Address)) (entries : List (Address × List Address)) :
    Table Address (List Address) :=
  entries.foldl (fun table entry => table.insert entry.1 entry.2) table

theorem entries_insertAll {table : Table Address (List Address)}
    {entries : List (Address × List Address)}
    (fresh : ∀ entry ∈ entries, ∀ old ∈ table.entries, entry.1 ≠ old.1)
    (keys_nodup : (entries.map Prod.fst).Nodup) :
    (insertAll table entries).entries = table.entries ++ entries := by
  induction entries generalizing table with
  | nil => simp [insertAll]
  | cons entry entries ih =>
      obtain ⟨entry_fresh, rest_nodup⟩ := List.nodup_cons.mp keys_nodup
      have absent : table.has entry.1 = false :=
        Table.has_eq_false_iff.mpr fun old old_mem =>
          (fresh entry List.mem_cons_self old old_mem).symm
      have inserted := Table.entries_insert_of_not_has entry.2 absent
      have rest_fresh : ∀ other ∈ entries, ∀ old ∈ (table.insert entry.1 entry.2).entries,
          other.1 ≠ old.1 := by
        intro other other_mem old old_mem
        rw [inserted] at old_mem
        rcases List.mem_append.mp old_mem with present | added
        · exact fresh other (List.mem_cons_of_mem _ other_mem) old present
        · rw [List.mem_singleton] at added
          subst added
          intro same
          exact entry_fresh (same ▸ List.mem_map_of_mem other_mem)
      have rest_eq := ih rest_fresh rest_nodup
      rw [inserted, List.append_assoc] at rest_eq
      exact rest_eq

/-- How a visit of blobs taken out of the nursery ends. -/
inductive PromoteEnd (visit : Address → Action State Unit) (blobs : CodeBlobs)
    (entries : List (Address × List Address)) (state : State) :
    Ending (CodeBlobs × State) Nat → Prop where
  | finished {after : State} (visited : visitSlots visit (slotsOf entries) state = .ok () after) :
      PromoteEnd visit blobs entries state
        (.ok (slotsOf entries).length
          ({ blobs with mature := insertAll blobs.mature entries }, after))
  /-- The fault came while the blob at `code` was visited. -/
  | faulted {promoted lost : List (Address × List Address)} {code : Address}
      {slots : List Address} {fault : Fault} {after : State}
      (split : entries = promoted ++ (code, slots) :: lost)
      (visited : visitSlots visit (slotsOf promoted ++ slots) state = .error fault after) :
      PromoteEnd visit blobs entries state
        (.error fault ({ blobs with mature := insertAll blobs.mature promoted }, after))

theorem promote_end (visit : Address → Action State Unit) (blobs : CodeBlobs)
    (entries : List (Address × List Address))
    (state : State) :
    PromoteEnd visit blobs entries state (promote visit entries (blobs, state)) := by
  induction entries generalizing blobs state with
  | nil => exact .finished rfl
  | cons entry entries ih =>
      obtain ⟨code, slots⟩ := entry
      cases visited : visitSlots visit slots state with
      | error fault after =>
          have split : (code, slots) :: entries = [] ++ (code, slots) :: entries := rfl
          have whole : visitSlots visit (slotsOf [] ++ slots) state = .error fault after := visited
          simp only [promote, visited]
          exact .faulted split whole
      | ok value middle =>
          have slots_eq : slotsOf ((code, slots) :: entries) = slots ++ slotsOf entries := rfl
          have rest_end := ih { blobs with mature := blobs.mature.insert code slots } middle
          simp only [promote, visited]
          generalize promote visit entries _ = ending at rest_end
          cases rest_end with
          | @finished after rest_visited =>
              have whole : visitSlots visit (slotsOf ((code, slots) :: entries)) state =
                  .ok () after := by
                rw [slots_eq, visitSlots_append, visited]
                exact rest_visited
              have finished : PromoteEnd visit blobs ((code, slots) :: entries) state _ :=
                .finished whole
              rw [slots_eq, List.length_append] at finished
              exact finished
          | @faulted promoted lost lost_code lost_slots fault after split rest_visited =>
              have split_cons : (code, slots) :: entries =
                  ((code, slots) :: promoted) ++ (lost_code, lost_slots) :: lost := by
                rw [split, List.cons_append]
              have whole : visitSlots visit (slotsOf ((code, slots) :: promoted) ++ lost_slots)
                  state = .error fault after := by
                have slots_eq : slotsOf ((code, slots) :: promoted) = slots ++ slotsOf promoted :=
                  rfl
                rw [slots_eq, List.append_assoc, visitSlots_append, visited]
                exact rest_visited
              exact .faulted split_cons whole

/-- The slots of mature blobs that a scan visits. -/
def matureSlots (blobs : CodeBlobs) (nurseryOnly : Bool) : List Address :=
  if nurseryOnly then [] else blobs.mature.values.flatten

/-- The slots that a scan visits. -/
def scannedSlots (blobs : CodeBlobs) (nurseryOnly : Bool) : List Address :=
  blobs.matureSlots nurseryOnly ++ slotsOf blobs.nursery.entries

/-- The blobs when some of the nursery are mature and the others forgotten. -/
def promoted (blobs : CodeBlobs) (entries : List (Address × List Address)) : CodeBlobs :=
  { blobs with
    nursery := .empty
    mature := insertAll blobs.mature entries }

/-- How a scan ends. -/
inductive ScanEnd (nurseryOnly : Bool) (visit : Address → Action State Unit) (blobs : CodeBlobs)
    (state : State) : Ending (CodeBlobs × State) Nat → Prop where
  | finished {after : State}
      (visited : visitSlots visit (blobs.scannedSlots nurseryOnly) state = .ok () after) :
      ScanEnd nurseryOnly visit blobs state
        (.ok (blobs.scannedSlots nurseryOnly).length
          (blobs.promoted blobs.nursery.entries, after))
  /-- The fault came while a mature blob was visited. -/
  | old {fault : Fault} {after : State}
      (visited : visitSlots visit (blobs.matureSlots nurseryOnly) state = .error fault after) :
      ScanEnd nurseryOnly visit blobs state (.error fault (blobs, after))
  /-- The fault came while the blob at `code` was visited, which was in the nursery. -/
  | young {done lost : List (Address × List Address)} {code : Address} {slots : List Address}
      {fault : Fault} {middle after : State}
      (passed : visitSlots visit (blobs.matureSlots nurseryOnly) state = .ok () middle)
      (split : blobs.nursery.entries = done ++ (code, slots) :: lost)
      (visited : visitSlots visit (slotsOf done ++ slots) middle = .error fault after) :
      ScanEnd nurseryOnly visit blobs state (.error fault (blobs.promoted done, after))

theorem scan_end (nurseryOnly : Bool) (visit : Address → Action State Unit) (blobs : CodeBlobs)
    (state : State) :
    ScanEnd nurseryOnly visit blobs state (scan nurseryOnly visit (blobs, state)) := by
  cases passed : visitSlots visit (blobs.matureSlots nurseryOnly) state with
  | error fault after =>
      have ended : scan nurseryOnly visit (blobs, state) = .error fault (blobs, after) := by
        rw [matureSlots] at passed
        simp only [scan, passed]
      rw [ended]
      exact .old passed
  | ok value middle =>
      have promote_end := promote_end visit { blobs with nursery := .empty }
        blobs.nursery.entries middle
      have visited_mature := passed
      rw [matureSlots] at visited_mature
      simp only [scan, visited_mature]
      generalize promote visit blobs.nursery.entries _ = ending at promote_end
      cases promote_end with
      | @finished after visited =>
          have whole :
              visitSlots visit (blobs.scannedSlots nurseryOnly) state = .ok () after := by
            rw [scannedSlots, visitSlots_append, passed]
            exact visited
          have finished : ScanEnd nurseryOnly visit blobs state _ := .finished whole
          rw [scannedSlots, List.length_append, Nat.add_comm] at finished
          exact finished
      | faulted split visited => exact .young passed split visited

/-- The blobs after any calls and scans, with or without faults. -/
inductive Reachable : CodeBlobs → Prop where
  | start : Reachable {}
  | register {blobs : CodeBlobs} (code : Address) (slots : List Address)
      (reachable : Reachable blobs) : Reachable (Action.left (register code slots blobs))
  | unregister {blobs : CodeBlobs} (code : Address) (reachable : Reachable blobs) :
      Reachable (Action.left (unregister code blobs))
  | scan {blobs : CodeBlobs} {State : Type} (nurseryOnly : Bool)
      (visit : Address → Action State Unit) (state : State) (reachable : Reachable blobs) :
      Reachable (Action.left (scan nurseryOnly visit (blobs, state))).1

namespace Sound

variable {done : List (Address × List Address)}

theorem nursery_keys_nodup (blobs : CodeBlobs) (prefixed : done <+: blobs.nursery.entries) :
    (done.map Prod.fst).Nodup :=
  blobs.nursery.keys_nodup.sublist (prefixed.sublist.map Prod.fst)

/-- Nothing is forgotten of the blobs that are promoted, and nothing is overwritten. -/
theorem entries_promoted (sound : blobs.Sound) (prefixed : done <+: blobs.nursery.entries) :
    (blobs.promoted done).mature.entries = blobs.mature.entries ++ done :=
  entries_insertAll (fun entry entry_mem => sound.apart entry (prefixed.subset entry_mem))
    (nursery_keys_nodup blobs prefixed)

theorem promote (sound : blobs.Sound) (prefixed : done <+: blobs.nursery.entries) :
    (blobs.promoted done).Sound := by
  have entries_eq := sound.entries_promoted prefixed
  refine ⟨fun young young_mem => absurd young_mem List.not_mem_nil,
    fun entry entry_mem => absurd entry_mem List.not_mem_nil, ?_, ?_⟩
  · intro entry entry_mem
    rw [entries_eq] at entry_mem
    rcases List.mem_append.mp entry_mem with old | new
    · exact sound.mature_ne_nil entry old
    · exact sound.nursery_ne_nil entry (prefixed.subset new)
  · have registered_le := sound.registered_le
    obtain ⟨lost, nursery_eq⟩ := prefixed
    have nothing_young : (slotsOf (blobs.promoted done).nursery.entries).length = 0 := rfl
    have same_count : (blobs.promoted done).slotCount = blobs.slotCount := rfl
    rw [registered, slotTotal, slotTotal, ← nursery_eq, slotsOf_append,
      List.length_append] at registered_le
    rw [registered, slotTotal, slotTotal, entries_eq, slotsOf_append, List.length_append]
    omega

theorem scan (sound : blobs.Sound) (nurseryOnly : Bool) (visit : Address → Action State Unit)
    (state : State) : (Action.left (CodeBlobs.scan nurseryOnly visit (blobs, state))).1.Sound := by
  have scan_end := scan_end nurseryOnly visit blobs state
  generalize CodeBlobs.scan nurseryOnly visit (blobs, state) = ending at scan_end
  cases scan_end with
  | finished visited => exact sound.promote List.prefix_rfl
  | old visited => exact sound
  | @young done lost code slots fault middle after passed split visited =>
      exact sound.promote ⟨_, split.symm⟩

theorem of_reachable (reachable : Reachable blobs) : blobs.Sound := by
  induction reachable with
  | start => exact .empty
  | register code slots _ ih => exact ih.register code slots
  | unregister code _ ih => exact ih.unregister code
  | scan nurseryOnly visit state _ ih => exact ih.scan nurseryOnly visit state

end Sound

/-- A blob is registered with these slots, in the nursery or among the mature, but not in both. -/
def Registered (blobs : CodeBlobs) (code : Address) (slots : List Address) : Prop :=
  blobs.nursery.get? code = some slots ∧ blobs.mature.get? code = none ∨
    blobs.nursery.get? code = none ∧ blobs.mature.get? code = some slots

/-- No blob was lost, the count is exact, and the next full scan visits what was registered. -/
structure Kept (before after : CodeBlobs) : Prop where
  registered : ∀ code slots, before.Registered code slots → after.Registered code slots
  slotCount_eq : after.slotCount = after.registered
  rescanned : ∀ code slots, before.Registered code slots → ∀ slot ∈ slots,
    slot ∈ after.scannedSlots false

variable {code : Address} {slots : List Address} {after : CodeBlobs}

theorem Registered.mem_scannedSlots (is_registered : blobs.Registered code slots)
    {slot : Address} (slot_mem : slot ∈ slots) : slot ∈ blobs.scannedSlots false := by
  rw [scannedSlots, matureSlots, List.mem_append]
  rcases is_registered with ⟨found, -⟩ | ⟨-, found⟩
  · have entry_mem := Table.get?_eq_some_iff.mp found
    exact Or.inr (List.mem_flatten.mpr ⟨slots, List.mem_map_of_mem entry_mem, slot_mem⟩)
  · have entry_mem := Table.get?_eq_some_iff.mp found
    exact Or.inl (List.mem_flatten.mpr ⟨slots, List.mem_map_of_mem entry_mem, slot_mem⟩)

theorem kept_refl_iff : Kept blobs blobs ↔ blobs.slotCount = blobs.registered := by
  constructor
  · exact Kept.slotCount_eq
  · intro exact_count
    exact ⟨fun _ _ => id, exact_count, fun _ _ => Registered.mem_scannedSlots⟩

namespace Sound

variable {done lost : List (Address × List Address)}

theorem registered_of_nursery (sound : blobs.Sound)
    (entry_mem : (code, slots) ∈ blobs.nursery.entries) : blobs.Registered code slots := by
  refine Or.inl ⟨Table.get?_eq_some_iff.mpr entry_mem, Table.get?_eq_none_iff.mpr ?_⟩
  exact fun old old_mem => (sound.apart _ entry_mem old old_mem).symm

/-- A blob under whose visit a fault comes is gone. -/
theorem not_registered_promoted (sound : blobs.Sound)
    (split : blobs.nursery.entries = done ++ (code, slots) :: lost) :
    ¬(blobs.promoted done).Registered code slots := by
  have entry_mem : (code, slots) ∈ blobs.nursery.entries := by simp [split]
  have entries_eq := sound.entries_promoted ⟨_, split.symm⟩
  rintro (⟨found, -⟩ | ⟨-, found⟩)
  · cases found
  · rw [Table.get?_eq_some_iff, entries_eq] at found
    rcases List.mem_append.mp found with old | promoted
    · exact sound.apart _ entry_mem _ old rfl
    · have keys_nodup := blobs.nursery.keys_nodup
      rw [split, List.map_append, List.nodup_append] at keys_nodup
      exact keys_nodup.2.2 code (List.mem_map_of_mem promoted) code (by simp) rfl

end Sound

/--
A scan that meets a fault keeps what was registered exactly if the fault came among the mature
blobs, where it changes nothing, and the count was exact before.  Otherwise the blobs promoted so
far are all that is left of the nursery, and nothing is counted off.
-/
theorem kept_iff_of_fault {fault : Fault} {end_state : State} (reachable : Reachable blobs)
    (faulted : scan nurseryOnly visit (blobs, state) = .error fault (after, end_state)) :
    (Kept blobs after ↔
      blobs.slotCount = blobs.registered ∧
        visitSlots visit (blobs.matureSlots nurseryOnly) state = .error fault end_state) ∧
    (after = blobs ∨
      ∃ done code slots lost, blobs.nursery.entries = done ++ (code, slots) :: lost ∧
        after.nursery.entries = [] ∧ after.mature.entries = blobs.mature.entries ++ done ∧
        after.slotCount = blobs.slotCount) := by
  have sound := Sound.of_reachable reachable
  have scan_end := scan_end nurseryOnly visit blobs state
  rw [faulted] at scan_end
  cases scan_end with
  | old visited =>
      refine ⟨?_, Or.inl rfl⟩
      rw [kept_refl_iff]
      exact ⟨fun exact_count => ⟨exact_count, visited⟩, And.left⟩
  | @young done lost code slots _ middle _ passed split visited =>
      constructor
      · constructor
        · intro kept
          have entry_mem : (code, slots) ∈ blobs.nursery.entries := by simp [split]
          have still := kept.registered code slots (sound.registered_of_nursery entry_mem)
          exact absurd still (sound.not_registered_promoted split)
        · rintro ⟨-, old⟩
          simp [passed] at old
      · exact Or.inr ⟨done, code, slots, lost, split, rfl,
          sound.entries_promoted ⟨_, split.symm⟩, rfl⟩

/-- Lets a scan pass up to the given slot and stops it there. -/
def stopAt (last : Address) : Address → Action Unit Unit := fun slot state =>
  if slot = last then .error (.collaborator "stop") state else .ok () state

/-- One blob that no scan has seen. -/
def installed : CodeBlobs :=
  Action.left (register ⟨0x100⟩ [⟨8⟩, ⟨16⟩] {})

/-- The same blob once a scan has seen it. -/
def aged : CodeBlobs :=
  (Action.left (scan true (fun _ => pure ()) (installed, ()))).1

/-- A scan that stops at the second slot loses the blob in the nursery and keeps it when mature. -/
theorem kept_iff_of_fault_installed :
    ¬Kept installed (Action.left (scan true (stopAt ⟨16⟩) (installed, ()))).1 ∧
      Kept aged (Action.left (scan false (stopAt ⟨16⟩) (aged, ()))).1 := by
  have installed_reachable : Reachable installed := .register _ _ .start
  have aged_reachable : Reachable aged := .scan true _ () installed_reachable
  have young : scan true (stopAt ⟨16⟩) (installed, ()) =
      .error (.collaborator "stop") (Action.left (scan true (stopAt ⟨16⟩) (installed, ()))) := rfl
  have old : scan false (stopAt ⟨16⟩) (aged, ()) =
      .error (.collaborator "stop") (Action.left (scan false (stopAt ⟨16⟩) (aged, ()))) := rfl
  constructor
  · intro kept
    have passed := ((kept_iff_of_fault installed_reachable young).1.mp kept).2
    cases passed
  · exact (kept_iff_of_fault aged_reachable old).1.mpr ⟨by decide, rfl⟩

end Safepoint.Roots.CodeBlobs
