import Safepoint.Proofs.Roots.Globals

/-!
# Blobs that are registered again

The code at an address may be installed anew, and its slots replaced, whether a scan has seen the
old ones or not.  This file follows one blob from such a registration on, while others come and go
and everything is scanned, also by visitors that stop half-way.  `stands_iff_of_register` says that
the new slots are in force until the blob changes again, with one exception: an empty row replaces
nothing, because a blob without slots is passed over before the old ones are taken away.
-/

namespace Safepoint.Roots.CodeBlobs

variable {State : Type} {blobs after : CodeBlobs} {entry : Address × List Address}
  {code other : Address} {slots : List Address}

/-- The slots that are registered for the code at an address, wherever they are. -/
def slotsAt (blobs : CodeBlobs) (code : Address) : List Address :=
  (blobs.mature.get? code).getD [] ++ (blobs.nursery.get? code).getD []

theorem taken_eq_length (blobs : CodeBlobs) (code : Address) :
    blobs.taken code = (blobs.slotsAt code).length := by
  have recorded_eq (table : Table Address (List Address)) :
      recorded table code = ((table.get? code).getD []).length := by
    rw [recorded]
    cases table.get? code <;> rfl
  rw [taken, slotsAt, List.length_append, recorded_eq, recorded_eq]

theorem slotsAt_of_forall_ne (absent : ∀ entry ∈ blobs.entries, entry.1 ≠ code) :
    blobs.slotsAt code = [] := by
  have mature_none : blobs.mature.get? code = none :=
    Table.get?_eq_none_iff.mpr fun entry old => absent entry (List.mem_append_left _ old)
  have nursery_none : blobs.nursery.get? code = none :=
    Table.get?_eq_none_iff.mpr fun entry young => absent entry (List.mem_append_right _ young)
  rw [slotsAt, mature_none, nursery_none]
  rfl

namespace Sound

theorem slotsAt_of_mem (sound : blobs.Sound) (member : (code, slots) ∈ blobs.entries) :
    blobs.slotsAt code = slots := by
  rcases List.mem_append.mp member with old | young
  · have found : blobs.mature.get? code = some slots := Table.get?_eq_some_iff.mpr old
    have not_young := (sound.separate code).resolve_right (by simp [found])
    rw [slotsAt, found, not_young]
    exact List.append_nil slots
  · have found : blobs.nursery.get? code = some slots := Table.get?_eq_some_iff.mpr young
    have not_old := (sound.separate code).resolve_left (by simp [found])
    rw [slotsAt, found, not_old]
    rfl

/-- A blob is registered under its address with all its slots, or there is none. -/
theorem mem_or_absent (sound : blobs.Sound) (code : Address) :
    (code, blobs.slotsAt code) ∈ blobs.entries ∨ ∀ entry ∈ blobs.entries, entry.1 ≠ code := by
  by_cases absent : ∀ entry ∈ blobs.entries, entry.1 ≠ code
  · exact Or.inr absent
  · push Not at absent
    obtain ⟨⟨_, slots⟩, member, rfl⟩ := absent
    rw [sound.slotsAt_of_mem member]
    exact Or.inl member

theorem ne_nil (sound : blobs.Sound) (member : entry ∈ blobs.entries) : entry.2 ≠ [] := by
  rcases List.mem_append.mp member with old | young
  · exact sound.mature_ne_nil entry old
  · exact sound.nursery_ne_nil entry young

theorem keys_nodup (sound : blobs.Sound) : (blobs.entries.map Prod.fst).Nodup := by
  rw [entries, List.map_append]
  exact sound.separate.keys_nodup

end Sound

/-- Whoever visits, a scan stops where a visit of all its slots in a row stops, if it does. -/
theorem scan_visits (nurseryOnly : Bool) (visit : Address → Action State Unit) (blobs : CodeBlobs)
    (state : State) :
    (Action.left (scan nurseryOnly visit (blobs, state))).2 =
        Action.left (visitSlots visit (blobs.scannedSlots nurseryOnly) state) ∧
      Action.stop? (scan nurseryOnly visit (blobs, state)) =
        Action.stop? (visitSlots visit (blobs.scannedSlots nurseryOnly) state) := by
  have scan_end := scan_end nurseryOnly visit blobs state
  generalize scan nurseryOnly visit (blobs, state) = ending at scan_end
  cases scan_end with
  | finished visited =>
      rw [visited]
      exact ⟨rfl, rfl⟩
  | old visited =>
      rw [scannedSlots, visitSlots_append, visited]
      exact ⟨rfl, rfl⟩
  | @young done lost code slots fault middle after passed split visited =>
      have row_eq : slotsOf blobs.nursery.entries = slotsOf done ++ slots ++ slotsOf lost := by
        rw [split, slotsOf_append, slotsOf_cons, List.append_assoc]
      have stopped : visitSlots visit (slotsOf blobs.nursery.entries) middle =
          .error fault after := by
        rw [row_eq, visitSlots_append, visited]
      rw [scannedSlots, visitSlots_append, passed]
      simp only [stopped]
      exact ⟨rfl, rfl⟩

/--
A full scan visits these slots for the blob at an address, in a row and once; all else that it
visits are the slots of other blobs.
-/
def FullScanVisits (blobs : CodeBlobs) (code : Address) (slots : List Address) : Prop :=
  ∃ front back : List (Address × List Address),
    (∀ entry ∈ front ++ back, entry.1 ≠ code ∧ blobs.slotsAt entry.1 = entry.2) ∧
    ∀ {State : Type} (visit : Address → Action State Unit) (state : State),
      (Action.left (scan false visit (blobs, state))).2 =
          Action.left (visitSlots visit (slotsOf front ++ slots ++ slotsOf back) state) ∧
        Action.stop? (scan false visit (blobs, state)) =
          Action.stop? (visitSlots visit (slotsOf front ++ slots ++ slotsOf back) state)

theorem scannedSlots_false (blobs : CodeBlobs) :
    blobs.scannedSlots false = slotsOf blobs.entries := by
  rw [entries, slotsOf_append]
  rfl

theorem Sound.fullScanVisits (sound : blobs.Sound) (code : Address) :
    blobs.FullScanVisits code (blobs.slotsAt code) := by
  have own (entry : Address × List Address) (member : entry ∈ blobs.entries) :
      blobs.slotsAt entry.1 = entry.2 := sound.slotsAt_of_mem member
  rcases sound.mem_or_absent code with member | absent
  · obtain ⟨front, back, split⟩ := List.append_of_mem member
    have keys_nodup := sound.keys_nodup
    rw [split, List.map_append, List.map_cons, List.nodup_middle, ← List.map_append,
      List.nodup_cons] at keys_nodup
    refine ⟨front, back, fun entry entry_mem => ⟨?_, own entry ?_⟩, fun visit state => ?_⟩
    · intro same
      exact keys_nodup.1 (List.mem_map.mpr ⟨entry, entry_mem, same⟩)
    · rw [split]
      rcases List.mem_append.mp entry_mem with before | behind
      · exact List.mem_append_left _ before
      · exact List.mem_append_right _ (List.mem_cons_of_mem _ behind)
    · have visits := scan_visits false visit blobs state
      rw [scannedSlots_false, split, slotsOf_append, slotsOf_cons, ← List.append_assoc] at visits
      exact visits
  · refine ⟨blobs.entries, [], fun entry member => ?_, fun visit state => ?_⟩
    · rw [List.append_nil] at member
      exact ⟨absent entry member, own entry member⟩
    · rw [slotsAt_of_forall_ne absent, ← scannedSlots_false]
      have visits := scan_visits false visit blobs state
      simpa [slotsOf] using visits

/--
The blobs after others than the one at `code` were registered and forgotten, and all were scanned;
the flag says whether no scan met a fault on the way.
-/
inductive Meanwhile (code : Address) (start : CodeBlobs) : Bool → CodeBlobs → Prop where
  | start : Meanwhile code start true start
  | register {whole : Bool} {blobs : CodeBlobs} {other : Address} (slots : List Address)
      (other_ne : other ≠ code) (meanwhile : Meanwhile code start whole blobs) :
      Meanwhile code start whole (Action.left (register other slots blobs))
  | unregister {whole : Bool} {blobs : CodeBlobs} {other : Address} (other_ne : other ≠ code)
      (meanwhile : Meanwhile code start whole blobs) :
      Meanwhile code start whole (Action.left (unregister other blobs))
  | scan {whole : Bool} {blobs : CodeBlobs} {State : Type} (nurseryOnly : Bool)
      (visit : Address → Action State Unit) (state : State)
      (meanwhile : Meanwhile code start whole blobs) :
      Meanwhile code start
        (whole && (Action.value? (scan nurseryOnly visit (blobs, state))).isSome)
        (Action.left (scan nurseryOnly visit (blobs, state))).1

/-- These slots are in force for the code at an address until the blob changes. -/
structure Stands (code : Address) (slots : List Address) (start : CodeBlobs) : Prop where
  recorded : ∀ later, Meanwhile code start true later → later.slotsAt code = slots
  visited : ∀ later, Meanwhile code start true later → later.FullScanVisits code slots
  forgotten : ∀ later, Meanwhile code start true later →
    ∃ left, CodeBlobs.unregister code later = .ok slots.length left
  /-- A scan that meets a fault may lose the blob, but brings back no other slots. -/
  recorded_or_lost : ∀ whole later, Meanwhile code start whole later →
    later.slotsAt code = slots ∨ later.slotsAt code = []

/-- What is kept of a blob while others change. -/
structure Unchanged (code : Address) (slots : List Address) (whole : Bool)
    (blobs : CodeBlobs) : Prop where
  sound : blobs.Sound
  slots_eq : ∀ entry ∈ blobs.entries, entry.1 = code → entry.2 = slots
  present : whole = true → slots ≠ [] → (code, slots) ∈ blobs.entries

theorem mem_entries_adding : entry ∈ (blobs.adding code slots).entries ↔
    entry = (code, slots) ∨ entry ∈ blobs.entries ∧ entry.1 ≠ code := by
  simp only [entries, adding, without, Table.insert, Table.erase, List.mem_append, List.mem_filter,
    List.mem_singleton, decide_eq_true_eq]
  tauto

/-- Other blobs stay when one is registered, whether or not there is room for it. -/
theorem Sound.mem_entries_register_iff (sound : blobs.Sound) (entry_ne : entry.1 ≠ other) :
    entry ∈ (Action.left (CodeBlobs.register other slots blobs)).entries ↔
      entry ∈ blobs.entries := by
  by_cases slots_nil : slots = []
  · have same : Action.left (CodeBlobs.register other slots blobs) = blobs := by
      simp [CodeBlobs.register, slots_nil, Action.left]
    rw [same]
  · rw [sound.register_eq slots_nil]
    split
    · have added : entry ≠ (other, slots) := fun same => entry_ne (congrArg Prod.fst same)
      rw [Action.left, mem_entries_adding]
      tauto
    · exact mem_entries_without.trans (and_iff_left entry_ne)

theorem mem_entries_unregister_iff (entry_ne : entry.1 ≠ other) :
    entry ∈ (Action.left (unregister other blobs)).entries ↔ entry ∈ blobs.entries := by
  rw [unregister_eq]
  split
  · exact mem_entries_without.trans (and_iff_left entry_ne)
  · exact mem_entries_without.trans (and_iff_left entry_ne)

namespace Unchanged

variable {whole : Bool}

theorem of_mem_iff (unchanged : Unchanged code slots whole blobs) (sound : after.Sound)
    (mem_iff : ∀ entry, entry.1 = code → (entry ∈ after.entries ↔ entry ∈ blobs.entries)) :
    Unchanged code slots whole after where
  sound := sound
  slots_eq entry member same :=
    unchanged.slots_eq entry ((mem_iff entry same).mp member) same
  present no_fault slots_ne_nil :=
    (mem_iff (code, slots) rfl).mpr (unchanged.present no_fault slots_ne_nil)

theorem scan (unchanged : Unchanged code slots whole blobs) (nurseryOnly : Bool)
    (visit : Address → Action State Unit) (state : State) :
    Unchanged code slots
      (whole && (Action.value? (CodeBlobs.scan nurseryOnly visit (blobs, state))).isSome)
      (Action.left (CodeBlobs.scan nurseryOnly visit (blobs, state))).1 := by
  have sound := unchanged.sound
  refine ⟨sound.scan nurseryOnly visit state, ?_, ?_⟩
  · exact fun entry member => unchanged.slots_eq entry (sound.mem_entries_of_scan member)
  · intro no_fault slots_ne_nil
    rw [Bool.and_eq_true] at no_fault
    have member := unchanged.present no_fault.1 slots_ne_nil
    have scan_end := scan_end nurseryOnly visit blobs state
    generalize CodeBlobs.scan nurseryOnly visit (blobs, state) = ending at scan_end no_fault ⊢
    cases scan_end with
    | finished visited =>
        rw [Action.left, entries, sound.entries_promoted List.prefix_rfl]
        exact List.mem_append_left _ member
    | old visited => cases no_fault.2
    | young passed split visited => cases no_fault.2

theorem meanwhile {start : CodeBlobs} (unchanged : Unchanged code slots true start)
    (meanwhile : Meanwhile code start whole blobs) : Unchanged code slots whole blobs := by
  induction meanwhile with
  | start => exact unchanged
  | register slots other_ne _ ih =>
      refine ih.of_mem_iff (ih.sound.register _ slots) fun entry same => ?_
      exact ih.sound.mem_entries_register_iff (by rw [same]; exact other_ne.symm)
  | unregister other_ne _ ih =>
      refine ih.of_mem_iff (ih.sound.unregister _) fun entry same => ?_
      exact mem_entries_unregister_iff (by rw [same]; exact other_ne.symm)
  | scan nurseryOnly visit state _ ih => exact ih.scan nurseryOnly visit state

theorem slotsAt_eq (unchanged : Unchanged code slots true blobs) : blobs.slotsAt code = slots := by
  by_cases slots_nil : slots = []
  · rw [slots_nil]
    refine slotsAt_of_forall_ne fun entry member same => ?_
    exact unchanged.sound.ne_nil member ((unchanged.slots_eq entry member same).trans slots_nil)
  · exact unchanged.sound.slotsAt_of_mem (unchanged.present rfl slots_nil)

theorem slotsAt_eq_or (unchanged : Unchanged code slots whole blobs) :
    blobs.slotsAt code = slots ∨ blobs.slotsAt code = [] := by
  rcases unchanged.sound.mem_or_absent code with member | absent
  · exact Or.inl (unchanged.slots_eq _ member rfl)
  · exact Or.inr (slotsAt_of_forall_ne absent)

theorem stands (unchanged : Unchanged code slots true blobs) : Stands code slots blobs where
  recorded later meanwhile := (unchanged.meanwhile meanwhile).slotsAt_eq
  visited later meanwhile := by
    have still := unchanged.meanwhile meanwhile
    have visits := still.sound.fullScanVisits code
    rwa [still.slotsAt_eq] at visits
  forgotten later meanwhile := by
    have still := unchanged.meanwhile meanwhile
    rw [unregister_eq, if_pos (still.sound.taken_le code), taken_eq_length, still.slotsAt_eq]
    exact ⟨_, rfl⟩
  recorded_or_lost whole later meanwhile := (unchanged.meanwhile meanwhile).slotsAt_eq_or

end Unchanged

/--
Registering a blob in blobs with any past succeeds exactly if there is nothing to register or a word
can count the slots, and touches no other blob.  The slots given are then in force until the blob
changes exactly if there are any, or there were none before.
-/
theorem stands_iff_of_register (reachable : Reachable blobs) (code : Address)
    (slots : List Address) :
    ((∃ after, register code slots blobs = .ok () after) ↔
        slots = [] ∨
          blobs.slotCount - (blobs.slotsAt code).length + slots.length < Word.count) ∧
      ∀ after, register code slots blobs = .ok () after →
        (∀ other, other ≠ code → after.ledger other = blobs.ledger other) ∧
          (Stands code slots after ↔ slots ≠ [] ∨ blobs.slotsAt code = []) := by
  have sound := Sound.of_reachable reachable
  by_cases slots_nil : slots = []
  · subst slots_nil
    have nothing : register code [] blobs = .ok () blobs := rfl
    refine ⟨iff_of_true ⟨blobs, nothing⟩ (Or.inl rfl), fun after registered => ?_⟩
    rw [nothing] at registered
    cases registered
    refine ⟨fun _ _ => rfl, fun stands => Or.inr (stands.recorded blobs .start), ?_⟩
    rintro (not_nil | nothing_before)
    · exact absurd rfl not_nil
    · refine Unchanged.stands ⟨sound, fun entry member same => ?_, fun _ not_nil => ?_⟩
      · rw [← nothing_before, ← same]
        exact (sound.slotsAt_of_mem member).symm
      · exact absurd rfl not_nil
  · rw [sound.register_eq slots_nil, taken_eq_length]
    by_cases room :
        blobs.slotCount - (blobs.slotsAt code).length + slots.length < Word.count
    · rw [if_pos room]
      refine ⟨iff_of_true ⟨_, rfl⟩ (Or.inr room), ?_⟩
      rintro after ⟨⟩
      refine ⟨fun other other_ne => ?_, iff_of_true (Unchanged.stands ?_) (Or.inl slots_nil)⟩
      · rw [Exact.ledger_adding, Function.update_of_ne other_ne]
      · have added := sound.register code slots
        rw [sound.register_eq slots_nil, taken_eq_length, if_pos room] at added
        refine ⟨added, fun entry member same => ?_, fun _ _ => mem_entries_adding.mpr (Or.inl rfl)⟩
        rcases mem_entries_adding.mp member with rfl | ⟨-, code_ne⟩
        · rfl
        · exact absurd same code_ne
    · rw [if_neg room]
      refine ⟨iff_of_false ?_ ?_, ?_⟩
      · rintro ⟨after, ⟨⟩⟩
      · exact not_or.mpr ⟨slots_nil, room⟩
      · rintro after ⟨⟩

/-- A blob that is installed anew without slots keeps its old ones, and one with slots does not. -/
theorem stands_iff_of_register_installed :
    (∃ after, register ⟨0x100⟩ [] aged = .ok () after ∧ ¬Stands ⟨0x100⟩ [] after) ∧
      ∃ after, register ⟨0x100⟩ [⟨24⟩] aged = .ok () after ∧ Stands ⟨0x100⟩ [⟨24⟩] after := by
  have aged_reachable : Reachable aged :=
    .scan true _ () (.register ⟨0x100⟩ [⟨8⟩, ⟨16⟩] .start)
  obtain ⟨empty_ends, empty_stands⟩ := stands_iff_of_register aged_reachable ⟨0x100⟩ []
  obtain ⟨ends, stands⟩ := stands_iff_of_register aged_reachable ⟨0x100⟩ [⟨24⟩]
  obtain ⟨unchanged, empty_eq⟩ := empty_ends.mpr (Or.inl rfl)
  obtain ⟨after, registered⟩ := ends.mpr (Or.inr (by decide))
  refine ⟨⟨unchanged, empty_eq, ?_⟩, after, registered, ?_⟩
  · rw [(empty_stands unchanged empty_eq).2]
    decide
  · exact (stands after registered).2.mpr (Or.inl (by decide))

end Safepoint.Roots.CodeBlobs
