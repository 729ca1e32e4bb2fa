import Safepoint.Proofs.Roots.Ledger

/-!
# Histories of code roots

Blobs are registered, forgotten and scanned in any order, and while nothing stops a scan each of
them moves between the tables as its entry in the ledger says.  `follows_of_fits` draws the whole
history: at every moment the tables, the counter, the answers and the slots that a scan visits are
those of the ledger.
-/

namespace Safepoint.Roots

variable {State : Type}

namespace CodeBlobs

/-- A call that changes or visits the blobs; a visitor may have a state of its own. -/
inductive Call (State : Type) where
  | register (code : Address) (slots : List Address)
  | unregister (code : Address)
  | scan (nurseryOnly : Bool) (visit : Address → Action State Unit)

/-- Number of slots that a call registers. -/
def Call.registers : Call State → Nat
  | register _ slots => slots.length
  | _ => 0

/-- The visitor of a scan, if the call is one, never meets a fault. -/
def Call.Gentle : Call State → Prop
  | scan _ visit => ∀ slot state, ∃ after, visit slot state = .ok () after
  | _ => True

/-- The blobs that a call leaves, with the state of the visitors. -/
def leave (world : CodeBlobs × State) : Call State → CodeBlobs × State
  | .register code slots => (Action.left (register code slots world.1), world.2)
  | .unregister code => (Action.left (unregister code world.1), world.2)
  | .scan nurseryOnly visit => Action.left (scan nurseryOnly visit world)

end CodeBlobs

namespace Ledger

/-- What a call should do to the ledger. -/
def update (ledger : Ledger) : CodeBlobs.Call State → Ledger
  | .register code slots =>
      if slots = [] then ledger else Function.update ledger code (some (slots, true))
  | .unregister code => Function.update ledger code none
  | .scan _ _ => fun code => (ledger code).map fun entry => (entry.1, false)

/-- At no moment of a history are there more slots than a word can count. -/
def Fits (ledger : Ledger) (calls : List (CodeBlobs.Call State)) : Prop :=
  ∀ front, front <+: calls → (front.foldl update ledger).total < Word.count

theorem Fits.head {ledger : Ledger} {calls : List (CodeBlobs.Call State)}
    (fits : ledger.Fits calls) : ledger.total < Word.count :=
  fits [] List.nil_prefix

theorem Fits.tail {ledger : Ledger} {call : CodeBlobs.Call State}
    {calls : List (CodeBlobs.Call State)} (fits : ledger.Fits (call :: calls)) :
    (ledger.update call).Fits calls :=
  fun front is_front => fits (call :: front) (List.prefix_cons_inj call |>.mpr is_front)

end Ledger

namespace CodeBlobs

/-- Tables and counter are those of a ledger. -/
structure Agrees (blobs : CodeBlobs) (ledger : Ledger) : Prop where
  young_iff : ∀ code slots,
    blobs.nursery.get? code = some slots ↔ ledger code = some (slots, true)
  old_iff : ∀ code slots,
    blobs.mature.get? code = some slots ↔ ledger code = some (slots, false)
  apart : ∀ code, blobs.nursery.get? code = none ∨ blobs.mature.get? code = none
  finite : ledger.codes.Finite
  size_eq : blobs.size = ledger.codes.ncard
  slotCount_eq : blobs.slotCount = ledger.total

/-- A call meets no fault, and answers and visits what the ledger says. -/
def Answers (world : CodeBlobs × State) (ledger : Ledger) : Call State → Prop
  | .register code slots => ∃ after, register code slots world.1 = .ok () after
  | .unregister code =>
      ∃ after, unregister code world.1 = .ok (Ledger.due false (ledger code)).length after
  | .scan nurseryOnly visit =>
      ∃ (visited : List Address) (after : CodeBlobs) (end_state : State),
        (visited : Multiset Address) = ledger.visits nurseryOnly ∧
        visitSlots visit visited world.2 = .ok () end_state ∧
        scan nurseryOnly visit world = .ok visited.length (after, end_state)

/-- At every moment of a history tables and ledger agree, and each call answers as it should. -/
def Follows (world : CodeBlobs × State) (ledger : Ledger) : List (Call State) → Prop
  | [] => Agrees world.1 ledger
  | call :: calls =>
      Agrees world.1 ledger ∧ Answers world ledger call ∧
        Follows (leave world call) (ledger.update call) calls

/-- The blobs are sound and the counter is exact, as is so when no scan has met a fault. -/
structure Exact (blobs : CodeBlobs) : Prop where
  sound : blobs.Sound
  slotCount_eq : blobs.slotCount = blobs.registered

variable {blobs : CodeBlobs} {code : Address} {slots : List Address} {nurseryOnly : Bool}

/-- The blobs with a new one at an address, in place of what was there. -/
def adding (blobs : CodeBlobs) (code : Address) (slots : List Address) : CodeBlobs :=
  { blobs.without code with
    nursery := (blobs.without code).nursery.insert code slots
    slotCount := blobs.slotCount - blobs.taken code + slots.length }

/-- Registering meets a fault only if a word cannot count the slots. -/
theorem Sound.register_eq (sound : blobs.Sound) (slots_ne_nil : slots ≠ []) :
    CodeBlobs.register code slots blobs =
      if blobs.slotCount - blobs.taken code + slots.length < Word.count then
        .ok () (blobs.adding code slots)
      else
        .error .addOverflow { blobs.without code with slotCount := blobs.slotCount } := by
  rw [CodeBlobs.register, if_neg (by simpa using slots_ne_nil), take_countOff,
    if_pos (sound.taken_le code)]
  rfl

namespace Exact

theorem empty : Exact {} where
  sound := .empty
  slotCount_eq := rfl

theorem agrees (exact : blobs.Exact) : blobs.Agrees blobs.ledger where
  young_iff _ _ := ledger_eq_young_iff.symm
  old_iff _ _ := (ledger_eq_old_iff exact.sound.separate).symm
  apart := exact.sound.separate
  finite := (codes_ledger exact.sound.separate).1
  size_eq := (codes_ledger exact.sound.separate).2.symm
  slotCount_eq := exact.slotCount_eq.trans (total_ledger exact.sound.separate).symm

theorem taken_le (exact : blobs.Exact) (code : Address) : blobs.taken code ≤ blobs.slotCount :=
  exact.sound.taken_le code

theorem adding (exact : blobs.Exact) (code : Address) (slots_ne_nil : slots ≠ []) :
    (blobs.adding code slots).Exact := by
  have balance := registered_without blobs code
  have counted := exact.slotCount_eq
  have left_registered : (blobs.without code).registered =
      blobs.slotCount - blobs.taken code := by omega
  have left_sound : ({ blobs.without code with
      slotCount := blobs.slotCount - blobs.taken code } : CodeBlobs).Sound :=
    exact.sound.without code (Nat.le_of_eq left_registered)
  refine ⟨left_sound.insert ?_ slots_ne_nil ?_, ?_⟩
  · simp [Table.has, CodeBlobs.without]
  · exact Nat.add_le_add_right (Nat.le_of_eq left_registered) _
  · have erased_twice := slotTotal_erase (blobs.nursery.erase code) code
    have nothing : recorded (blobs.nursery.erase code) code = 0 := by simp [recorded]
    have nursery_eq := slotTotal_insert (blobs.nursery.erase code) code slots
    simp only [registered, CodeBlobs.adding, CodeBlobs.without] at left_registered ⊢
    omega

theorem ledger_adding (blobs : CodeBlobs) (code : Address) (slots : List Address) :
    (blobs.adding code slots).ledger =
      Function.update blobs.ledger code (some (slots, true)) := by
  funext other
  by_cases same : other = code
  · subst same
    simp [ledger, CodeBlobs.adding]
  · simp [ledger, CodeBlobs.adding, CodeBlobs.without, Table.get?_insert, Table.get?_erase, same]

theorem register_eq (exact : blobs.Exact) (slots_ne_nil : slots ≠ [])
    (room : Ledger.total (Function.update blobs.ledger code (some (slots, true))) <
      Word.count) : register code slots blobs = .ok () (blobs.adding code slots) := by
  have added := exact.adding code slots_ne_nil
  rw [← ledger_adding, total_ledger added.sound.separate, ← added.slotCount_eq] at room
  rw [exact.sound.register_eq slots_ne_nil]
  exact if_pos room

theorem ledger_without (blobs : CodeBlobs) (code : Address) (count : Nat) :
    ledger { blobs.without code with slotCount := count } =
      Function.update blobs.ledger code none := by
  funext other
  by_cases same : other = code
  · subst same
    simp [ledger, CodeBlobs.without]
  · simp [ledger, CodeBlobs.without, Table.get?_erase, same]

theorem without (exact : blobs.Exact) (code : Address) :
    Exact { blobs.without code with slotCount := blobs.slotCount - blobs.taken code } := by
  have balance := registered_without blobs code
  have counted := exact.slotCount_eq
  have left_registered : blobs.slotCount - blobs.taken code =
      (blobs.without code).registered := by omega
  exact ⟨exact.sound.without code (Nat.le_of_eq left_registered.symm), left_registered⟩

theorem taken_eq (exact : blobs.Exact) (code : Address) :
    blobs.taken code = (Ledger.due false (blobs.ledger code)).length := by
  have weight_eq := weight_ledger exact.sound.separate List.length rfl false code
  rw [weight_eq, taken, recorded, recorded, Nat.add_comm]
  congr 1
  · cases blobs.nursery.get? code <;> rfl
  · cases blobs.mature.get? code <;> rfl

theorem unregister_ending (exact : blobs.Exact) (code : Address) :
    unregister code blobs = .ok (Ledger.due false (blobs.ledger code)).length
      { blobs.without code with slotCount := blobs.slotCount - blobs.taken code } := by
  rw [unregister_eq, if_pos (exact.taken_le code), exact.taken_eq]

theorem visitSlots_of_gentle {visit : Address → Action State Unit}
    (gentle : ∀ slot state, ∃ after, visit slot state = .ok () after) (slots : List Address)
    (state : State) : ∃ after, visitSlots visit slots state = .ok () after := by
  induction slots generalizing state with
  | nil => exact ⟨state, rfl⟩
  | cons slot slots ih =>
      obtain ⟨middle, visited⟩ := gentle slot state
      simp only [visitSlots, visited]
      exact ih middle

theorem scan_ending (nurseryOnly : Bool) {visit : Address → Action State Unit}
    (gentle : ∀ slot state, ∃ after, visit slot state = .ok () after) (blobs : CodeBlobs)
    (state : State) :
    ∃ end_state,
      visitSlots visit (blobs.scannedSlots nurseryOnly) state = .ok () end_state ∧
      scan nurseryOnly visit (blobs, state) = .ok (blobs.scannedSlots nurseryOnly).length
        (blobs.promoted blobs.nursery.entries, end_state) := by
  have scan_end := scan_end nurseryOnly visit blobs state
  generalize CodeBlobs.scan nurseryOnly visit (blobs, state) = ending at scan_end
  cases scan_end with
  | finished visited => exact ⟨_, visited, rfl⟩
  | old visited =>
      obtain ⟨after, passed⟩ := visitSlots_of_gentle gentle (blobs.matureSlots nurseryOnly) state
      rw [passed] at visited
      cases visited
  | @young done lost code slots fault middle after passed split visited =>
      obtain ⟨after, whole⟩ := visitSlots_of_gentle gentle (slotsOf done ++ slots) middle
      rw [whole] at visited
      cases visited

theorem promote (exact : blobs.Exact) : (blobs.promoted blobs.nursery.entries).Exact := by
  refine ⟨exact.sound.promote List.prefix_rfl, ?_⟩
  have entries_eq := exact.sound.entries_promoted List.prefix_rfl
  have counted := exact.slotCount_eq
  have nothing_young :
      (slotsOf (blobs.promoted blobs.nursery.entries).nursery.entries).length = 0 := rfl
  have same_count : (blobs.promoted blobs.nursery.entries).slotCount = blobs.slotCount := rfl
  rw [registered, slotTotal, slotTotal] at counted
  rw [registered, slotTotal, slotTotal, entries_eq, slotsOf_append, List.length_append]
  omega

theorem ledger_promoted (exact : blobs.Exact) :
    (blobs.promoted blobs.nursery.entries).ledger =
      fun code => (blobs.ledger code).map fun entry => (entry.1, false) := by
  have entries_eq := exact.sound.entries_promoted List.prefix_rfl
  have promoted_apart := exact.promote.sound.separate
  funext code
  apply Option.ext
  rintro ⟨slots, isNew⟩
  cases isNew with
  | true =>
      simp only [ledger_eq_young_iff, promoted, Table.get?_empty, Option.map_eq_some_iff]
      simp
  | false =>
      rw [ledger_eq_old_iff promoted_apart, Table.get?_eq_some_iff, entries_eq, List.mem_append,
        ← Table.get?_eq_some_iff, ← Table.get?_eq_some_iff,
        ← ledger_eq_old_iff exact.sound.separate, ← ledger_eq_young_iff, Option.map_eq_some_iff]
      constructor
      · rintro (old | young)
        · exact ⟨_, old, rfl⟩
        · exact ⟨_, young, rfl⟩
      · rintro ⟨⟨found, isNew⟩, found_eq, pair_eq⟩
        cases pair_eq
        cases isNew with
        | true => exact Or.inr found_eq
        | false => exact Or.inl found_eq

theorem exists_update (exact : blobs.Exact) (call : Call State) :
    ∃ after : CodeBlobs, after.Exact ∧ after.ledger = blobs.ledger.update call ∧
      after.slotCount ≤ blobs.slotCount + call.registers := by
  cases call with
  | register code slots =>
      by_cases nothing : slots = []
      · exact ⟨blobs, exact, (if_pos nothing).symm, Nat.le_add_right _ _⟩
      · refine ⟨blobs.adding code slots, exact.adding code nothing, ?_, ?_⟩
        · rw [Ledger.update, if_neg nothing, ledger_adding]
        · exact Nat.add_le_add_right (Nat.sub_le _ _) _
  | unregister code => exact ⟨_, exact.without code, ledger_without blobs code _, Nat.sub_le _ _⟩
  | scan nurseryOnly visit => exact ⟨_, exact.promote, exact.ledger_promoted, Nat.le_refl _⟩

/-- A call that fits answers as it should and leaves the ledger that it should. -/
theorem step {world : CodeBlobs × State} (exact : world.1.Exact) {call : Call State}
    (gentle : call.Gentle) (room : (world.1.ledger.update call).total < Word.count) :
    Answers world world.1.ledger call ∧ (leave world call).1.Exact ∧
      (leave world call).1.ledger = world.1.ledger.update call := by
  obtain ⟨blobs, state⟩ := world
  cases call with
  | register code slots =>
      by_cases nothing : slots = []
      · subst nothing
        rw [Ledger.update, if_pos rfl]
        exact ⟨⟨blobs, rfl⟩, exact, rfl⟩
      · rw [Ledger.update, if_neg nothing] at room ⊢
        have register_eq := exact.register_eq nothing room
        rw [leave, register_eq]
        exact ⟨⟨_, register_eq⟩, exact.adding code nothing, ledger_adding blobs code slots⟩
  | unregister code =>
      have unregister_eq := exact.unregister_ending code
      rw [leave, unregister_eq]
      exact ⟨⟨_, unregister_eq⟩, exact.without code, ledger_without blobs code _⟩
  | scan nurseryOnly visit =>
      obtain ⟨end_state, visited, scan_eq⟩ := scan_ending nurseryOnly gentle blobs state
      rw [leave, scan_eq]
      exact ⟨⟨_, _, end_state, (visits_ledger exact.sound.separate nurseryOnly).symm, visited,
        scan_eq⟩, exact.promote, exact.ledger_promoted⟩

end Exact

/-- It is enough that a word can count all slots that are ever registered. -/
theorem fits_of_registers {calls : List (Call State)}
    (room : (calls.map Call.registers).sum < Word.count) :
    Ledger.Fits (fun _ => none) calls := by
  suffices fits : ∀ blobs : CodeBlobs, blobs.Exact →
      blobs.slotCount + (calls.map Call.registers).sum < Word.count → blobs.ledger.Fits calls from
    fits {} .empty (by simpa using room)
  clear room
  intro blobs exact room
  induction calls generalizing blobs with
  | nil =>
      intro front is_front
      rw [List.prefix_nil.mp is_front, List.foldl_nil, total_ledger exact.sound.separate,
        ← exact.slotCount_eq]
      omega
  | cons call calls ih =>
      rw [List.map_cons, List.sum_cons] at room
      obtain ⟨after, exact_after, ledger_eq, count_le⟩ := exact.exists_update call
      intro front is_front
      cases front with
      | nil =>
          rw [List.foldl_nil, total_ledger exact.sound.separate, ← exact.slotCount_eq]
          omega
      | cons head front =>
          obtain ⟨rfl, rest_front⟩ := List.cons_prefix_cons.mp is_front
          rw [List.foldl_cons, ← ledger_eq]
          exact ih after exact_after (by omega) front rest_front

/-- As long as a word can count the slots and no visitor meets a fault, the ledger tells all. -/
theorem follows_of_fits (state : State) {calls : List (Call State)}
    (gentle : ∀ call ∈ calls, call.Gentle) (fits : Ledger.Fits (fun _ => none) calls) :
    Follows ({}, state) (fun _ => none) calls := by
  suffices follows : ∀ world : CodeBlobs × State, world.1.Exact →
      world.1.ledger.Fits calls → Follows world world.1.ledger calls from
    follows ({}, state) .empty fits
  clear fits
  intro world exact fits
  induction calls generalizing world with
  | nil => exact exact.agrees
  | cons call calls ih =>
      obtain ⟨answers, exact_after, ledger_eq⟩ :=
        exact.step (gentle call List.mem_cons_self) fits.tail.head
      have rest_fits := fits.tail
      rw [← ledger_eq] at rest_fits
      have rest := ih (fun later later_mem => gentle later (List.mem_cons_of_mem call later_mem))
        (leave world call) exact_after rest_fits
      rw [ledger_eq] at rest
      exact ⟨exact.agrees, answers, rest⟩

/-- Notes down what it visits. -/
def noteDown (slot : Address) : Action (List Address) Unit :=
  fun seen => .ok () (seen ++ [slot])

/-- A blob that was scanned is registered again, and then both scanned and forgotten. -/
def replacing : List (Call (List Address)) :=
  [.register ⟨0x100⟩ [⟨8⟩, ⟨16⟩], .scan true noteDown, .register ⟨0x100⟩ [⟨24⟩],
    .register ⟨0x100⟩ [], .scan false noteDown, .unregister ⟨0x100⟩, .scan false noteDown]

theorem follows_of_fits_replacing :
    (∀ call ∈ replacing, call.Gentle) ∧ Ledger.Fits (fun _ => none) replacing ∧
      Follows ({}, []) (fun _ => none) replacing := by
  have gentle : ∀ call ∈ replacing, call.Gentle := by simp [replacing, Call.Gentle, noteDown]
  have fits : Ledger.Fits (fun _ => none) replacing := fits_of_registers (by decide)
  exact ⟨gentle, fits, follows_of_fits [] gentle fits⟩

end CodeBlobs

end Safepoint.Roots
