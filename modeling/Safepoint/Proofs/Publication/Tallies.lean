import Mathlib.Data.List.DropRight
import Safepoint.Proofs.Publication.Elementwise
import Safepoint.Proofs.Publication.Modes

/-!
# Tallies of barriers

The barriers of all mutators tell one recorder, and count for each mutator what they were asked and
what they told.  Between two barriers marks may come and go, counters may be reset, and a hook may
meet a fault or change the heap as it likes.  `Tallies.counts_exact` states that a barrier tells its
recorder of what it found to be due, and of nothing else, and that the counters of a mutator are
the numbers of what happened since they were reset.
-/

namespace Safepoint

open Publication (Barrier BarrierCounts Bitmap Guarded Heap InRow Recorder slotBytes)
open Simulation (BarrierEvent)

namespace Publication

variable {Record : Type} {heap : Heap Record} {first destination : Address}

namespace Barrier

theorem exists_private_of_allPublic {slots step : Nat}
    (fits : first.toNat + (step + slots) * slotBytes < Word.count)
    (unsettled : allPublic heap first slots step = .ok false) :
    ∃ slot, InRow first (step + slots) slot ∧ heap.bitmap.IsPrivate (heap.memory.load slot) := by
  induction slots generalizing step with
  | zero => cases unsettled
  | succ slots ih =>
      have step_le : step * slotBytes ≤ (step + (slots + 1)) * slotBytes :=
        Nat.mul_le_mul_right slotBytes (Nat.le_add_right step (slots + 1))
      have offset_lt : step * slotBytes < Word.count := by omega
      have offset_eq : (UInt64.ofNat (step * slotBytes)).toNat = step * slotBytes :=
        UInt64.toNat_ofNat_of_lt' offset_lt
      have slot_fits : first.toNat + (UInt64.ofNat (step * slotBytes)).toNat < Word.count := by
        omega
      obtain ⟨slot, slot_at, slot_eq⟩ := Address.exists_offset? slot_fits
      rw [allPublic, slot_at] at unsettled
      dsimp only at unsettled
      rw [← Nat.add_assoc, Nat.add_right_comm] at fits ⊢
      split at unsettled
      · exact ih fits unsettled
      · rename_i slot_unsettled
        refine ⟨slot, ⟨step, by omega, by rw [slot_eq, offset_eq]⟩, ?_⟩
        by_contra slot_settled
        exact slot_unsettled (Heap.not_isPrivate_iff.mp slot_settled)

/-- A copy within the address space tells of its two rows, or has seen no private object. -/
theorem copyToPublic_cases (barrier : Barrier Record) (state : Guarded Record) {count : Word}
    (first_fits : first.toNat + count.toNat * slotBytes < Word.count)
    (destination_fits : destination.toNat + count.toNat * slotBytes < Word.count) :
    (barrier.copyToPublic first destination count state = .ok () state ∧
        ∀ slot, InRow first count.toNat slot →
          ¬state.heap.bitmap.IsPrivate (state.heap.memory.load slot)) ∨
      ∃ firstPast destinationPast : Address,
        firstPast.toNat = first.toNat + count.toNat * slotBytes ∧
        destinationPast.toNat = destination.toNat + count.toNat * slotBytes ∧
        (∃ slot, InRow first count.toNat slot ∧
          state.heap.bitmap.IsPrivate (state.heap.memory.load slot)) ∧
        barrier.copyToPublic first destination count state =
          Guarded.tell (barrier.recorder.copy barrier.mutator ⟨first, firstPast⟩
              ⟨destination, destinationPast⟩)
            { state with
              counts := { state.counts with
                slowPathCalls := state.counts.slowPathCalls + 1 } } := by
  have bytes_lt : count.toNat * slotBytes < Word.count := by omega
  have bytes_eq : (UInt64.ofNat (count.toNat * slotBytes)).toNat = count.toNat * slotBytes :=
    UInt64.toNat_ofNat_of_lt' bytes_lt
  have product : Word.mul? count (UInt64.ofNat slotBytes) =
      some (UInt64.ofNat (count.toNat * slotBytes)) :=
    Word.mul?_eq_some_iff.mpr bytes_eq.symm
  have row_fits : first.toNat + (0 + count.toNat) * slotBytes < Word.count := by
    rwa [Nat.zero_add]
  rw [← bytes_eq] at first_fits destination_fits
  obtain ⟨firstPast, firstPast_at, firstPast_eq⟩ := Address.exists_offset? first_fits
  obtain ⟨destinationPast, destinationPast_at, destinationPast_eq⟩ :=
    Address.exists_offset? destination_fits
  rw [bytes_eq] at firstPast_eq destinationPast_eq
  simp only [copyToPublic_eq, product, firstPast_at, destinationPast_at]
  cases looked : allPublic state.heap first count.toNat 0 with
  | error fault => exact absurd looked (allPublic_ne_error row_fits fault)
  | ok settled =>
      cases settled with
      | true =>
          refine Or.inl ⟨rfl, ?_⟩
          rintro slot ⟨number, number_lt, slot_eq⟩
          exact settled_of_allPublic looked (Nat.zero_le number) (by omega) slot_eq
      | false =>
          refine Or.inr ⟨firstPast, destinationPast, firstPast_eq, destinationPast_eq, ?_, rfl⟩
          simpa using exists_private_of_allPublic row_fits looked

end Barrier

/-- The counters that have counted what two others have. -/
def BarrierCounts.plus (left right : BarrierCounts) : BarrierCounts where
  writes := left.writes + right.writes
  slowPathCalls := left.slowPathCalls + right.slowPathCalls
  arrayCopies := left.arrayCopies + right.arrayCopies
  publicReads := left.publicReads + right.publicReads

@[simp]
theorem BarrierCounts.plus_zero (counts : BarrierCounts) : counts.plus {} = counts := by
  simp [plus]

@[simp]
theorem BarrierCounts.zero_plus (counts : BarrierCounts) : BarrierCounts.plus {} counts = counts := by
  simp [plus]

end Publication

namespace Tallies

open Modes (Call)

/-- What a recorder keeps, behind the calls that it was told. -/
abbrev Noted (Record : Type) : Type := List BarrierEvent × Record

variable {Record Host : Type}

/--
The calls of programs that leave counters to barriers and resets, with no copy that leaves the
address space.  What a resumption does is up to the runtime.
-/
def Orderly : Call → Prop
  | .copy _ first destination count _ =>
      first.toNat + count.toNat * slotBytes < Word.count ∧
        destination.toNat + count.toNat * slotBytes < Word.count
  | .resume => False
  | _ => True

/-- What the recorder has to be told of a call in a heap. -/
inductive Due (heap : Heap Record) : Call → BarrierEvent → Prop where
  | write {mutator : Mutator} {source target : ObjectRef} {slot : Address}
      (source_public : heap.bitmap.isPublic source.address = true)
      (target_private : heap.bitmap.IsPrivate target) :
      Due heap (.write mutator source slot target) (.write mutator.id source slot target)
  /-- One of the copied slots holds a private reference, so that something is copied. -/
  | copy {mutator : Mutator} {first destination slot firstPast destinationPast : Address}
      {count : Word} {array : ObjectRef}
      (array_public : heap.bitmap.isPublic array.address = true)
      (in_row : InRow first count.toNat slot)
      (slot_private : heap.bitmap.IsPrivate (heap.memory.load slot))
      (firstPast_eq : firstPast.toNat = first.toNat + count.toNat * slotBytes)
      (destinationPast_eq : destinationPast.toNat = destination.toNat + count.toNat * slotBytes) :
      Due heap (.copy mutator first destination count array)
        (.copy mutator.id ⟨first, firstPast⟩ ⟨destination, destinationPast⟩)
  | read {mutator : Mutator} {target : ObjectRef} (not_null : target ≠ .null)
      (target_public : heap.bitmap.isPublic target.address = true) :
      Due heap (.read mutator target) (.read mutator.id target)
  | publish {mutator : Mutator} {object : ObjectRef}
      (object_private : heap.bitmap.IsPrivate object) :
      Due heap (.publish mutator object) (.publish mutator.id object)

theorem Due.unique {heap : Heap Record} {call : Call} {event other : BarrierEvent}
    (due : Due heap call event) (other_due : Due heap call other) : event = other := by
  cases due with
  | write | read | publish =>
      cases other_due
      rfl
  | copy _ _ _ firstPast_eq destinationPast_eq =>
      cases other_due with
      | copy _ _ _ other_firstPast_eq other_destinationPast_eq =>
          rw [← other_firstPast_eq, Address.toNat_inj] at firstPast_eq
          rw [← other_destinationPast_eq, Address.toNat_inj] at destinationPast_eq
          rw [firstPast_eq, destinationPast_eq]

/-- A call adds these events to those its recorder was told, namely what was due. -/
structure Tells (call : Call) (before after : Heap (Noted Record)) (told : List BarrierEvent) :
    Prop where
  log_eq : after.record.1 = before.record.1 ++ told
  length_le : told.length ≤ 1
  mem_iff : ∀ event, event ∈ told ↔ Due before call event

namespace Tells

variable {call : Call} {before after : Heap (Noted Record)} {told : List BarrierEvent}

theorem none (log_eq : after.record.1 = before.record.1)
    (none_due : ∀ event, ¬Due before call event) : Tells call before after [] where
  log_eq := by rw [log_eq, List.append_nil]
  length_le := Nat.zero_le 1
  mem_iff event := by simpa using none_due event

theorem one {event : BarrierEvent} (log_eq : after.record.1 = before.record.1 ++ [event])
    (due : Due before call event) : Tells call before after [event] where
  log_eq := log_eq
  length_le := Nat.le_refl 1
  mem_iff other := by
    rw [List.mem_singleton]
    constructor
    · rintro rfl
      exact due
    · exact fun other_due => other_due.unique due

/-- Nothing was told, or one event that was due. -/
theorem eq_nil_or_singleton (tells : Tells call before after told) :
    told = [] ∨ ∃ event, told = [event] ∧ Due before call event := by
  match told, tells.length_le, tells.mem_iff with
  | [], _, _ => exact Or.inl rfl
  | [event], _, mem_iff => exact Or.inr ⟨event, rfl, (mem_iff event).mp List.mem_cons_self⟩

end Tells

/-- What a call counts for its mutator when it tells the recorder of some events. -/
def charge (call : Call) (told : List BarrierEvent) : BarrierCounts :=
  match call with
  | .write .. => { writes := 1, slowPathCalls := UInt64.ofNat told.length }
  | .copy _ _ _ count _ =>
      { arrayCopies := if count = 0 then 0 else 1, slowPathCalls := UInt64.ofNat told.length }
  | .read .. => { publicReads := UInt64.ofNat told.length }
  | _ => {}

/-- A call told the recorder what was due, and counted that for its mutator. -/
def Passes (call : Call) (before after : Guarded (Noted Record)) : Prop :=
  ∃ told, Tells call before.heap after.heap told ∧
    after.counts = before.counts.plus (charge call told)

theorem left_tell (hook : Action (Heap Record) Unit) (state : Guarded Record) :
    Action.left (Guarded.tell hook state) =
      { state with heap := Action.left (hook state.heap) } := by
  simp only [Guarded.tell, Action.onPart]
  cases hook state.heap <;> rfl

/-- What a recorder was told does not change while a hook of its own runs. -/
theorem log_onOwn (hook : Action (Heap Record) Unit) (heap : Heap (Noted Record)) :
    (Action.left (Modes.onOwn hook heap)).record.1 = heap.record.1 := by
  simp only [Modes.onOwn, Heap.onRecord, Action.onPart]
  cases hook _ <;> rfl

theorem log_hook (event : BarrierEvent) (hook : Action (Heap Record) Unit)
    (heap : Heap (Noted Record)) :
    (Action.left ((do Modes.log event; Modes.onOwn hook : Action (Heap (Noted Record)) Unit)
      heap)).record.1 = heap.record.1 ++ [event] := by
  have logged : Modes.log event heap =
      .ok () { heap with record := (heap.record.1 ++ [event], heap.record.2) } := rfl
  rw [Action.bind_of_ok logged]
  exact log_onOwn hook _

/-- A call has nothing to tell, and counts what it does all the same. -/
theorem passes_ok {call : Call} {before after : Guarded (Noted Record)}
    (heap_eq : after.heap = before.heap) (none_due : ∀ event, ¬Due before.heap call event)
    (counts_eq : after.counts = before.counts.plus (charge call [])) :
    Passes call before (Action.left (.ok () after)) :=
  ⟨[], .none (by rw [Action.left, heap_eq]) none_due, counts_eq⟩

/-- A call tells what is due, which its mutator has counted before. -/
theorem passes_tell {call : Call} {before counted : Guarded (Noted Record)} {event : BarrierEvent}
    (hook : Action (Heap Record) Unit) (heap_eq : counted.heap = before.heap)
    (due : Due before.heap call event)
    (counts_eq : counted.counts = before.counts.plus (charge call [event])) :
    Passes call before
      (Action.left (Guarded.tell (do Modes.log event; Modes.onOwn hook) counted)) := by
  have log_eq := log_hook event hook counted.heap
  rw [heap_eq] at log_eq
  rw [left_tell, heap_eq]
  exact ⟨[event], .one log_eq due, counts_eq⟩

section Barriers

variable {barrier : Barrier (Noted Record)} {recorder : Recorder Record} {mutator : Mutator}
variable (notes : barrier.recorder = Modes.logging recorder) (owned : barrier.mutator = mutator.id)
variable (state : Guarded (Noted Record))
include notes owned

theorem passes_write (source : ObjectRef) (slot : Address) (target : ObjectRef) :
    Passes (.write mutator source slot target) state
      (Action.left (barrier.write source slot target state)) := by
  rw [Barrier.write_eq, Barrier.writeOutOfLine_eq]
  split
  · rename_i no_target_or_unmarked
    refine passes_ok rfl ?_ (by simp [charge, BarrierCounts.plus])
    rintro event (due : Due state.heap _ _)
    cases due with
    | write source_public target_private =>
        simp [Guarded.marked, source_public, target_private.1] at no_target_or_unmarked
  · rename_i target_and_marked
    obtain ⟨not_null, source_public⟩ : target ≠ .null ∧ state.marked source = true := by
      simpa [Guarded.marked] using target_and_marked
    rw [Barrier.writeToPublic_eq]
    split
    · rename_i target_public
      refine passes_ok rfl ?_ (by simp [charge, BarrierCounts.plus])
      rintro event (due : Due state.heap _ _)
      cases due with
      | write _ target_private =>
          simp [Guarded.marked, target_private.2] at target_public
    · rename_i target_unmarked
      rw [notes, owned]
      refine passes_tell _ rfl (.write source_public ⟨not_null, ?_⟩)
        (by simp [charge, BarrierCounts.plus])
      simpa [Guarded.marked] using target_unmarked

theorem passes_copy {first destination : Address} {count : Word}
    (first_fits : first.toNat + count.toNat * slotBytes < Word.count)
    (destination_fits : destination.toNat + count.toNat * slotBytes < Word.count)
    (array : ObjectRef) :
    Passes (.copy mutator first destination count array) state
      (Action.left (barrier.copy first destination count array state)) := by
  rw [Barrier.copy_eq]
  split
  · rename_i nothing
    refine passes_ok rfl ?_ (by simp [charge, nothing])
    rintro event (due : Due state.heap _ _)
    cases due with
    | copy _ in_row =>
        obtain ⟨number, number_lt, -⟩ := in_row
        simp [nothing] at number_lt
  · rename_i something
    rw [Barrier.copyOutOfLine_eq]
    split
    · rename_i unmarked
      refine passes_ok rfl ?_ (by simp [charge, something, BarrierCounts.plus])
      rintro event (due : Due state.heap _ _)
      cases due with
      | copy array_public => simp [Guarded.marked, array_public] at unmarked
    · rename_i array_marked
      have array_public : state.heap.bitmap.isPublic array.address = true := by
        simpa [Guarded.marked] using array_marked
      rcases barrier.copyToPublic_cases
          { state with
            counts := { state.counts with arrayCopies := state.counts.arrayCopies + 1 } }
          first_fits destination_fits with ⟨ends, settled⟩ |
          ⟨firstPast, destinationPast, firstPast_eq, destinationPast_eq,
            ⟨slot, in_row, slot_private⟩, ends⟩
      · rw [ends]
        refine passes_ok rfl ?_ (by simp [charge, something, BarrierCounts.plus])
        rintro event (due : Due state.heap _ _)
        cases due with
        | copy _ in_row slot_private => exact settled _ in_row slot_private
      · rw [ends, notes, owned]
        exact passes_tell _ rfl
          (.copy array_public in_row slot_private firstPast_eq destinationPast_eq)
          (by simp [charge, something, BarrierCounts.plus])

theorem passes_read (target : ObjectRef) :
    Passes (.read mutator target) state (Action.left (barrier.read target state)) := by
  rw [Barrier.read_eq, Barrier.readOutOfLine_eq]
  split
  · rename_i no_target_or_unmarked
    refine passes_ok rfl ?_ (by simp [charge])
    rintro event (due : Due state.heap _ _)
    cases due with
    | read not_null target_public =>
        simp [Guarded.marked, target_public, not_null] at no_target_or_unmarked
  · rename_i target_and_marked
    obtain ⟨not_null, target_public⟩ : target ≠ .null ∧ state.marked target = true := by
      simpa using target_and_marked
    rw [Barrier.readPublic_eq, notes, owned]
    exact passes_tell _ rfl (.read not_null target_public) (by simp [charge, BarrierCounts.plus])

theorem passes_publish (object : ObjectRef) :
    Passes (.publish mutator object) state (Action.left (barrier.publish object state)) := by
  rw [Barrier.publish_eq]
  split
  · rename_i settled
    refine passes_ok rfl ?_ (by simp [charge])
    rintro event (due : Due state.heap _ _)
    cases due with
    | publish object_private =>
        simp [Guarded.marked, object_private.1, object_private.2] at settled
  · rename_i unsettled
    obtain ⟨not_null, unmarked⟩ : object ≠ .null ∧ state.marked object = false := by
      simpa using unsettled
    rw [notes, owned]
    exact passes_tell _ rfl (.publish ⟨not_null, unmarked⟩) (by simp [charge])

end Barriers

/-- A call that was made. -/
structure Entry (Record Host : Type) where
  call : Call
  before : Process (Noted Record) Host
  /-- What the call left, with or without a fault. -/
  after : Process (Noted Record) Host

/-- What the recorder was told during a call. -/
def Entry.told (entry : Entry Record Host) : List BarrierEvent :=
  entry.after.heap.record.1.drop entry.before.heap.record.1.length

section Ledger

variable (collector : Collector (Noted Record) Host)

/-- The entry of a call. -/
def enter (call : Call) (process : Process (Noted Record) Host) : Entry Record Host :=
  ⟨call, process, Action.left (call.perform collector process)⟩

/-- The entries of some calls, each made whether or not those before it met a fault. -/
def ledger : List Call → Process (Noted Record) Host → List (Entry Record Host)
  | [], _ => []
  | call :: calls, process =>
      enter collector call process :: ledger calls (enter collector call process).after

/-- The process after some calls. -/
def finish (calls : List Call) (process : Process (Noted Record) Host) :
    Process (Noted Record) Host :=
  calls.foldl (fun process call => (enter collector call process).after) process

end Ledger

/-- The call resets the counters of a mutator. -/
def resets (mutator : MutatorId) : Call → Bool
  | .resetCounts other => decide (other.id = mutator)
  | _ => false

/-- The call is a write of a mutator. -/
def isWrite (mutator : MutatorId) : Call → Bool
  | .write writer _ _ _ => decide (writer.id = mutator)
  | _ => false

/-- The call is a copy of a mutator, of one reference at least. -/
def isCopy (mutator : MutatorId) : Call → Bool
  | .copy copier _ _ count _ => decide (copier.id = mutator ∧ count ≠ 0)
  | _ => false

/-- The recorder was told of a write or a copy of a mutator. -/
def isStore (mutator : MutatorId) : BarrierEvent → Bool
  | .write writer _ _ _ => decide (writer = mutator)
  | .copy copier _ _ => decide (copier = mutator)
  | _ => false

/-- The recorder was told of a load of a mutator. -/
def isLoad (mutator : MutatorId) : BarrierEvent → Bool
  | .read reader _ => decide (reader = mutator)
  | _ => false

/-- What the counters of a mutator should read after some entries. -/
def tally (mutator : MutatorId) (entries : List (Entry Record Host)) : BarrierCounts where
  writes := UInt64.ofNat (entries.countP fun entry => isWrite mutator entry.call)
  slowPathCalls := UInt64.ofNat ((entries.flatMap Entry.told).countP (isStore mutator))
  arrayCopies := UInt64.ofNat (entries.countP fun entry => isCopy mutator entry.call)
  publicReads := UInt64.ofNat ((entries.flatMap Entry.told).countP (isLoad mutator))

/-- The entries since the counters of a mutator were reset. -/
def sinceReset (mutator : MutatorId) (entries : List (Entry Record Host)) :
    List (Entry Record Host) :=
  entries.rtakeWhile fun entry => !resets mutator entry.call

theorem tally_append (mutator : MutatorId) (earlier later : List (Entry Record Host)) :
    tally mutator (earlier ++ later) = (tally mutator earlier).plus (tally mutator later) := by
  simp [tally, BarrierCounts.plus, List.countP_append, List.flatMap_append, UInt64.ofNat_add]

/-- The mutator whose counters a call is charged to. -/
def chargedTo : Call → Option MutatorId
  | .write mutator _ _ _ | .copy mutator _ _ _ _ | .read mutator _ | .publish mutator _ =>
      some mutator.id
  | _ => none

/-- An entry is exact: the recorder was told what was due, and everybody's counters say so. -/
structure Entry.Exact (entry : Entry Record Host) : Prop where
  tells : Tells entry.call entry.before.heap entry.after.heap entry.told
  counts_eq : ∀ mutator, entry.after.counts mutator =
    if resets mutator entry.call then {}
    else (entry.before.counts mutator).plus (tally mutator [entry])

theorem Entry.told_eq (entry : Entry Record Host) {told : List BarrierEvent}
    (tells : Tells entry.call entry.before.heap entry.after.heap told) : entry.told = told := by
  rw [Entry.told, tells.log_eq, List.drop_left]

theorem tally_singleton {entry : Entry Record Host}
    (tells : Tells entry.call entry.before.heap entry.after.heap entry.told)
    (mutator : MutatorId) :
    tally mutator [entry] =
      if chargedTo entry.call = some mutator then charge entry.call entry.told else {} := by
  rcases tells.eq_nil_or_singleton with told_eq | ⟨event, told_eq, due⟩
  · simp only [tally, List.flatMap_singleton, told_eq, List.countP_singleton, List.countP_nil]
    cases entry.call with
    | write writer =>
        by_cases charged : writer.id = mutator <;> simp [isWrite, isCopy, chargedTo, charge, charged]
    | copy copier _ _ count =>
        by_cases charged : copier.id = mutator <;> by_cases nothing : count = 0 <;>
          simp [isWrite, isCopy, chargedTo, charge, charged, nothing]
    | read | publish | store | mark | clear | resetCounts | bind | destroy | resume =>
        simp [isWrite, isCopy, chargedTo, charge]
  · simp only [tally, List.flatMap_singleton, told_eq, List.countP_singleton]
    generalize entry.call = call at due
    cases due with
    | @write writer =>
        by_cases charged : writer.id = mutator <;>
          simp [isWrite, isCopy, isStore, isLoad, chargedTo, charge, charged]
    | @copy copier _ _ _ _ _ count =>
        by_cases charged : copier.id = mutator <;> by_cases nothing : count = 0 <;>
          simp [isWrite, isCopy, isStore, isLoad, chargedTo, charge, charged, nothing]
    | @read reader =>
        by_cases charged : reader.id = mutator <;>
          simp [isWrite, isCopy, isStore, isLoad, chargedTo, charge, charged]
    | publish => simp [isWrite, isCopy, isStore, isLoad, chargedTo, charge]

section Calls

variable {collector : Collector (Noted Record) Host} {recorder : Recorder Record}
variable {process : Process (Noted Record) Host} {call : Call}

/-- The action changes neither counters nor what the recorder keeps. -/
def Spares {Value : Type} (action : Action (Process (Noted Record) Host) Value) : Prop :=
  ∀ process, (Action.left (action process)).heap.record = process.heap.record ∧
    (Action.left (action process)).counts = process.counts

namespace Spares

variable {Value Next : Type}

theorem pure (value : Value) :
    Spares (Pure.pure value : Action (Process (Noted Record) Host) Value) :=
  fun _ => ⟨rfl, rfl⟩

theorem throw (fault : Fault) :
    Spares (MonadExcept.throw fault : Action (Process (Noted Record) Host) Value) :=
  fun _ => ⟨rfl, rfl⟩

theorem bind {first : Action (Process (Noted Record) Host) Value}
    {next : Value → Action (Process (Noted Record) Host) Next} (first_spares : Spares first)
    (next_spares : ∀ value, Spares (next value)) : Spares (first >>= next) := by
  intro process
  have first_kept := first_spares process
  cases ended : first process with
  | error fault after =>
      rw [Action.bind_of_error ended]
      rwa [ended] at first_kept
  | ok value after =>
      rw [Action.bind_of_ok ended]
      rw [ended] at first_kept
      obtain ⟨record_eq, counts_eq⟩ := next_spares value after
      exact ⟨record_eq.trans first_kept.1, counts_eq.trans first_kept.2⟩

theorem onRoster (action : Action Roster Value) :
    Spares (Process.onRoster action : Action (Process (Noted Record) Host) Value) := by
  intro process
  unfold Process.onRoster Action.onPart
  cases action process.roster <;> exact ⟨rfl, rfl⟩

theorem onBitmap (action : Action Bitmap Value) :
    Spares (Process.onBitmap action : Action (Process (Noted Record) Host) Value) := by
  intro process
  unfold Process.onBitmap Process.onHeap Action.onPart
  dsimp only
  cases action process.heap.bitmap <;> exact ⟨rfl, rfl⟩

end Spares

/-- A call that changes neither counters nor what the recorder keeps makes an exact entry. -/
theorem exact_of_quiet {after : Process (Noted Record) Host} (uncharged : chargedTo call = none)
    (record_eq : after.heap.record = process.heap.record)
    (counts_eq : ∀ mutator, after.counts mutator =
      if resets mutator call then {} else process.counts mutator) :
    Entry.Exact ⟨call, process, after⟩ := by
  have none_due (event : BarrierEvent) : ¬Due process.heap call event := by
    intro due
    cases due <;> cases uncharged
  have tells : Tells call process.heap after.heap [] := .none (by rw [record_eq]) none_due
  rw [← Entry.told_eq ⟨call, process, after⟩ tells] at tells
  refine ⟨tells, fun mutator => ?_⟩
  rw [tally_singleton tells]
  simpa [uncharged] using counts_eq mutator

theorem exact_of_spares (uncharged : chargedTo call = none)
    (resets_none : ∀ mutator, resets mutator call = false)
    (spares : Spares (call.perform collector)) (process : Process (Noted Record) Host) :
    (enter collector call process).Exact := by
  obtain ⟨record_eq, counts_eq⟩ := spares process
  refine exact_of_quiet uncharged record_eq fun mutator => ?_
  rw [resets_none, counts_eq, if_neg Bool.false_ne_true]

/-- A barrier makes an exact entry, for its own mutator and for all others. -/
theorem exact_of_passes {mutator : Mutator} {guarded : Guarded (Noted Record)}
    (charged : chargedTo call = some mutator.id)
    (passes : Passes call ⟨process.heap, process.counts mutator.id⟩ guarded) :
    Entry.Exact
      ⟨call, process, { process.setCounts mutator.id guarded.counts with heap := guarded.heap }⟩ := by
  obtain ⟨told, tells, counts_eq⟩ := passes
  obtain rfl := Entry.told_eq
    ⟨call, process, { process.setCounts mutator.id guarded.counts with heap := guarded.heap }⟩
    tells
  refine ⟨tells, fun other => ?_⟩
  have kept : resets other call = false := by
    cases call <;> first | rfl | cases charged
  rw [kept, tally_singleton tells]
  by_cases same : other = mutator.id
  · subst same
    simpa [charged, Process.setCounts] using counts_eq
  · simp [charged, Ne.symm same, Process.setCounts, same]

/-- What is left of a barrier of a process is what is left of it on its heap and counters. -/
theorem left_onGuarded {Value : Type} (mutator : MutatorId)
    (action : Action (Guarded (Noted Record)) Unit) (value : Value)
    (process : Process (Noted Record) Host) :
    Action.left ((do Process.onGuarded mutator action; return value :
        Action (Process (Noted Record) Host) Value) process) =
      { process.setCounts mutator
          (Action.left (action ⟨process.heap, process.counts mutator⟩)).counts with
        heap := (Action.left (action ⟨process.heap, process.counts mutator⟩)).heap } := by
  simp only [bind, EStateM.bind, Process.onGuarded, Action.onPart]
  cases action ⟨process.heap, process.counts mutator⟩ <;> rfl

theorem exact_perform (notes : collector.recorder = Modes.logging recorder)
    (orderly : Orderly call) (process : Process (Noted Record) Host) :
    (enter collector call process).Exact := by
  cases call with
  | write mutator source slot target =>
      rw [enter, Call.perform, Collector.recordWrite, left_onGuarded]
      exact exact_of_passes rfl (passes_write notes rfl _ source slot target)
  | copy mutator first destination count array =>
      rw [enter, Call.perform, Collector.recordCopy, left_onGuarded]
      exact exact_of_passes rfl (passes_copy notes rfl _ orderly.1 orderly.2 array)
  | read mutator target =>
      rw [enter, Call.perform, Collector.recordRead, left_onGuarded]
      exact exact_of_passes rfl (passes_read notes rfl _ target)
  | publish mutator object =>
      rw [enter, Call.perform, Collector.publishObject, left_onGuarded]
      exact exact_of_passes rfl (passes_publish notes rfl _ object)
  | store slot value => exact exact_of_quiet rfl rfl fun _ => rfl
  | mark | clear =>
      refine exact_of_spares rfl (fun _ => rfl) ?_ process
      exact .bind (.onBitmap _) fun _ => .pure _
  | resetCounts mutator =>
      refine exact_of_quiet rfl rfl fun other => ?_
      simp only [resets, decide_eq_true_eq, eq_comm (a := mutator.id)]
      rfl
  | bind thread =>
      refine exact_of_spares rfl (fun _ => rfl) ?_ process
      exact .bind (.bind (.onRoster _) fun _ => .bind (.onRoster _) fun _ => .pure _)
        fun _ => .pure _
  | destroy mutator =>
      refine exact_of_spares rfl (fun _ => rfl) ?_ process
      refine .bind (.bind (.onRoster _) fun detached => ?_) fun _ => .pure _
      cases detached with
      | true => exact .pure _
      | false => exact .throw _
  | resume => exact orderly.elim

end Calls

/-! ## Whole runs -/

section Runs

variable {collector : Collector (Noted Record) Host} {recorder : Recorder Record}
variable {process : Process (Noted Record) Host} {calls : List Call}

theorem finish_concat (call : Call) :
    finish collector (calls ++ [call]) process =
      (enter collector call (finish collector calls process)).after := by
  simp [finish]

theorem ledger_concat (call : Call) :
    ledger collector (calls ++ [call]) process =
      ledger collector calls process ++ [enter collector call (finish collector calls process)] := by
  induction calls generalizing process with
  | nil => rfl
  | cons first calls ih =>
      rw [List.cons_append, ledger, ih]
      rfl

/-- Every entry of a ledger is exact. -/
theorem exact_of_mem_ledger (notes : collector.recorder = Modes.logging recorder)
    (orderly : ∀ call ∈ calls, Orderly call) :
    ∀ entry ∈ ledger collector calls process, entry.Exact := by
  induction calls generalizing process with
  | nil => simp [ledger]
  | cons call calls ih =>
      obtain ⟨call_orderly, rest_orderly⟩ := List.forall_mem_cons.mp orderly
      exact List.forall_mem_cons.mpr ⟨exact_perform notes call_orderly process, ih rest_orderly⟩

/-- A mutator that has counted nothing yet has the counters of its entries at any time. -/
theorem counts_finish (notes : collector.recorder = Modes.logging recorder)
    (orderly : ∀ call ∈ calls, Orderly call) {mutator : MutatorId}
    (blank : process.counts mutator = {}) :
    (finish collector calls process).counts mutator =
      tally mutator (sinceReset mutator (ledger collector calls process)) := by
  induction calls using List.reverseRecOn with
  | nil => exact blank
  | append_singleton calls call ih =>
      have earlier := ih fun other member => orderly other (List.mem_append_left _ member)
      have last := (exact_perform notes (orderly call (by simp))
        (finish collector calls process)).counts_eq mutator
      rw [finish_concat, last, ledger_concat, sinceReset, List.rtakeWhile_concat]
      change (if resets mutator call then _ else _) = tally _ (if !resets mutator call then _ else _)
      cases resets mutator call with
      | true => rfl
      | false =>
          simp only [Bool.not_false, if_true, if_false, Bool.false_eq_true, tally_append]
          exact congrArg (BarrierCounts.plus · _) earlier

/--
In any run of orderly calls, with a recorder that may meet faults, a barrier tells exactly what is
due at its moment, and the counters of a mutator are those of its entries since the last reset.
-/
theorem counts_exact (notes : collector.recorder = Modes.logging recorder)
    (orderly : ∀ call ∈ calls, Orderly call) (mutator : MutatorId)
    (blank : process.counts mutator = {}) :
    (∀ entry ∈ ledger collector calls process,
      Tells entry.call entry.before.heap entry.after.heap entry.told) ∧
    (finish collector calls process).counts mutator =
      tally mutator (sinceReset mutator (ledger collector calls process)) :=
  ⟨fun entry member => (exact_of_mem_ledger notes orderly entry member).tells,
    counts_finish notes orderly blank⟩

end Runs

private def holder : ObjectRef := ⟨0x1000⟩

private def heldObject : ObjectRef := ⟨0x1008⟩

private def writer : Mutator := ⟨⟨7⟩, ⟨11⟩⟩

/-- Makes what is written public, and then meets a fault, as it does when it hears of anything. -/
private def faulting : Recorder Unit where
  write _ _ _ target heap :=
    .error .addOverflow
      { heap with bitmap := Action.left (Bitmap.markPublic target.address heap.bitmap) }
  copy _ _ _ := throw .addOverflow
  read _ _ := throw .addOverflow
  publish _ _ := throw .addOverflow

private def faultingCollector : Collector (Noted Unit) Unit :=
  { Collector.withRuntime .idle with recorder := Modes.logging faulting }

private def tallyStart : Process (Noted Unit) Unit :=
  { Process.vacant ([], ()) () with
    heap.memory.load := fun slot => if slot = ⟨0x2008⟩ then heldObject else .null }

/-- The one object is written into the other while each of them is private and public in turn. -/
private def tallyCalls : List Call :=
  [.write writer holder ⟨0x2000⟩ heldObject, .mark holder.address,
    .write writer holder ⟨0x2000⟩ heldObject,
    .resetCounts writer, .write writer holder ⟨0x2000⟩ heldObject, .clear heldObject.address 8,
    .copy writer ⟨0x2000⟩ ⟨0x3000⟩ 2 holder, .copy writer ⟨0x2000⟩ ⟨0x3000⟩ 0 holder,
    .read writer heldObject, .read writer holder, .write writer holder ⟨0x2000⟩ heldObject]

/-- Four hooks are called and meet a fault, the last three of them since the counters were reset. -/
theorem counts_exact_faulting :
    (finish faultingCollector tallyCalls tallyStart).heap.record.1 =
      [.write ⟨7⟩ holder ⟨0x2000⟩ heldObject, .copy ⟨7⟩ ⟨⟨0x2000⟩, ⟨0x2010⟩⟩ ⟨⟨0x3000⟩, ⟨0x3010⟩⟩,
        .read ⟨7⟩ holder, .write ⟨7⟩ holder ⟨0x2000⟩ heldObject] ∧
    (finish faultingCollector tallyCalls tallyStart).counts ⟨7⟩ =
      { writes := 2, slowPathCalls := 2, arrayCopies := 1, publicReads := 1 } := by
  have orderly : ∀ call ∈ tallyCalls, Orderly call := by
    simp only [tallyCalls, List.forall_mem_cons, List.not_mem_nil, false_imp_iff, implies_true,
      Orderly]
    decide
  have notes : faultingCollector.recorder = Modes.logging faulting := rfl
  have blank : tallyStart.counts ⟨7⟩ = {} := rfl
  obtain ⟨-, counts_eq⟩ := counts_exact notes orderly ⟨7⟩ blank
  refine ⟨by decide +kernel, ?_⟩
  rw [counts_eq]
  decide +kernel

end Tallies

end Safepoint
