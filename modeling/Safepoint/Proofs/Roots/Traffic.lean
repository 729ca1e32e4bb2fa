import Safepoint.Collector.Roots
import Safepoint.Proofs.Roots.Scans

/-!
# The traffic of a visit of roots

Between a visit of root slots and its sink pass buffers: one that the sink hands out first, full
ones for fresh ones, and the last one back.  This file notes them in a log, in order with the slots
that are visited, each call of the sink with its answer or without one.  Noting is erased without a
trace: whatever a runtime, a scan of code and a sink do, they do it with or without a log.
-/

namespace Safepoint.Roots.Traffic

/-- What is noted of a visit; a call of the sink has no answer if it met a fault. -/
inductive Event where
  | visited (slot : Address)
  /-- The sink was asked for the first buffer. -/
  | acquired (answer : Option Buffer)
  /-- The sink was handed a batch, and asked for the next buffer. -/
  | reported (batch : Buffer) (answer : Option Buffer)
  /-- The sink was given back a buffer. -/
  | released (buffer : Buffer) (answer : Option Unit)

/-- Events, oldest first. -/
abbrev Log : Type := List Event

/-- The event is no call of the sink, or one that has an answer. -/
def Event.answered : Event → Bool
  | .visited _ => true
  | .acquired answer => answer.isSome
  | .reported _ answer => answer.isSome
  | .released _ answer => answer.isSome

def Event.isRelease : Event → Bool
  | .released _ _ => true
  | _ => false

/-- The slots that were visited. -/
def visited (log : Log) : List Address :=
  log.filterMap fun
    | .visited slot => some slot
    | _ => none

/-- The batches that the sink was handed, with its answers. -/
def reports (log : Log) : List (Buffer × Option Buffer) :=
  log.filterMap fun
    | .reported batch answer => some (batch, answer)
    | _ => none

/-- The batches that the sink was handed. -/
def handed (log : Log) : List (List Address) :=
  (reports log).map fun report => report.1.slots.toList

/-- The batches that the sink was handed and took without a fault. -/
def received (log : Log) : List (List Address) :=
  (reports log).filterMap fun report => report.2.map fun _ => report.1.slots.toList

/-- The buffers that the sink handed out. -/
def buffers (log : Log) : List Buffer :=
  log.filterMap fun
    | .acquired answer => answer
    | .reported _ answer => answer
    | _ => none

section Append

variable (earlier later : Log)

@[simp]
theorem visited_append : visited (earlier ++ later) = visited earlier ++ visited later :=
  List.filterMap_append

@[simp]
theorem reports_append : reports (earlier ++ later) = reports earlier ++ reports later :=
  List.filterMap_append

@[simp]
theorem handed_append : handed (earlier ++ later) = handed earlier ++ handed later := by
  simp [handed]

@[simp]
theorem received_append : received (earlier ++ later) = received earlier ++ received later := by
  simp [received]

@[simp]
theorem buffers_append : buffers (earlier ++ later) = buffers earlier ++ buffers later :=
  List.filterMap_append

end Append

/-- A sink that answers every call has received whatever it was handed. -/
theorem received_eq_handed {log : Log} (answered : ∀ event ∈ log, event.answered = true) :
    received log = handed log := by
  induction log with
  | nil => rfl
  | cons event log ih =>
      obtain ⟨event_answered, rest_answered⟩ := List.forall_mem_cons.mp answered
      have rest_eq := ih rest_answered
      rw [← List.singleton_append, received_append, handed_append, rest_eq]
      congr 1
      cases event with
      | visited | acquired | released => rfl
      | reported batch answer =>
          cases answer with
          | some fresh => rfl
          | none => cases event_answered

variable {State Value : Type}

/-- Notes how an action on the state was answered. -/
def note (event : Option Value → Event) (action : Action State Value) : Action (Log × State) Value :=
    fun (log, state) =>
  match action state with
  | .ok value after => .ok value (log ++ [event (some value)], after)
  | .error fault after => .error fault (log ++ [event none], after)

/-- The same sink with its calls noted. -/
def noting (sink : RootSink State) : RootSink (Log × State) where
  acquire := note .acquired sink.acquire
  report batch := note (.reported batch) (sink.report batch)
  release buffer := note (.released buffer) (sink.release buffer)

/-- Visits a slot and notes that, as well as what passes between the batch and its sink. -/
def visit (sink : RootSink State) (slot : Address) : Action (Batch × Log × State) Unit :=
    fun (batch, log, state) =>
  Batch.visit (noting sink) slot (batch, log ++ [.visited slot], state)

/-- One action does what another does, and something more that can be forgotten. -/
def Erases {Outer Inner : Type} (forget : Outer → Inner) (noted : Action Outer Value)
    (plain : Action Inner Value) : Prop :=
  ∀ state, Action.mapState forget (noted state) = plain (forget state)

section Erases

variable {Outer Inner Next : Type} {forget : Outer → Inner}

theorem Erases.bind {noted : Action Outer Value} {plain : Action Inner Value}
    {notedNext : Value → Action Outer Next} {plainNext : Value → Action Inner Next}
    (erases : Erases forget noted plain)
    (next_erases : ∀ value, Erases forget (notedNext value) (plainNext value)) :
    Erases forget (noted >>= notedNext) (plain >>= plainNext) := by
  intro state
  have first := erases state
  cases ended : noted state with
  | ok value after =>
      rw [ended] at first
      rw [Action.bind_of_ok ended, Action.bind_of_ok first.symm]
      exact next_erases value after
  | error fault after =>
      rw [ended] at first
      rw [Action.bind_of_error ended, Action.bind_of_error first.symm]
      rfl

variable {notedVisit : Address → Action Outer Unit} {plainVisit : Address → Action Inner Unit}

theorem erases_visitSlots (erases : ∀ slot, Erases forget (notedVisit slot) (plainVisit slot))
    (slots : List Address) :
    Erases forget (CodeBlobs.visitSlots notedVisit slots)
      (CodeBlobs.visitSlots plainVisit slots) := by
  induction slots with
  | nil => exact fun _ => rfl
  | cons slot slots ih =>
      intro state
      have first := erases slot state
      simp only [CodeBlobs.visitSlots, ← first]
      cases notedVisit slot state with
      | ok value after => exact ih after
      | error fault after => rfl

theorem erases_promote (erases : ∀ slot, Erases forget (notedVisit slot) (plainVisit slot))
    (entries : List (Address × List Address)) :
    Erases (Prod.map id forget) (CodeBlobs.promote notedVisit entries)
      (CodeBlobs.promote plainVisit entries) := by
  induction entries with
  | nil => exact fun _ => rfl
  | cons entry entries ih =>
      rintro ⟨blobs, state⟩
      have first := erases_visitSlots erases entry.2 state
      simp only [CodeBlobs.promote, Prod.map, ← first]
      cases CodeBlobs.visitSlots notedVisit entry.2 state with
      | error fault after => rfl
      | ok value after =>
          have rest := ih ({ blobs with mature := blobs.mature.insert entry.1 entry.2 }, after)
          simp only [Action.mapState, Prod.map, id] at rest ⊢
          rw [← rest]
          cases CodeBlobs.promote notedVisit entries _ <;> rfl

theorem erases_scan (erases : ∀ slot, Erases forget (notedVisit slot) (plainVisit slot))
    (nurseryOnly : Bool) :
    Erases (Prod.map id forget) (CodeBlobs.scan nurseryOnly notedVisit)
      (CodeBlobs.scan nurseryOnly plainVisit) := by
  rintro ⟨blobs, state⟩
  have first := erases_visitSlots erases
    (if nurseryOnly then [] else blobs.mature.values.flatten) state
  simp only [CodeBlobs.scan, Prod.map, id_eq, ← first]
  cases CodeBlobs.visitSlots notedVisit _ state with
  | error fault after => rfl
  | ok value after =>
      have rest := erases_promote erases blobs.nursery.entries
        ({ blobs with nursery := .empty }, after)
      simp only [Action.mapState, Prod.map, id_eq] at rest ⊢
      rw [← rest]
      cases CodeBlobs.promote notedVisit _ _ <;> rfl

end Erases

/-- The batch and the state without the log between them. -/
def forgetLog (noted : Batch × Log × State) : Batch × State := (noted.1, noted.2.2)

theorem erases_flush (sink : RootSink State) :
    Erases forgetLog (Batch.flush (noting sink)) (Batch.flush sink) := by
  rintro ⟨batch, log, state⟩
  simp only [Batch.flush, noting, note, forgetLog]
  cases sink.report batch.buffer state <;> rfl

/-- A batch that begins in a buffer of the sink. -/
def begun (buffer : Buffer) : Batch where
  buffer := buffer
  limit := buffer.batchSize

/-- A batch that goes on in a fresh buffer, for the one that the sink took. -/
def renewed (batch : Batch) (fresh : Buffer) : Batch :=
  { batch with
    buffer := fresh.cleared
    limit := fresh.batchSize
    flushes := batch.flushes + 1 }

/-- A batch with one more slot. -/
def grown (batch : Batch) (slot : Address) : Batch :=
  { batch with
    buffer := batch.buffer.push slot
    visited := batch.visited + 1 }

theorem visit_eq (sink : RootSink State) (slot : Address) (batch : Batch) (state : State) :
    Batch.visit sink slot (batch, state) =
      if batch.limit ≤ (batch.buffer.push slot).slots.size then
        Batch.flush sink (grown batch slot, state)
      else .ok () (grown batch slot, state) := rfl

theorem erases_visit (sink : RootSink State) (slot : Address) :
    Erases forgetLog (visit sink slot) (Batch.visit sink slot) := by
  rintro ⟨batch, log, state⟩
  rw [visit, visit_eq, forgetLog, visit_eq]
  split
  · exact erases_flush sink (grown batch slot, log ++ [.visited slot], state)
  · rfl

theorem erases_run (sink : RootSink State) (report : Report State Address) :
    Erases forgetLog (report.beside.beside.run (visit sink))
      (report.beside.run (Batch.visit sink)) := by
  induction report with
  | done => exact fun _ => rfl
  | act step next ih =>
      rintro ⟨batch, log, state⟩
      simp only [Report.beside, Report.run, Action.beside, Action.mapState, forgetLog]
      cases step state with
      | ok value after => exact ih after (batch, log, after)
      | error fault after => rfl
  | item slot next ih =>
      intro state
      have first := erases_visit sink slot state
      simp only [Report.beside, Report.run, ← first]
      cases visit sink slot state with
      | ok value after => exact ih _ after
      | error fault after => rfl

theorem erases_forM (sink : RootSink State) (slots : List Address) :
    Erases forgetLog (slots.forM (visit sink)) (slots.forM (Batch.visit sink)) := by
  induction slots with
  | nil => exact fun _ => rfl
  | cons slot slots ih => exact .bind (erases_visit sink slot) fun _ => ih

/-- Flushes what a batch holds, if anything. -/
def flushRest (sink : RootSink State) : Action (Batch × State) Unit := fun (batch, state) =>
  if batch.buffer.slots.isEmpty then .ok () (batch, state) else Batch.flush sink (batch, state)

/-- Gives the last buffer back. -/
def release (sink : RootSink State) : Action (Batch × State) Unit := fun (batch, state) =>
  Action.mapState (fun after => ({ batch with buffer := .none }, after))
    (sink.release batch.buffer state)

theorem finish_eq (sink : RootSink State) :
    Batch.finish sink = (do flushRest sink; release sink) := by
  funext ⟨batch, state⟩
  simp only [Batch.finish, bind, EStateM.bind, flushRest]
  cases (if batch.buffer.slots.isEmpty = true then .ok () (batch, state)
    else Batch.flush sink (batch, state) : Ending (Batch × State) Unit) with
  | error fault after => rfl
  | ok value after =>
      simp only [release]
      cases sink.release after.1.buffer after.2 <;> rfl

/-- What is left to do when the slots of a visit have come to an end. -/
def close (sink : RootSink State) : Ending (Batch × State) Unit → Ending State Nat
  | .ok _ visited =>
      match Batch.finish sink visited with
      | .ok _ (_, after) => .ok visited.1.visited after
      | .error fault (_, after) => .error fault after
  | .error fault visited =>
      match Batch.finish sink visited with
      | .ok _ (_, after) => .error fault after
      | .error _ (_, after) => .error .cleanupFailed after

theorem collect_eq (sink : RootSink State) (visits : Action (Batch × State) Unit) (state : State) :
    sink.collect visits state =
      match sink.acquire state with
      | .ok buffer started => close sink (visits (begun buffer, started))
      | .error fault after => .error fault after := by
  simp only [RootSink.collect, Batch.start]
  cases sink.acquire state with
  | error fault after => rfl
  | ok buffer started =>
      dsimp only
      change _ = close sink (visits ({ buffer := buffer, limit := buffer.batchSize }, started))
      cases visits ({ buffer := buffer, limit := buffer.batchSize }, started) <;> rfl

theorem erases_finish (sink : RootSink State) :
    Erases forgetLog (Batch.finish (noting sink)) (Batch.finish sink) := by
  rw [finish_eq, finish_eq]
  refine .bind ?_ fun _ => ?_
  · rintro ⟨batch, log, state⟩
    by_cases nothing : batch.buffer.slots.isEmpty = true
    · have noted_eq : flushRest (noting sink) (batch, log, state) = .ok () (batch, log, state) :=
        if_pos nothing
      have plain_eq : flushRest sink (batch, state) = .ok () (batch, state) := if_pos nothing
      rw [noted_eq]
      exact plain_eq.symm
    · have noted_eq : flushRest (noting sink) (batch, log, state) =
          Batch.flush (noting sink) (batch, log, state) := if_neg nothing
      have plain_eq : flushRest sink (batch, state) = Batch.flush sink (batch, state) :=
        if_neg nothing
      rw [noted_eq, erases_flush]
      exact plain_eq.symm
  · rintro ⟨batch, log, state⟩
    simp only [release, noting, note, forgetLog]
    cases sink.release batch.buffer state <;> rfl

theorem mapState_close (sink : RootSink State) (ending : Ending (Batch × Log × State) Unit) :
    Action.mapState Prod.snd (close (noting sink) ending) =
      close sink (Action.mapState forgetLog ending) := by
  cases ending with
  | ok value visited =>
      simp only [close, Action.mapState, ← erases_finish sink visited]
      cases Batch.finish (noting sink) visited <;> rfl
  | error fault visited =>
      simp only [close, Action.mapState, ← erases_finish sink visited]
      cases Batch.finish (noting sink) visited <;> rfl

theorem erases_collect (sink : RootSink State) {noted : Action (Batch × Log × State) Unit}
    {plain : Action (Batch × State) Unit} (erases : Erases forgetLog noted plain) :
    Erases Prod.snd ((noting sink).collect noted) (sink.collect plain) := by
  rintro ⟨log, state⟩
  rw [collect_eq, collect_eq]
  simp only [noting, note]
  cases sink.acquire state with
  | error fault after => rfl
  | ok buffer started =>
      dsimp only
      rw [← noting, mapState_close, erases]
      rfl

end Safepoint.Roots.Traffic
