import Safepoint.Proofs.Roots.Batches
import Safepoint.Proofs.Vacant

/-!
# Deliveries of roots under failure

A collector visits the roots of a mutator, or those that belong to no mutator, of which the runtime
knows some and installed code holds the others.  The runtime may stop with a fault after any slot,
and the sink may meet one at any call.  `Scan.faithful_of_empties` says what the sink has got in
each case, and that code stays as it was when the runtime did not come to its end.
-/

namespace Safepoint

/-- No step of the report breaks what the motive says of the state. -/
inductive Report.Keeps {State Item : Type} (motive : State → Prop) : Report State Item → Prop where
  | done : Keeps motive .done
  | act {step : Action State Unit} {next : State → Report State Item}
      (step_keeps : ∀ state, motive state → motive (Action.left (step state)))
      (next_keeps : ∀ state, Keeps motive (next state)) : Keeps motive (.act step next)
  | item {item : Item} {next : State → Report State Item}
      (next_keeps : ∀ state, Keeps motive (next state)) : Keeps motive (.item item next)

namespace Report.Keeps

variable {State Item Local : Type} {motive : State → Prop} {report : Report State Item}

theorem beside (keeps : report.Keeps motive) :
    report.beside.Keeps fun state : Local × State => motive state.2 := by
  induction keeps with
  | done => exact .done
  | act step_keeps _ ih =>
      refine .act (fun state holds => ?_) fun state => ih state.2
      rw [Action.beside, Action.left_mapState]
      exact step_keeps state.2 holds
  | item _ ih => exact .item fun state => ih state.2

/-- What neither the report nor its listener breaks holds in the end, also after a fault. -/
theorem run (keeps : report.Keeps motive) {listen : Item → Action State Unit}
    (hears : ∀ item state, motive state → motive (Action.left (listen item state)))
    {state : State} (holds : motive state) : motive (Action.left (report.run listen state)) := by
  induction keeps generalizing state with
  | done => exact holds
  | @act step next step_keeps _ ih =>
      have kept := step_keeps state holds
      simp only [Report.run]
      cases ended : step state with
      | ok value after =>
          rw [ended] at kept
          exact ih after kept
      | error fault after => rwa [ended] at kept
  | @item head next _ ih =>
      have kept := hears head state holds
      simp only [Report.run]
      cases ended : listen head state with
      | ok value after =>
          rw [ended] at kept
          exact ih after kept
      | error fault after => rwa [ended] at kept

end Report.Keeps

/-- No call of the sink breaks what the motive says of the state. -/
structure Roots.RootSink.Keeps {State : Type} (motive : State → Prop) (sink : RootSink State) :
    Prop where
  acquire : ∀ state, motive state → motive (Action.left (sink.acquire state))
  report : ∀ batch state, motive state → motive (Action.left (sink.report batch state))
  release : ∀ buffer state, motive state → motive (Action.left (sink.release buffer state))

namespace Roots.Traffic

variable {State Value Record Host : Type} {log : Log} {batch : Batch} {state : State}

section Keeps

variable {motive : State → Prop} {sink : RootSink State}

theorem keeps_flush (keeps : sink.Keeps motive) (batch : Batch) (log : Log)
    (holds : motive state) :
    motive (Action.left (Batch.flush (noting sink) (batch, log, state))).2.2 := by
  have kept := keeps.report batch.buffer state holds
  simp only [Batch.flush, noting, note]
  cases ended : sink.report batch.buffer state <;> rwa [ended] at kept

theorem keeps_visit (keeps : sink.Keeps motive) (slot : Address) (batch : Batch) (log : Log)
    (holds : motive state) : motive (Action.left (visit sink slot (batch, log, state))).2.2 := by
  rw [visit, visit_eq]
  split
  · exact keeps_flush keeps _ _ holds
  · exact holds

theorem keeps_run (keeps : sink.Keeps motive) {report : Report State Address}
    (report_keeps : report.Keeps motive) (batch : Batch) (log : Log) (holds : motive state) :
    motive (Action.left (report.beside.beside.run (visit sink) (batch, log, state))).2.2 :=
  report_keeps.beside.beside.run
    (fun slot ⟨batch, log, _⟩ holds => keeps_visit keeps slot batch log holds)
    (show motive (batch, log, state).2.2 from holds)

theorem keeps_finish (keeps : sink.Keeps motive) (batch : Batch) (log : Log)
    (holds : motive state) :
    motive (Action.left (Batch.finish (noting sink) (batch, log, state))).2.2 := by
  have release_keeps (batch : Batch) (log : Log) (state : State) (holds : motive state) :
      motive (Action.left (release (noting sink) (batch, log, state))).2.2 := by
    have kept := keeps.release batch.buffer state holds
    simp only [release, noting, note]
    cases ended : sink.release batch.buffer state <;> rwa [ended] at kept
  have rest_kept : motive (Action.left (flushRest (noting sink) (batch, log, state))).2.2 := by
    rw [flushRest]
    split
    · exact holds
    · exact keeps_flush keeps batch log holds
  rw [finish_eq]
  exact Action.left_bind_kept (motive := fun state : Batch × Log × State => motive state.2.2)
    rest_kept fun _ after => release_keeps after.1 after.2.1 after.2.2

theorem keeps_collect (keeps : sink.Keeps motive) {visits : Action (Batch × Log × State) Unit}
    (visits_keep : ∀ batch log {state}, motive state →
      motive (Action.left (visits (batch, log, state))).2.2)
    (holds : motive state) : motive (Action.left ((noting sink).collect visits ([], state))).2 := by
  have acquire_kept := keeps.acquire state holds
  rw [collect_eq]
  simp only [noting, note]
  cases acquired : sink.acquire state with
  | error fault after => rwa [acquired] at acquire_kept
  | ok buffer started =>
      rw [acquired] at acquire_kept
      have visited := visits_keep (begun buffer) [.acquired (some buffer)] acquire_kept
      dsimp only [List.nil_append]
      rw [← noting, left_close]
      exact keeps_finish keeps _ _ visited

end Keeps

/-- A visit of roots that a collector makes. -/
inductive Scan where
  /-- Of a parked mutator. -/
  | roots (mutator : Mutator)
  /-- Of no mutator. -/
  | vmRoots (nurseryOnly : Bool)

variable (collector : Collector Record Host) (sink : RootSink (Process Record Host))

def Scan.perform : Scan → Action (Process Record Host) Nat
  | .roots mutator => collector.scanRoots mutator sink
  | .vmRoots nurseryOnly => collector.scanVmRoots nurseryOnly sink

/-- Scans the installed code of a process with a log beside it. -/
def scanBlobs (nurseryOnly : Bool)
    (visit : Address → Action (Batch × Log × Process Record Host) Unit) :
    Action (Batch × Log × Process Record Host) Nat := fun state =>
  Action.mapState
    (fun ended => (ended.2.1, ended.2.2.1, { ended.2.2.2 with blobs := ended.1 }))
    (CodeBlobs.scan nurseryOnly visit (state.2.2.blobs, state))

/-- The slots of a visit, with a log. -/
def Scan.visits : Scan → Action (Batch × Log × Process Record Host) Unit
  | .roots mutator => (collector.runtime.scanMutator mutator).beside.beside.run (visit sink)
  | .vmRoots nurseryOnly => do
      collector.runtime.scanGlobals.beside.beside.run (visit sink)
      let _ ← scanBlobs nurseryOnly (visit sink)

/-- The same visit with its traffic noted. -/
def Scan.noted (scan : Scan) : Action (Log × Process Record Host) Nat :=
  (noting sink).collect (scan.visits collector sink)

/-- What is noted of a visit by its end. -/
def Scan.traffic (scan : Scan) (process : Process Record Host) : Log :=
  (Action.left (scan.noted collector sink ([], process))).1

section Scans

variable {collector sink} {process : Process Record Host}

theorem erases_scanBlobs (nurseryOnly : Bool) :
    Erases forgetLog (scanBlobs nurseryOnly (visit sink))
      (Collector.scanBlobs nurseryOnly (Batch.visit sink)) := by
  intro state
  have scan_eq := erases_scan (erases_visit sink) nurseryOnly (state.2.2.blobs, state)
  rw [scanBlobs, Collector.scanBlobs]
  change _ = Action.mapState _ (CodeBlobs.scan nurseryOnly (Batch.visit sink)
    (Prod.map id forgetLog (state.2.2.blobs, state)))
  rw [← scan_eq]
  cases CodeBlobs.scan nurseryOnly (visit sink) (state.2.2.blobs, state) <;> rfl

/-- Noting changes nothing about a visit. -/
theorem Scan.erases_noted (scan : Scan) :
    Erases Prod.snd (scan.noted collector sink) (scan.perform collector sink) := by
  cases scan with
  | roots mutator => exact erases_collect sink (erases_run sink _)
  | vmRoots nurseryOnly =>
      refine erases_collect sink (.bind (erases_run sink _) fun _ => ?_)
      exact .bind (erases_scanBlobs nurseryOnly) fun _ _ => rfl

/-- A scan of a mutator breaks no more than the runtime and the sink do. -/
theorem keeps_scanRoots {motive : Process Record Host → Prop} (keeps : sink.Keeps motive)
    {mutator : Mutator} (scan_keeps : (collector.runtime.scanMutator mutator).Keeps motive)
    (holds : motive process) : motive (Action.left (collector.scanRoots mutator sink process)) := by
  have erased : Action.mapState Prod.snd ((Scan.roots mutator).noted collector sink ([], process)) =
      collector.scanRoots mutator sink process := (Scan.roots mutator).erases_noted ([], process)
  rw [← erased, Action.left_mapState]
  exact keeps_collect keeps (fun batch log _ => keeps_run keeps scan_keeps batch log) holds

/-- Batch and log are in one way when an action has returned, and in another after a fault. -/
inductive Ends (on stopped : Batch → Log → Prop) : Ending (Batch × Log × State) Value → Prop where
  | on {value : Value} {batch : Batch} {log : Log} {state : State} (holds : on batch log) :
      Ends on stopped (.ok value (batch, log, state))
  | stopped {fault : Fault} {batch : Batch} {log : Log} {state : State}
      (holds : stopped batch log) : Ends on stopped (.error fault (batch, log, state))

section Ends

variable {on stopped : Batch → Log → Prop} {sink : RootSink State}

theorem Ends.mono {weaker : Batch → Log → Prop} {ending : Ending (Batch × Log × State) Value}
    (ends : Ends on stopped ending) (weaken : ∀ {batch log}, stopped batch log → weaker batch log) :
    Ends on weaker ending := by
  cases ends with
  | on holds => exact .on holds
  | stopped holds => exact .stopped (weaken holds)

/-- What comes after an action is left with what the action keeps when it returns. -/
theorem Ends.bind {Other : Type} {first : Action (Batch × Log × State) Other}
    {next : Other → Action (Batch × Log × State) Value} {state : Batch × Log × State}
    (ends : Ends on stopped (first state))
    (rest : ∀ value {batch log} state, on batch log →
      Ends on stopped (next value (batch, log, state))) :
    Ends on stopped ((first >>= next) state) := by
  cases ended : first state with
  | ok value after =>
      rw [ended] at ends
      rw [Action.bind_of_ok ended]
      cases ends with
      | on holds => exact rest value _ holds
  | error fault after =>
      rw [ended] at ends
      rw [Action.bind_of_error ended]
      cases ends with
      | stopped holds => exact .stopped holds

theorem Ends.discard {action : Action (Batch × Log × State) Value} {state : Batch × Log × State}
    (ends : Ends on stopped (action state)) :
    Ends on stopped ((do let _ ← action : Action (Batch × Log × State) Unit) state) :=
  ends.bind fun _ _ _ _ holds => .on holds

/-- What one slot keeps, a report of slots keeps; the runtime may stop it between two of them. -/
theorem ends_report
    (visits : ∀ {batch log} slot state, on batch log →
      Ends on stopped (visit sink slot (batch, log, state)))
    (interrupted : ∀ {batch log}, on batch log → stopped batch log)
    (holds : on batch log) (report : Report State Address) (state : State) :
    Ends on stopped (report.beside.beside.run (visit sink) (batch, log, state)) := by
  induction report generalizing batch log state with
  | done => exact .on holds
  | act step next ih =>
      simp only [Report.beside, Report.run, Action.beside, Action.mapState]
      cases step state with
      | ok value after => exact ih after holds after
      | error fault after => exact .stopped (interrupted holds)
  | item slot next ih =>
      have ends := visits slot state holds
      simp only [Report.beside, Report.run]
      generalize visit sink slot (batch, log, state) = ending at ends
      cases ends with
      | on holds => exact ih _ holds _
      | stopped holds => exact .stopped holds

theorem ends_visitSlots
    (visits : ∀ {batch log} slot state, on batch log →
      Ends on stopped (visit sink slot (batch, log, state)))
    (holds : on batch log) (slots : List Address) (state : State) :
    Ends on stopped (CodeBlobs.visitSlots (visit sink) slots (batch, log, state)) := by
  induction slots generalizing batch log state with
  | nil => exact .on holds
  | cons slot slots ih =>
      have ends := visits slot state holds
      simp only [CodeBlobs.visitSlots]
      generalize visit sink slot (batch, log, state) = ending at ends
      cases ends with
      | on holds => exact ih holds _
      | stopped holds => exact .stopped holds

/-- A scan of code meets no fault but those of the sink. -/
theorem ends_scanBlobs {sink : RootSink (Process Record Host)}
    (visits : ∀ {batch log} slot state, on batch log →
      Ends on stopped (visit sink slot (batch, log, state)))
    (holds : on batch log) (nurseryOnly : Bool) (process : Process Record Host) :
    Ends on stopped (scanBlobs nurseryOnly (visit sink) (batch, log, process)) := by
  have scan_ends := CodeBlobs.scan_end nurseryOnly (visit sink) process.blobs (batch, log, process)
  rw [scanBlobs]
  generalize CodeBlobs.scan nurseryOnly (visit sink) _ = ending at scan_ends
  cases scan_ends with
  | finished visited =>
      have ends := ends_visitSlots visits holds (process.blobs.scannedSlots nurseryOnly) process
      rw [visited] at ends
      cases ends with
      | on holds => exact .on holds
  | old visited =>
      have ends := ends_visitSlots visits holds (process.blobs.matureSlots nurseryOnly) process
      rw [visited] at ends
      cases ends with
      | stopped holds => exact .stopped holds
  | @young done lost code slots fault middle after passed split visited =>
      have ends := ends_visitSlots visits holds (process.blobs.matureSlots nurseryOnly) process
      rw [passed] at ends
      cases ends with
      | @on _ _ _ middle holds =>
          have rest := ends_visitSlots visits holds (CodeBlobs.slotsOf done ++ slots) middle
          rw [visited] at rest
          cases rest with
          | stopped holds => exact .stopped holds

theorem Scan.ends_visits {sink : RootSink (Process Record Host)}
    (visits : ∀ {batch log} slot state, on batch log →
      Ends on stopped (visit sink slot (batch, log, state)))
    (interrupted : ∀ {batch log}, on batch log → stopped batch log)
    (holds : on batch log) (scan : Scan) (process : Process Record Host) :
    Ends on stopped (scan.visits collector sink (batch, log, process)) := by
  cases scan with
  | roots mutator => exact ends_report visits interrupted holds _ process
  | vmRoots nurseryOnly =>
      refine (ends_report visits interrupted holds _ process).bind fun _ _ _ after holds => ?_
      exact (ends_scanBlobs visits holds nurseryOnly after).discard

end Ends

theorem goes_iff {ending : Ending (Batch × Log × State) Value} :
    Goes ending ↔ Ends (fun batch log => Underway log batch)
      (fun batch log => Broken log ∧ batch.buffer.slots = #[]) ending := by
  constructor
  · rintro (underway | ⟨broken, empty⟩)
    · exact .on underway
    · exact .stopped ⟨broken, empty⟩
  · rintro (underway | ⟨broken, empty⟩)
    · exact .on underway
    · exact .stopped broken empty

theorem runs_of_ends {ending : Ending (Batch × Log × State) Unit}
    (ends : Ends (fun batch log => Underway log batch)
      (fun batch log => Broken log ∧ batch.buffer.slots = #[] ∨ Underway log batch) ending) :
    Runs ending := by
  obtain underway | (⟨broken, empty⟩ | underway) := ends
  · exact .goes (.on underway)
  · exact .goes (.stopped broken empty)
  · exact .interrupted underway

theorem runs_report (underway : Underway log batch) (sink : RootSink State)
    (report : Report State Address) (state : State) :
    Runs (report.beside.beside.run (visit sink) (batch, log, state)) :=
  runs_of_ends (ends_report
    (fun slot state underway => (goes_iff.mp (goes_visit underway sink slot state)).mono .inl)
    .inr underway report state)

theorem goes_scanBlobs (underway : Underway log batch) (sink : RootSink (Process Record Host))
    (nurseryOnly : Bool) (process : Process Record Host) :
    Goes (scanBlobs nurseryOnly (visit sink) (batch, log, process)) :=
  goes_iff.mpr (ends_scanBlobs
    (fun slot state underway => goes_iff.mp (goes_visit underway sink slot state))
    underway nurseryOnly process)

theorem Goes.discard {action : Action (Batch × Log × State) Nat} {state : Batch × Log × State}
    (goes : Goes (action state)) :
    Goes ((do let _ ← action : Action (Batch × Log × State) Unit) state) :=
  goes_iff.mpr (goes_iff.mp goes).discard

theorem runs_visits (underway : Underway log batch) (scan : Scan)
    (process : Process Record Host) :
    Runs (scan.visits collector sink (batch, log, process)) :=
  runs_of_ends (scan.ends_visits
    (fun slot state underway => (goes_iff.mp (goes_visit underway sink slot state)).mono .inl)
    .inr underway process)

/-! ## Visits that the runtime stops -/

/-- An end of a visit that meets a fault shows it in the log. -/
theorem unanswered_of_finish {sink : RootSink State} {fault : Fault}
    {after : Batch × Log × State}
    (ended : Batch.finish (noting sink) (batch, log, state) = .error fault after) :
    ¬∀ event ∈ after.2.1, event.answered = true := by
  rw [finish_eq] at ended
  have ends := flush_end sink batch log state
  cases rest : flushRest (noting sink) (batch, log, state) with
  | ok value flushed =>
      rw [Action.bind_of_ok rest] at ended
      simp only [release, noting, note] at ended
      cases released : sink.release flushed.1.buffer flushed.2.2 with
      | ok => simp only [released, Action.mapState, reduceCtorEq] at ended
      | error =>
          simp only [released, Action.mapState] at ended
          cases ended
          intro answered
          simpa [Event.answered] using answered (.released flushed.1.buffer none) (by simp)
  | error other flushed =>
      rw [Action.bind_of_error rest] at ended
      cases ended
      rw [flushRest] at rest
      split at rest
      · cases rest
      · rw [rest] at ends
        cases ends
        intro answered
        simpa [Event.answered] using answered (.reported batch.buffer none) (by simp)

/-- A visit that fails though the sink answers every call was stopped by whoever visits. -/
theorem exists_interrupted {sink : RootSink State} {ending : Ending (Batch × Log × State) Unit}
    {fault : Fault} {after : State} (runs : Runs ending)
    (closed : close (noting sink) ending = .error fault (log, after))
    (answered : ∀ event ∈ log, event.answered = true) :
    ∃ cause batch noted left, ending = .error cause (batch, noted, left) ∧
      Underway noted batch := by
  cases runs with
  | interrupted underway => exact ⟨_, _, _, _, rfl, underway⟩
  | goes goes =>
      cases goes with
      | @on _ batch noted left underway =>
          simp only [close] at closed
          cases finished : Batch.finish (noting sink) (batch, noted, left) with
          | ok => simp only [finished, reduceCtorEq] at closed
          | error cause last =>
              obtain ⟨last_batch, last_log, last_state⟩ := last
              simp only [finished] at closed
              cases closed
              exact absurd answered (unanswered_of_finish finished)
      | @stopped _ batch noted left broken empty =>
          obtain ⟨answer, log_eq⟩ := log_finish_of_empty empty sink noted left
          have left_eq := congrArg Action.left closed
          rw [left_close, Action.left, Action.left] at left_eq
          rw [left_eq] at log_eq
          refine absurd (fun event member => answered event ?_) broken.unanswered
          rw [show log = _ from log_eq]
          exact List.mem_append_left _ member

/-- The same of a whole visit, from the first buffer to the last. -/
theorem exists_interrupted_of_collect {sink : RootSink State}
    {visits : Action (Batch × Log × State) Unit} {fault : Fault} {after : State}
    (empties : ∀ state buffer after, sink.acquire state = .ok buffer after → buffer.slots = #[])
    (runs : ∀ batch log state, Underway log batch → Runs (visits (batch, log, state)))
    (faulted : (noting sink).collect visits ([], state) = .error fault (log, after))
    (answered : ∀ event ∈ log, event.answered = true) :
    ∃ buffer started cause batch noted left, sink.acquire state = .ok buffer started ∧
      Underway [.acquired (some buffer)] (begun buffer) ∧
      visits (begun buffer, [.acquired (some buffer)], started) =
        .error cause (batch, noted, left) ∧
      Underway noted batch ∧
      after = (Action.left (Batch.finish (noting sink) (batch, noted, left))).2.2 := by
  rw [collect_eq] at faulted
  simp only [noting, note] at faulted
  cases acquired : sink.acquire state with
  | error refusal started =>
      simp only [acquired] at faulted
      cases faulted
      simpa [Event.answered] using answered (.acquired none) (by simp)
  | ok buffer started =>
      simp only [acquired, List.nil_append] at faulted
      rw [← noting] at faulted
      have underway := underway_start (empties state buffer started acquired)
      obtain ⟨cause, batch, noted, left, visits_eq, still⟩ :=
        exists_interrupted (runs _ _ started underway) faulted answered
      have left_eq := congrArg Action.left faulted
      rw [left_close, visits_eq, Action.left, Action.left] at left_eq
      exact ⟨buffer, started, cause, batch, noted, left, rfl, underway, visits_eq, still,
        (congrArg Prod.snd left_eq).symm⟩

/-- A visit that is stopped with its batch under way was stopped before any code was looked at. -/
theorem run_of_interrupted {nurseryOnly : Bool} {cause : Fault}
    {last : Batch × Log × Process Record Host}
    (underway : Underway log batch)
    (visits_eq : (Scan.vmRoots nurseryOnly).visits collector sink (batch, log, process) =
      .error cause last)
    (still : Underway last.2.1 last.1) :
    collector.runtime.scanGlobals.beside.beside.run (visit sink) (batch, log, process) =
      .error cause last := by
  have runs := runs_report underway sink collector.runtime.scanGlobals process
  rw [Scan.visits] at visits_eq
  generalize ended : collector.runtime.scanGlobals.beside.beside.run (visit sink) _ = ending
    at runs
  cases runs with
  | interrupted => rwa [Action.bind_of_error ended] at visits_eq
  | goes goes =>
      cases goes with
      | stopped => rwa [Action.bind_of_error ended] at visits_eq
      | @on _ _ _ left run_underway =>
          rw [Action.bind_of_ok ended] at visits_eq
          have scan_goes := (goes_scanBlobs run_underway sink nurseryOnly left).discard
          rw [visits_eq] at scan_goes
          cases scan_goes with
          | stopped broken => exact absurd still.answered broken.unanswered

/-- If the sink answers every call and the visit fails all the same, code is not even looked at. -/
theorem unpromoted_of_answered {nurseryOnly : Bool} {motive : CodeBlobs → Prop}
    (empties : ∀ state buffer after, sink.acquire state = .ok buffer after → buffer.slots = #[])
    (sink_keeps : sink.Keeps fun process => motive process.blobs)
    (runtime_keeps : collector.runtime.scanGlobals.Keeps fun process => motive process.blobs)
    (holds : motive process.blobs) {fault : Fault} {after : Process Record Host}
    (faulted : collector.scanVmRoots nurseryOnly sink process = .error fault after)
    (answered : ∀ event ∈ (Scan.vmRoots nurseryOnly).traffic collector sink process,
      event.answered = true) :
    motive after.blobs := by
  have erased : Action.mapState Prod.snd
      ((Scan.vmRoots nurseryOnly).noted collector sink ([], process)) = _ :=
    (Scan.vmRoots nurseryOnly).erases_noted ([], process)
  rw [Scan.perform, faulted] at erased
  obtain ⟨⟨log, left⟩, noted_eq, rfl⟩ := Action.exists_of_mapState_error erased
  rw [Scan.traffic, noted_eq] at answered
  obtain ⟨buffer, started, cause, batch, noted, middle, acquired, underway, visits_eq, still,
      left_eq⟩ :=
    exists_interrupted_of_collect empties
      (fun _ _ middle underway => runs_visits underway (.vmRoots nurseryOnly) middle) noted_eq
      answered
  have acquire_kept := sink_keeps.acquire process holds
  rw [acquired] at acquire_kept
  have run_kept := keeps_run sink_keeps runtime_keeps (begun buffer) [.acquired (some buffer)]
    acquire_kept
  rw [Action.left, run_of_interrupted underway visits_eq still] at run_kept
  change motive left.blobs
  rw [left_eq]
  exact keeps_finish sink_keeps batch noted run_kept

/-- What is true of a visit, whatever the runtime does and whoever meets a fault. -/
structure Scan.Faithful (scan : Scan) (collector : Collector Record Host)
    (sink : RootSink (Process Record Host)) (process : Process Record Host) : Prop where
  /-- The log is that of the visit. -/
  noted_eq : Action.mapState Prod.snd (scan.noted collector sink ([], process)) =
    scan.perform collector sink process
  delivery : Delivery (scan.traffic collector sink process)
  /--
  If a visit that is not of a mutator was stopped by the runtime, code is as the runtime and the
  sink have left it; no blob was promoted.
  -/
  unpromoted : ∀ nurseryOnly, scan = .vmRoots nurseryOnly → ∀ motive : CodeBlobs → Prop,
    (sink.Keeps fun process => motive process.blobs) →
    (collector.runtime.scanGlobals.Keeps fun process => motive process.blobs) →
    motive process.blobs →
    (∀ event ∈ scan.traffic collector sink process, event.answered = true) →
    ∀ fault after, scan.perform collector sink process = .error fault after → motive after.blobs

/-- A sink that starts with an empty buffer is served faithfully. -/
theorem Scan.faithful_of_empties (scan : Scan)
    (empties : ∀ state buffer after, sink.acquire state = .ok buffer after → buffer.slots = #[])
    (process : Process Record Host) : scan.Faithful collector sink process where
  noted_eq := scan.erases_noted ([], process)
  delivery := (closed_collect empties (fun _ _ middle underway =>
    runs_visits underway scan middle) process).delivery
  unpromoted := by
    rintro nurseryOnly rfl motive sink_keeps runtime_keeps holds answered fault after faulted
    exact unpromoted_of_answered empties sink_keeps runtime_keeps holds faulted answered

end Scans

private def slotAt (number : Word) : Address := ⟨8 * number⟩

private def threeSlots : List Address := [slotAt 1, slotAt 2, slotAt 3]

/-- The runtime reports three roots, and then stops unless they are those of a mutator. -/
private def stopping : Collector Unit Nat :=
  .withRuntime
    { Runtime.idle with
      scanMutator := fun _ => .ofList threeSlots
      scanGlobals := .ofList threeSlots (.fail (.collaborator "runtime")) }

/-- Takes so many batches of two slots, and counts them. -/
private def limitedSink (limit : Nat) : RootSink (Process Unit Nat) where
  acquire := pure (.filled 2 [])
  report batch process :=
    if process.host = limit then .error (.collaborator "sink") process
    else .ok batch { process with host := process.host + 1 }

private def oneBlob : Process Unit Nat :=
  { Process.vacant () 0 with blobs := CodeBlobs.installed }

/-- A runtime that stops withholds nothing that it reported, and a sink only one batch. -/
theorem Scan.faithful_of_empties_stopping :
    received ((Scan.vmRoots true).traffic stopping (limitedSink 9) oneBlob) =
      [[slotAt 1, slotAt 2], [slotAt 3]] ∧
    (Action.left (stopping.scanVmRoots true (limitedSink 9) oneBlob)).blobs =
      CodeBlobs.installed ∧
    handed ((Scan.roots ⟨⟨7⟩, ⟨11⟩⟩).traffic stopping (limitedSink 1) oneBlob) =
      [[slotAt 1, slotAt 2], [slotAt 3]] ∧
    received ((Scan.roots ⟨⟨7⟩, ⟨11⟩⟩).traffic stopping (limitedSink 1) oneBlob) =
      [[slotAt 1, slotAt 2]] := by
  have empties (limit : Nat) : ∀ state buffer after,
      (limitedSink limit).acquire state = .ok buffer after → buffer.slots = #[] := by
    intro state buffer after acquired
    cases acquired
    rfl
  have stopped : (Scan.vmRoots true).Faithful stopping (limitedSink 9) oneBlob :=
    Scan.faithful_of_empties (.vmRoots true) (empties 9) oneBlob
  have refused : (Scan.roots ⟨⟨7⟩, ⟨11⟩⟩).Faithful stopping (limitedSink 1) oneBlob :=
    Scan.faithful_of_empties (.roots ⟨⟨7⟩, ⟨11⟩⟩) (empties 1) oneBlob
  have answered : ∀ event ∈ (Scan.vmRoots true).traffic stopping (limitedSink 9) oneBlob,
      event.answered = true := by
    decide +kernel
  have sink_keeps : (limitedSink 9).Keeps fun process => process.blobs = CodeBlobs.installed := by
    refine ⟨fun _ => id, fun batch process holds => ?_, fun _ _ => id⟩
    simp only [limitedSink]
    split <;> exact holds
  have runtime_keeps :
      stopping.runtime.scanGlobals.Keeps fun process => process.blobs = CodeBlobs.installed :=
    .item fun _ => .item fun _ => .item fun _ => .act (fun _ => id) fun _ => .done
  have faulted := Action.eq_error_of_stop? (show Action.stop?
    (stopping.scanVmRoots true (limitedSink 9) oneBlob) = some (.collaborator "runtime") by
      decide +kernel)
  have handed_eq : handed ((Scan.roots ⟨⟨7⟩, ⟨11⟩⟩).traffic stopping (limitedSink 1) oneBlob) =
      [[slotAt 1, slotAt 2], [slotAt 3]] := by
    decide +kernel
  have second_refused :
      (reports ((Scan.roots ⟨⟨7⟩, ⟨11⟩⟩).traffic stopping (limitedSink 1) oneBlob))[1]?.map
        (fun report => report.2.isSome) = some false := by
    decide +kernel
  obtain ⟨⟨failing, answer⟩, second, unanswered⟩ := Option.map_eq_some_iff.mp second_refused
  obtain rfl : answer = none := by simpa using unanswered
  obtain ⟨received_eq, -⟩ := refused.delivery.interrupted 1 failing second
  rw [handed_eq] at received_eq
  refine ⟨by decide +kernel, ?_, handed_eq, received_eq⟩
  exact stopped.unpromoted true rfl (fun blobs => blobs = CodeBlobs.installed) sink_keeps
    runtime_keeps rfl answered _ _ faulted

end Roots.Traffic

end Safepoint
