import Safepoint.Proofs.Roots.Deliveries
import Safepoint.Proofs.Vacant

/-!
# Buffers that go back

The buffer of a visit is on loan from the sink.  Whatever the runtime and the sink do while slots
are visited, the end of the visit closes the loan and gives the buffer back empty: also when the
runtime stopped, and also when the sink refused a batch that a slot had filled.  There is one way
around it.  What is left in the buffer is handed over first, and if the sink refuses that last
batch the visit ends there.  `Scan.returns_of_acquired` says that a buffer goes back exactly if this
does not happen.
-/

namespace Safepoint.Roots.Traffic

variable {State Record Host : Type} {log : Log} {batch : Batch} {state : State}

/-- The buffers that the sink was given back, whether or not it answered. -/
def releases (log : Log) : List Buffer :=
  log.filterMap fun
    | .released buffer _ => some buffer
    | _ => none

@[simp]
theorem releases_append (earlier later : Log) :
    releases (earlier ++ later) = releases earlier ++ releases later :=
  List.filterMap_append

/-- One buffer went back, once and with nothing in it. -/
def ReturnedOnce (log : Log) : Prop :=
  ∃ buffer, releases log = [buffer] ∧ buffer.slots = #[]

/-- The sink takes what is left in a batch, if anything is. -/
def Flushes (sink : RootSink State) (batch : Batch) (state : State) : Prop :=
  batch.buffer.slots = #[] ∨ ∃ fresh after, sink.report batch.buffer state = .ok fresh after

/-- The sink has taken every batch, and has got no buffer back. -/
structure Lent (log : Log) : Prop where
  taken : ∀ report ∈ reports log, report.2.isSome = true
  unreturned : releases log = []

/-- The sink has got no buffer back; a batch that it refused is gone. -/
structure Stranded (batch : Batch) (log : Log) : Prop where
  unreturned : releases log = []
  empty_of_refused : ∀ report ∈ reports log, report.2.isSome = false → batch.buffer.slots = #[]

theorem Lent.stranded (lent : Lent log) : Stranded batch log where
  unreturned := lent.unreturned
  empty_of_refused report member refused := by
    rw [lent.taken report member] at refused
    cases refused

theorem Lent.append {later : Log} (lent : Lent log) (later_lent : Lent later) :
    Lent (log ++ later) where
  taken := by
    rw [reports_append]
    exact List.forall_mem_append.mpr ⟨lent.taken, later_lent.taken⟩
  unreturned := by rw [releases_append, lent.unreturned, later_lent.unreturned, List.append_nil]

/-- A batch is gone before the sink looks at it, and so is not there any more if it is refused. -/
theorem ends_visit (sink : RootSink State) (slot : Address) (state : State) (lent : Lent log) :
    Ends (fun _ log => Lent log) Stranded (visit sink slot (batch, log, state)) := by
  have visited : Lent (log ++ [.visited slot]) := lent.append ⟨by simp [reports], rfl⟩
  rw [visit, visit_eq]
  split
  · have ends := flush_end sink (grown batch slot) (log ++ [.visited slot]) state
    generalize Batch.flush _ _ = ending at ends
    cases ends with
    | answered => exact .on (visited.append ⟨by simp [reports], rfl⟩)
    | refused =>
        refine .stopped ⟨?_, fun _ _ _ => rfl⟩
        rw [releases_append, visited.unreturned]
        rfl
  · exact .on visited

/-- If the sink takes the rest, the buffer goes back. -/
theorem returnedOnce_finish (sink : RootSink State) (batch : Batch) (state : State)
    (unreturned : releases log = []) (flushes : Flushes sink batch state) :
    ReturnedOnce (Action.left (Batch.finish (noting sink) (batch, log, state))).2.1 := by
  by_cases empty : batch.buffer.slots = #[]
  · obtain ⟨answer, log_eq⟩ := log_finish_of_empty empty sink log state
    refine ⟨batch.buffer, ?_, empty⟩
    rw [log_eq, releases_append, unreturned]
    rfl
  · obtain ⟨fresh, after, taken⟩ := flushes.resolve_left empty
    have rest_eq : flushRest (noting sink) (batch, log, state) =
        .ok () (renewed batch fresh, log ++ [.reported batch.buffer (some fresh)], after) := by
      have filled : ¬batch.buffer.slots.isEmpty = true := by simpa using empty
      simp only [flushRest, if_neg filled, Batch.flush, noting, note, renewed, taken]
    obtain ⟨answer, log_eq⟩ := log_release sink (renewed batch fresh)
      (log ++ [.reported batch.buffer (some fresh)]) after
    refine ⟨(renewed batch fresh).buffer, ?_, rfl⟩
    rw [finish_eq, Action.bind_of_ok rest_eq, log_eq, releases_append, releases_append, unreturned]
    rfl

/-- If the sink refuses the rest, that is the last that it sees. -/
theorem log_finish_of_refused (sink : RootSink State) (batch : Batch) (log : Log) (state : State)
    (refused : ¬Flushes sink batch state) :
    (Action.left (Batch.finish (noting sink) (batch, log, state))).2.1 =
      log ++ [.reported batch.buffer none] := by
  obtain ⟨filled, untaken⟩ := not_or.mp refused
  cases ended : sink.report batch.buffer state with
  | ok fresh after => exact absurd ⟨fresh, after, ended⟩ untaken
  | error fault after =>
      have rest_eq : flushRest (noting sink) (batch, log, state) =
          .error fault
            ({ batch with buffer := .none }, log ++ [.reported batch.buffer none], after) := by
        have nonempty : ¬batch.buffer.slots.isEmpty = true := by simpa using filled
        simp only [flushRest, if_neg nonempty, Batch.flush, noting, note, ended]
      rw [finish_eq, Action.bind_of_error rest_eq]
      rfl

section Scans

variable {collector : Collector Record Host} {sink : RootSink (Process Record Host)}
  {process started : Process Record Host} {first : Buffer}

/-- What a visit has come to when all that is left to do is to end it. -/
def Scan.brink (scan : Scan) (collector : Collector Record Host)
    (sink : RootSink (Process Record Host)) (first : Buffer) (started : Process Record Host) :
    Batch × Log × Process Record Host :=
  Action.left (scan.visits collector sink (begun first, [.acquired (some first)], started))

/-- The sink takes what is left at the end of the visit. -/
def Scan.Empties (scan : Scan) (collector : Collector Record Host)
    (sink : RootSink (Process Record Host)) (first : Buffer) (started : Process Record Host) :
    Prop :=
  Flushes sink (scan.brink collector sink first started).1
    (scan.brink collector sink first started).2.2

/-- What becomes of the buffers of a visit that began in the buffer `first`. -/
structure Scan.Returns (scan : Scan) (collector : Collector Record Host)
    (sink : RootSink (Process Record Host)) (process : Process Record Host) (first : Buffer)
    (started : Process Record Host) : Prop where
  /-- The log is that of the visit. -/
  noted_eq : Action.mapState Prod.snd (scan.noted collector sink ([], process)) =
    scan.perform collector sink process
  returned_iff : ReturnedOnce (scan.traffic collector sink process) ↔
    scan.Empties collector sink first started
  /-- If the sink refuses what is left, it never gets a buffer back. -/
  withheld : ¬scan.Empties collector sink first started →
    releases (scan.traffic collector sink process) = [] ∧
      scan.traffic collector sink process = (scan.brink collector sink first started).2.1 ++
        [.reported (scan.brink collector sink first started).1.buffer none]
  /-- A sink that takes every batch gets a buffer back, whether or not the runtime stopped. -/
  returned_of_taken : (∀ report ∈ reports (scan.traffic collector sink process),
      report.2.isSome = true) → ReturnedOnce (scan.traffic collector sink process)
  /-- So does one that refuses a batch while slots are visited. -/
  returned_of_refused : (∃ report ∈ reports (scan.brink collector sink first started).2.1,
      report.2.isSome = false) → ReturnedOnce (scan.traffic collector sink process)

theorem Scan.stranded_brink (scan : Scan) (collector : Collector Record Host)
    (sink : RootSink (Process Record Host)) (first : Buffer) (started : Process Record Host) :
    Stranded (scan.brink collector sink first started).1
      (scan.brink collector sink first started).2.1 := by
  have lent : Lent [.acquired (some first)] := ⟨by simp [reports], rfl⟩
  have ends : Ends (fun _ log => Lent log) Stranded (scan.visits collector sink
      (begun first, [.acquired (some first)], started)) :=
    scan.ends_visits (fun slot state lent => ends_visit sink slot state lent) Lent.stranded lent
      started
  rw [Scan.brink]
  generalize scan.visits collector sink _ = ending at ends
  cases ends with
  | on lent => exact lent.stranded
  | stopped stranded => exact stranded

theorem Scan.traffic_eq_finish (scan : Scan) (collector : Collector Record Host)
    (acquired : sink.acquire process = .ok first started) :
    scan.traffic collector sink process =
      (Action.left (Batch.finish (noting sink) (scan.brink collector sink first started))).2.1 := by
  rw [Scan.traffic, Scan.noted, collect_eq]
  simp only [noting, note, acquired, List.nil_append]
  rw [← noting, left_close]
  rfl

/--
Whatever the runtime and the sink do, a visit that began in a buffer of the sink gives one buffer
back, empty, unless the sink refuses what is left in the buffer at the end.
-/
theorem Scan.returns_of_acquired (scan : Scan)
    (acquired : sink.acquire process = .ok first started) :
    scan.Returns collector sink process first started := by
  have stranded := scan.stranded_brink collector sink first started
  have traffic_eq := scan.traffic_eq_finish collector acquired
  have returned (empties : scan.Empties collector sink first started) :
      ReturnedOnce (scan.traffic collector sink process) := by
    rw [traffic_eq]
    exact returnedOnce_finish sink _ _ stranded.unreturned empties
  have last (refused : ¬scan.Empties collector sink first started) :
      scan.traffic collector sink process = (scan.brink collector sink first started).2.1 ++
        [.reported (scan.brink collector sink first started).1.buffer none] :=
    traffic_eq.trans (log_finish_of_refused sink _ _ _ refused)
  have withheld (refused : ¬scan.Empties collector sink first started) :
      releases (scan.traffic collector sink process) = [] := by
    rw [last refused, releases_append, stranded.unreturned]
    rfl
  refine ⟨scan.erases_noted ([], process), ⟨fun once => ?_, returned⟩,
    fun refused => ⟨withheld refused, last refused⟩, fun taken => returned ?_,
    fun ⟨report, member, refused⟩ => returned (Or.inl ?_)⟩
  · by_contra refused
    obtain ⟨buffer, releases_eq, -⟩ := once
    rw [withheld refused] at releases_eq
    cases releases_eq
  · by_contra refused
    have member : ((scan.brink collector sink first started).1.buffer, none) ∈
        reports (scan.traffic collector sink process) := by
      rw [last refused, reports_append]
      exact List.mem_append_right _ (.head _)
    cases taken _ member
  · exact stranded.empty_of_refused report member refused

end Scans

/-- Whoever is scanned has one root. -/
private def oneRoot : Collector Unit Unit :=
  .withRuntime { Runtime.idle with scanMutator := fun _ => .ofList [⟨8⟩] }

/-- Hands out a first buffer of the given capacity, and takes no batch. -/
private def refusingSink (capacity : Nat) : RootSink (Process Unit Unit) where
  acquire := pure (.filled capacity [])
  report _ := throw (.collaborator "sink")

private def oneMutator : Mutator := ⟨⟨0⟩, ⟨1⟩⟩

/-- A batch that is refused when it is full costs no buffer; one that is refused at the end does. -/
theorem Scan.returns_of_acquired_refusing :
    ReturnedOnce ((Scan.roots oneMutator).traffic oneRoot (refusingSink 1) (.vacant () ())) ∧
      releases ((Scan.roots oneMutator).traffic oneRoot (refusingSink 4) (.vacant () ())) = [] := by
  have full : (Scan.roots oneMutator).Returns oneRoot (refusingSink 1) (.vacant () ()) (.filled 1 [])
    (.vacant () ()) := Scan.returns_of_acquired (.roots oneMutator) rfl
  have rest : (Scan.roots oneMutator).Returns oneRoot (refusingSink 4) (.vacant () ()) (.filled 4 [])
    (.vacant () ()) := Scan.returns_of_acquired (.roots oneMutator) rfl
  have refused : ∃ report ∈ reports ((Scan.roots oneMutator).brink oneRoot (refusingSink 1)
      (.filled 1 []) (.vacant () ())).2.1, report.2.isSome = false := by
    decide +kernel
  have left : ((Scan.roots oneMutator).brink oneRoot (refusingSink 4) (.filled 4 [])
      (.vacant () ())).1.buffer.slots ≠ #[] := by
    decide +kernel
  refine ⟨full.returned_of_refused refused, (rest.withheld ?_).1⟩
  rintro (empty | ⟨fresh, after, taken⟩)
  · exact left empty
  · cases taken

end Safepoint.Roots.Traffic
