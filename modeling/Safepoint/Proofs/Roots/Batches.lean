import Safepoint.Proofs.Roots.Traffic

/-!
# Batches of a visit

A batch is as large as the buffer that it is collected in, and that buffer is the sink's choice each
time.  What the log and the batch under way say together is an invariant of visiting: the slots
visited are those handed over and, after them, those in the buffer.  `collect_delivers` states what
a sink gets to see that answers every call: all slots in order, in batches that fill their buffers
except perhaps the last, and then an empty buffer.
-/

namespace Safepoint.Roots

theorem Buffer.batchSize_pos (buffer : Buffer) : 0 < buffer.batchSize :=
  Nat.lt_of_lt_of_le Nat.zero_lt_one (Nat.le_max_right buffer.capacity 1)

namespace Traffic

variable {State Value : Type} {sink : RootSink State}
variable {log : Log} {batch : Batch} {buffer : Buffer} {state : State}

theorem getElem?_concat {Item : Type} {items : List Item} {last item : Item} {number : Nat}
    (found : (items ++ [last])[number]? = some item) :
    items[number]? = some item ∨ number = items.length ∧ last = item := by
  rcases Nat.lt_or_ge number items.length with number_lt | number_ge
  · rw [List.getElem?_append_left number_lt] at found
    exact Or.inl found
  · rw [List.getElem?_append_right number_ge] at found
    cases distance : number - items.length with
    | zero =>
        rw [distance] at found
        exact Or.inr ⟨by omega, Option.some.inj found⟩
    | succ => simp [distance] at found

/-- There are as many batches as buffers, and each fills its own. -/
def Filled (batches : List (List Address)) (buffers : List Buffer) : Prop :=
  batches.map List.length = buffers.map Buffer.batchSize

/-- Each batch fills its buffer, except that the last may hold less, but not nothing. -/
structure Sized (batches : List (List Address)) (buffers : List Buffer) : Prop where
  ne_nil : ∀ batch ∈ batches, batch ≠ []
  sized : ∀ (number : Nat) (batch : List Address), batches[number]? = some batch →
    ∃ buffer, buffers[number]? = some buffer ∧ batch.length ≤ buffer.batchSize ∧
      (number + 1 < batches.length → batch.length = buffer.batchSize)

namespace Filled

variable {batches : List (List Address)} {front : List Buffer}

theorem length_eq (filled : Filled batches front) : batches.length = front.length := by
  simpa using congrArg List.length filled

theorem getElem? (filled : Filled batches front) {number : Nat} {batch : List Address}
    (found : batches[number]? = some batch) :
    ∃ buffer, front[number]? = some buffer ∧ batch.length = buffer.batchSize := by
  have same := congrArg (fun sizes : List Nat => sizes[number]?) filled
  simp only [List.getElem?_map, found, Option.map_some] at same
  obtain ⟨buffer, buffer_at, size_eq⟩ := Option.map_eq_some_iff.mp same.symm
  exact ⟨buffer, buffer_at, size_eq.symm⟩

theorem ne_nil (filled : Filled batches front) : ∀ batch ∈ batches, batch ≠ [] := by
  intro batch member
  obtain ⟨number, found⟩ := List.mem_iff_getElem?.mp member
  obtain ⟨buffer, -, length_eq⟩ := filled.getElem? found
  exact List.ne_nil_of_length_pos (length_eq ▸ buffer.batchSize_pos)

theorem concat (filled : Filled batches front) {batch : List Address} {current : Buffer}
    (length_eq : batch.length = current.batchSize) :
    Filled (batches ++ [batch]) (front ++ [current]) := by
  simp only [Filled, List.map_append, List.map_cons, List.map_nil, length_eq]
  rw [filled]

theorem sized (filled : Filled batches front) (rest : List Buffer) :
    Sized batches (front ++ rest) where
  ne_nil := filled.ne_nil
  sized number batch found := by
    obtain ⟨buffer, buffer_at, length_eq⟩ := filled.getElem? found
    have number_lt := (List.getElem?_eq_some_iff.mp buffer_at).choose
    exact ⟨buffer, by rw [List.getElem?_append_left number_lt, buffer_at], Nat.le_of_eq length_eq,
      fun _ => length_eq⟩

theorem sized_concat (filled : Filled batches front) {last : List Address} {current : Buffer}
    (last_ne : last ≠ []) (length_le : last.length ≤ current.batchSize) (rest : List Buffer) :
    Sized (batches ++ [last]) (front ++ current :: rest) where
  ne_nil batch member := by
    rcases List.mem_append.mp member with earlier | is_last
    · exact filled.ne_nil batch earlier
    · rwa [List.mem_singleton.mp is_last]
  sized number batch found := by
    rcases getElem?_concat found with earlier | ⟨number_eq, rfl⟩
    · obtain ⟨buffer, buffer_at, length_eq⟩ := filled.getElem? earlier
      have number_lt := (List.getElem?_eq_some_iff.mp buffer_at).choose
      exact ⟨buffer, by rw [List.getElem?_append_left number_lt, buffer_at],
        Nat.le_of_eq length_eq, fun _ => length_eq⟩
    · refine ⟨current, ?_, length_le, fun number_lt => ?_⟩
      · rw [number_eq, filled.length_eq, List.getElem?_append_right (Nat.le_refl _)]
        simp
      · rw [number_eq, List.length_append] at number_lt
        exact absurd number_lt (Nat.lt_irrefl _)

end Filled

/-- The log and the batch agree. -/
structure Tally (log : Log) (batch : Batch) : Prop where
  answered : ∀ event ∈ log, event.answered = true
  unreleased : ∀ event ∈ log, event.isRelease = false
  visited_eq : visited log = (handed log).flatten ++ batch.buffer.slots.toList
  /-- All buffers but the one in use came back as full batches. -/
  filled : ∃ front current, buffers log = front ++ [current] ∧ Filled (handed log) front ∧
    batch.limit = current.batchSize
  flushes_eq : batch.flushes = (handed log).length
  count_eq : batch.visited = (visited log).length

/-- Between two slots the buffer has room for one more. -/
structure Underway (log : Log) (batch : Batch) : Prop extends Tally log batch where
  size_lt : batch.buffer.slots.size < batch.limit

/-- The sink met a fault when it was handed a batch that agrees with the log before. -/
inductive Broken : Log → Prop where
  | report {log : Log} {batch : Batch} (tally : Tally log batch)
      (slots_ne : batch.buffer.slots.toList ≠ []) (size_le : batch.buffer.slots.size ≤ batch.limit) :
      Broken (log ++ [.reported batch.buffer none])

theorem underway_start (empty : buffer.slots = #[]) :
    Underway [.acquired (some buffer)] (begun buffer) where
  answered := by simp [Event.answered]
  unreleased := by simp [Event.isRelease]
  visited_eq := by simp [visited, handed, reports, begun, empty]
  filled := ⟨[], buffer, rfl, rfl, rfl⟩
  flushes_eq := rfl
  count_eq := rfl
  size_lt := by simpa [begun, empty] using buffer.batchSize_pos

theorem Tally.grown (tally : Tally log batch) (slot : Address) :
    Tally (log ++ [.visited slot]) (grown batch slot) where
  answered := by simpa [Event.answered, or_imp, forall_and] using tally.answered
  unreleased := by simpa [Event.isRelease, or_imp, forall_and] using tally.unreleased
  visited_eq := by
    rw [visited_append, handed_append, tally.visited_eq]
    simp [visited, handed, reports, Traffic.grown, Buffer.push]
  filled := by
    rw [buffers_append, handed_append]
    simpa [buffers, handed, reports, Traffic.grown] using tally.filled
  flushes_eq := by
    rw [handed_append]
    simpa [handed, reports, Traffic.grown] using tally.flushes_eq
  count_eq := by
    rw [visited_append, List.length_append, ← tally.count_eq]
    rfl

/-- A full batch that the sink took makes room for the next one. -/
theorem Tally.flushed (tally : Tally log batch) (full : batch.buffer.slots.size = batch.limit)
    (fresh : Buffer) :
    Underway (log ++ [.reported batch.buffer (some fresh)]) (renewed batch fresh) where
  answered := by simpa [Event.answered, or_imp, forall_and] using tally.answered
  unreleased := by simpa [Event.isRelease, or_imp, forall_and] using tally.unreleased
  visited_eq := by
    rw [visited_append, handed_append, tally.visited_eq]
    simp [visited, handed, reports, renewed, Buffer.cleared]
  filled := by
    obtain ⟨front, current, buffers_eq, filled, limit_eq⟩ := tally.filled
    rw [buffers_append, handed_append, buffers_eq]
    refine ⟨front ++ [current], fresh, rfl, filled.concat ?_, rfl⟩
    rw [Array.length_toList, full, limit_eq]
  flushes_eq := by
    rw [handed_append, List.length_append, ← tally.flushes_eq]
    rfl
  count_eq := by
    rw [visited_append, List.length_append, ← tally.count_eq]
    rfl
  size_lt := fresh.batchSize_pos

/-- How a flush ends. -/
inductive FlushEnd (log : Log) (batch : Batch) : Ending (Batch × Log × State) Unit → Prop where
  | answered {fresh : Buffer} {after : State} :
      FlushEnd log batch
        (.ok () (renewed batch fresh, log ++ [.reported batch.buffer (some fresh)], after))
  | refused {fault : Fault} {after : State} :
      FlushEnd log batch
        (.error fault
          ({ batch with buffer := .none }, log ++ [.reported batch.buffer none], after))

theorem flush_end (sink : RootSink State) (batch : Batch) (log : Log) (state : State) :
    FlushEnd log batch (Batch.flush (noting sink) (batch, log, state)) := by
  simp only [Batch.flush, noting, note]
  cases sink.report batch.buffer state with
  | ok fresh after => exact .answered
  | error fault after => exact .refused

/-- The visit of slots is under way, or the sink has stopped it. -/
inductive Goes : Ending (Batch × Log × State) Value → Prop where
  | on {value : Value} {batch : Batch} {log : Log} {state : State} (underway : Underway log batch) :
      Goes (.ok value (batch, log, state))
  | stopped {fault : Fault} {batch : Batch} {log : Log} {state : State} (broken : Broken log)
      (empty : batch.buffer.slots = #[]) : Goes (.error fault (batch, log, state))

/-- One more slot keeps a visit under way, unless the sink meets a fault. -/
theorem goes_visit (underway : Underway log batch) (sink : RootSink State) (slot : Address)
    (state : State) : Goes (visit sink slot (batch, log, state)) := by
  have tally := underway.toTally.grown slot
  have size_lt := underway.size_lt
  have size_eq : (grown batch slot).buffer.slots.size = batch.buffer.slots.size + 1 :=
    Array.size_push _
  rw [visit, visit_eq]
  split
  · rename_i limit_le
    have full : (grown batch slot).buffer.slots.size = (grown batch slot).limit := by
      change batch.limit ≤ (grown batch slot).buffer.slots.size at limit_le
      change _ = batch.limit
      omega
    have ends := flush_end sink (grown batch slot) (log ++ [.visited slot]) state
    generalize Batch.flush _ _ = ending at ends
    cases ends with
    | @answered fresh after => exact .on (tally.flushed full fresh)
    | refused =>
        refine .stopped (.report tally ?_ (Nat.le_of_eq full)) rfl
        exact List.ne_nil_of_length_pos (by rw [Array.length_toList, size_eq]; omega)
  · rename_i limit_gt
    exact .on ⟨tally, Nat.lt_of_not_le limit_gt⟩

/-- All visited slots were handed over and received. -/
structure Settled (log : Log) : Prop where
  answered : ∀ event ∈ log, event.answered = true
  unreleased : ∀ event ∈ log, event.isRelease = false
  flatten_eq : (handed log).flatten = visited log
  sized : Sized (handed log) (buffers log)

theorem Tally.settled (tally : Tally log batch) (empty : batch.buffer.slots.toList = []) :
    Settled log where
  answered := tally.answered
  unreleased := tally.unreleased
  flatten_eq := by rw [tally.visited_eq, empty, List.append_nil]
  sized := by
    obtain ⟨front, current, buffers_eq, filled, -⟩ := tally.filled
    rw [buffers_eq]
    exact filled.sized [current]

theorem Tally.settled_flushed (tally : Tally log batch) (slots_ne : batch.buffer.slots.toList ≠ [])
    (size_le : batch.buffer.slots.size ≤ batch.limit) (fresh : Buffer) :
    Settled (log ++ [.reported batch.buffer (some fresh)]) where
  answered := by simpa [Event.answered, or_imp, forall_and] using tally.answered
  unreleased := by simpa [Event.isRelease, or_imp, forall_and] using tally.unreleased
  flatten_eq := by
    rw [visited_append, handed_append, tally.visited_eq]
    simp [visited, handed, reports]
  sized := by
    obtain ⟨front, current, buffers_eq, filled, limit_eq⟩ := tally.filled
    rw [buffers_append, handed_append, buffers_eq, List.append_assoc]
    exact filled.sized_concat slots_ne (by rwa [Array.length_toList, ← limit_eq]) [fresh]

/-- The log of a visit that has come to its end, one way or another. -/
inductive Closed : Log → Prop where
  /-- The sink had no first buffer. -/
  | unopened : Closed [.acquired none]
  | released {log : Log} {buffer : Buffer} (settled : Settled log) (empty : buffer.slots = #[])
      (answer : Option Unit) : Closed (log ++ [.released buffer answer])
  | broken {log : Log} (broken : Broken log) : Closed log
  | brokenReleased {log : Log} (broken : Broken log) (buffer : Buffer) (answer : Option Unit) :
      Closed (log ++ [.released buffer answer])

theorem log_release (sink : RootSink State) (batch : Batch) (log : Log) (state : State) :
    ∃ answer, (Action.left (release (noting sink) (batch, log, state))).2.1 =
      log ++ [.released batch.buffer answer] := by
  simp only [release, noting, note]
  cases sink.release batch.buffer state with
  | ok => exact ⟨_, rfl⟩
  | error => exact ⟨_, rfl⟩

theorem closed_finish (underway : Underway log batch) (sink : RootSink State) (state : State) :
    Closed (Action.left (Batch.finish (noting sink) (batch, log, state))).2.1 := by
  rw [finish_eq]
  by_cases empty : batch.buffer.slots.isEmpty = true
  · have rest_eq : flushRest (noting sink) (batch, log, state) = .ok () (batch, log, state) :=
      if_pos empty
    have no_slots : batch.buffer.slots = #[] := by simpa using empty
    obtain ⟨answer, log_eq⟩ := log_release sink batch log state
    rw [Action.bind_of_ok rest_eq, log_eq]
    exact .released (underway.settled (by rw [no_slots])) no_slots answer
  · have rest_eq : flushRest (noting sink) (batch, log, state) =
        Batch.flush (noting sink) (batch, log, state) := if_neg empty
    have slots_ne : batch.buffer.slots.toList ≠ [] := by simpa using empty
    have size_le := Nat.le_of_lt underway.size_lt
    have ends := flush_end sink batch log state
    rw [← rest_eq] at ends
    cases ended : flushRest (noting sink) (batch, log, state) with
    | ok value after =>
        rw [ended] at ends
        rw [Action.bind_of_ok ended]
        cases ends with
        | @answered fresh after =>
            obtain ⟨answer, log_eq⟩ := log_release sink (renewed batch fresh)
              (log ++ [.reported batch.buffer (some fresh)]) after
            rw [log_eq]
            exact .released (underway.settled_flushed slots_ne size_le fresh) rfl answer
    | error fault after =>
        rw [ended] at ends
        rw [Action.bind_of_error ended]
        cases ends with
        | refused => exact .broken (.report underway.toTally slots_ne size_le)

/-- A batch that holds nothing is ended by giving its buffer back. -/
theorem log_finish_of_empty (empty : batch.buffer.slots = #[]) (sink : RootSink State)
    (log : Log) (state : State) :
    ∃ answer, (Action.left (Batch.finish (noting sink) (batch, log, state))).2.1 =
      log ++ [.released batch.buffer answer] := by
  have rest_eq : flushRest (noting sink) (batch, log, state) = .ok () (batch, log, state) :=
    if_pos (by simp [empty])
  rw [finish_eq, Action.bind_of_ok rest_eq]
  exact log_release sink batch log state

/-- How the slots of a visit end: by themselves, by the sink, or by a fault of whoever visits. -/
inductive Runs : Ending (Batch × Log × State) Unit → Prop where
  | goes {ending : Ending (Batch × Log × State) Unit} (goes : Goes ending) : Runs ending
  | interrupted {fault : Fault} {batch : Batch} {log : Log} {state : State}
      (underway : Underway log batch) : Runs (.error fault (batch, log, state))

theorem left_close (sink : RootSink State) (ending : Ending (Batch × State) Unit) :
    Action.left (close sink ending) =
      (Action.left (Batch.finish sink (Action.left ending))).2 := by
  cases ending with
  | ok value visited =>
      simp only [close, Action.left]
      cases Batch.finish sink visited <;> rfl
  | error fault visited =>
      simp only [close, Action.left]
      cases Batch.finish sink visited <;> rfl

/-- Whatever becomes of a visit, its log comes to a proper end. -/
theorem closed_collect (empties : ∀ state buffer after,
      sink.acquire state = .ok buffer after → buffer.slots = #[])
    {visits : Action (Batch × Log × State) Unit}
    (runs : ∀ batch log state, Underway log batch → Runs (visits (batch, log, state)))
    (state : State) : Closed (Action.left ((noting sink).collect visits ([], state))).1 := by
  rw [collect_eq]
  simp only [noting, note]
  cases acquired : sink.acquire state with
  | error fault after => exact .unopened
  | ok buffer started =>
      have run := runs _ _ started (underway_start (empties state buffer started acquired))
      dsimp only
      rw [← noting, left_close, List.nil_append]
      generalize visits _ = ending at run
      cases run with
      | goes goes =>
          cases goes with
          | on underway => exact closed_finish underway sink _
          | stopped broken empty =>
              obtain ⟨answer, log_eq⟩ := log_finish_of_empty empty sink _ _
              rw [Action.left, log_eq]
              exact .brokenReleased broken _ answer
      | interrupted underway => exact closed_finish underway sink _

/-- What the log of a visit says in the end. -/
structure Delivery (log : Log) : Prop where
  /-- The slots visited are the slots of the batches, in order. -/
  flatten_eq : (handed log).flatten = visited log
  sized : Sized (handed log) (buffers log)
  /-- A sink that answers every call receives all batches, and at last one empty buffer. -/
  received_eq : (∀ event ∈ log, event.answered = true) → received log = handed log
  released : (∀ event ∈ log, event.answered = true) →
    ∃ earlier buffer, log = earlier ++ [.released buffer (some ())] ∧ buffer.slots = #[] ∧
      ∀ event ∈ earlier, event.isRelease = false
  /-- A sink that meets a fault on a batch has received those before it, and sees no other. -/
  interrupted : ∀ number failing, (reports log)[number]? = some (failing, none) →
    received log = (handed log).take number ∧
      handed log = received log ++ [failing.slots.toList]

theorem answer_ne_none {batch : Buffer} (answered : ∀ event ∈ log, event.answered = true) :
    (batch, none) ∉ reports log := by
  intro member
  obtain ⟨event, event_mem, found⟩ := List.mem_filterMap.mp member
  have event_answered := answered event event_mem
  cases event with
  | reported other answer =>
      simp only [Option.some.injEq, Prod.mk.injEq] at found
      rw [Event.answered, found.2] at event_answered
      cases event_answered
  | visited | acquired | released => cases found

/-- Nothing that was not a report changes what was delivered, before the end. -/
theorem Settled.delivery (settled : Settled log) (empty : buffer.slots = #[])
    (answer : Option Unit) : Delivery (log ++ [.released buffer answer]) where
  flatten_eq := by
    rw [handed_append, visited_append]
    simpa [handed, reports, visited] using settled.flatten_eq
  sized := by
    rw [handed_append, buffers_append]
    simpa [handed, reports, buffers] using settled.sized
  received_eq := received_eq_handed
  released answered := by
    obtain ⟨⟩ | ⟨⟨⟩⟩ := answer
    · simpa [Event.answered] using answered (.released buffer none) (by simp)
    · exact ⟨log, buffer, rfl, empty, settled.unreleased⟩
  interrupted number failing found := by
    rw [reports_append] at found
    have member := List.mem_of_getElem? found
    exact absurd (by simpa [reports] using member) (answer_ne_none settled.answered)

theorem Broken.unanswered (broken : Broken log) :
    ¬∀ event ∈ log, event.answered = true := by
  intro answered
  obtain @⟨log, batch, tally, slots_ne, size_le⟩ := broken
  simpa [Event.answered] using answered (.reported batch.buffer none) (by simp)

theorem Broken.delivery (broken : Broken log) : Delivery log := by
  refine ⟨?_, ?_, fun answered => absurd answered broken.unanswered,
    fun answered => absurd answered broken.unanswered, ?_⟩
  all_goals obtain @⟨log, batch, tally, slots_ne, size_le⟩ := broken
  · rw [visited_append, handed_append, tally.visited_eq]
    simp [visited, handed, reports]
  · obtain ⟨front, current, buffers_eq, filled, limit_eq⟩ := tally.filled
    rw [buffers_append, handed_append, buffers_eq, List.append_assoc]
    exact filled.sized_concat slots_ne (by rwa [Array.length_toList, ← limit_eq]) []
  · intro number failing found
    have received_eq : received (log ++ [.reported batch.buffer none]) = handed log := by
      rw [received_append, received_eq_handed tally.answered]
      exact List.append_nil _
    have handed_eq : handed (log ++ [.reported batch.buffer none]) =
        handed log ++ [batch.buffer.slots.toList] := handed_append log _
    rw [reports_append] at found
    rcases getElem?_concat found with earlier | ⟨number_eq, same⟩
    · exact absurd (List.mem_of_getElem? earlier) (answer_ne_none tally.answered)
    · have length_eq : (reports log).length = (handed log).length := (List.length_map _).symm
      obtain rfl : batch.buffer = failing := congrArg Prod.fst same
      rw [received_eq, handed_eq, number_eq, length_eq]
      exact ⟨(List.take_left ..).symm, rfl⟩

/-- A buffer that is given back after a fault of the sink changes nothing. -/
theorem Broken.delivery_released (broken : Broken log) (buffer : Buffer) (answer : Option Unit) :
    Delivery (log ++ [.released buffer answer]) := by
  have delivery := broken.delivery
  have unanswered : ¬∀ event ∈ log ++ [.released buffer answer], event.answered = true :=
    fun answered => broken.unanswered fun event member =>
      answered event (List.mem_append_left _ member)
  refine ⟨?_, ?_, fun answered => absurd answered unanswered,
    fun answered => absurd answered unanswered, ?_⟩
  · rw [handed_append, visited_append]
    simpa [handed, reports, visited] using delivery.flatten_eq
  · rw [handed_append, buffers_append]
    simpa [handed, reports, buffers] using delivery.sized
  · intro number failing found
    rw [reports_append] at found
    have interrupted := delivery.interrupted number failing (by simpa [reports] using found)
    rw [received_append, handed_append]
    simpa [handed, received, reports] using interrupted

theorem Closed.delivery (closed : Closed log) : Delivery log := by
  cases closed with
  | unopened =>
      refine ⟨rfl, ⟨by simp [handed, reports], by simp [handed, reports]⟩, fun _ => rfl, ?_, ?_⟩
      · intro answered
        simpa [Event.answered] using answered (.acquired none) (by simp)
      · intro number failing found
        simp [reports] at found
  | released settled empty answer => exact settled.delivery empty answer
  | broken broken => exact broken.delivery
  | brokenReleased broken buffer answer => exact broken.delivery_released buffer answer

/-! ## Sinks that answer every call -/

/-- A sink that meets no fault and starts with an empty buffer. -/
structure Obliging (sink : RootSink State) : Prop where
  acquires : ∀ state, ∃ buffer after, sink.acquire state = .ok buffer after ∧ buffer.slots = #[]
  reports : ∀ batch state, ∃ fresh after, sink.report batch state = .ok fresh after
  releases : ∀ buffer state, ∃ after, sink.release buffer state = .ok () after

namespace Obliging

/-- A batch is under way in a log that goes on from another, with these slots visited since. -/
structure Follows (log : Log) (slots : List Address) (batch : Batch) (after : Log) : Prop where
  underway : Underway after batch
  log_prefix : log <+: after
  visited_eq : visited after = visited log ++ slots

theorem visit (obliging : Obliging sink) (underway : Underway log batch) (slot : Address)
    (state : State) :
    ∃ batch' log' after, Traffic.visit sink slot (batch, log, state) = .ok () (batch', log', after) ∧
      Follows log [slot] batch' log' := by
  have goes := goes_visit underway sink slot state
  rw [Traffic.visit, visit_eq] at goes ⊢
  split at goes
  · rename_i limit_le
    obtain ⟨fresh, after, answered⟩ := obliging.reports (batch.buffer.push slot) state
    have ended : Batch.flush (noting sink) (grown batch slot, log ++ [.visited slot], state) =
        .ok ()
          (renewed (grown batch slot) fresh,
            log ++ [.visited slot] ++ [.reported (batch.buffer.push slot) (some fresh)], after) := by
      simp only [Batch.flush, noting, note, grown, renewed, answered]
    rw [if_pos limit_le, ended]
    rw [ended] at goes
    cases goes with
    | on underway =>
        refine ⟨_, _, _, rfl, underway, ?_, ?_⟩
        · rw [List.append_assoc]
          exact List.prefix_append _ _
        · simp [visited]
  · rename_i limit_gt
    rw [if_neg limit_gt]
    cases goes with
    | on underway =>
        exact ⟨_, _, _, rfl, underway, List.prefix_append _ _, by simp [visited]⟩

theorem visits (obliging : Obliging sink) (underway : Underway log batch) (slots : List Address)
    (state : State) :
    ∃ batch' log' after,
      slots.forM (Traffic.visit sink) (batch, log, state) = .ok () (batch', log', after) ∧
      Follows log slots batch' log' := by
  induction slots generalizing batch log state with
  | nil => exact ⟨batch, log, state, rfl, underway, List.prefix_rfl, by simp⟩
  | cons slot slots ih =>
      obtain ⟨middle, middle_log, middle_state, ended, follows⟩ :=
        obliging.visit underway slot state
      obtain ⟨batch', log', after, rest_ended, rest⟩ := ih follows.underway middle_state
      refine ⟨batch', log', after, ?_, rest.underway,
        follows.log_prefix.trans rest.log_prefix, ?_⟩
      · exact (Action.bind_of_ok ended).trans rest_ended
      · rw [rest.visited_eq, follows.visited_eq, List.append_assoc]
        rfl

theorem release (obliging : Obliging sink) (batch : Batch) (log : Log) (state : State) :
    ∃ after, Traffic.release (noting sink) (batch, log, state) =
      .ok () ({ batch with buffer := .none }, log ++ [.released batch.buffer (some ())], after) := by
  obtain ⟨after, ended⟩ := obliging.releases batch.buffer state
  refine ⟨after, ?_⟩
  simp only [Traffic.release, noting, note, ended]
  rfl

theorem finish (obliging : Obliging sink) (underway : Underway log batch) (state : State) :
    ∃ batch' log' after,
      Batch.finish (noting sink) (batch, log, state) = .ok () (batch', log', after) ∧
      log <+: log' ∧ visited log' = visited log ∧ ∀ event ∈ log', event.answered = true := by
  rw [finish_eq]
  by_cases empty : batch.buffer.slots.isEmpty = true
  · have rest_eq : flushRest (noting sink) (batch, log, state) = .ok () (batch, log, state) :=
      if_pos empty
    obtain ⟨after, ended⟩ := obliging.release batch log state
    refine ⟨_, _, after, (Action.bind_of_ok rest_eq).trans ended, List.prefix_append _ _, ?_, ?_⟩
    · simp [visited]
    · simpa [Event.answered, or_imp, forall_and] using underway.answered
  · obtain ⟨fresh, middle, answered⟩ := obliging.reports batch.buffer state
    have rest_eq : flushRest (noting sink) (batch, log, state) =
        .ok () (renewed batch fresh, log ++ [.reported batch.buffer (some fresh)], middle) := by
      simp only [flushRest, if_neg empty, Batch.flush, noting, note, renewed, answered]
    obtain ⟨after, ended⟩ := obliging.release (renewed batch fresh)
      (log ++ [.reported batch.buffer (some fresh)]) middle
    refine ⟨_, _, after, (Action.bind_of_ok rest_eq).trans ended, ?_, ?_, ?_⟩
    · rw [List.append_assoc]
      exact List.prefix_append _ _
    · simp [visited]
    · simpa [Event.answered, or_imp, forall_and] using underway.answered

end Obliging

/-- What is known while slots are visited: the counts of the batch, and that batches are full. -/
structure Counted (seen : List Address) (batch : Batch) (log : Log) : Prop where
  flushes_eq : batch.flushes = (received log).length
  count_eq : batch.visited = seen.length
  filled : ∃ front current, buffers log = front ++ [current] ∧ Filled (received log) front

/-- What is known in the end: the slots went to the sink, and then the last buffer did. -/
structure Complete (slots : List Address) (log : Log) : Prop where
  handed_eq : handed log = received log
  flatten_eq : (received log).flatten = slots
  sized : Sized (received log) (buffers log)
  released : ∃ earlier buffer, log = earlier ++ [.released buffer (some ())] ∧
    buffer.slots = #[] ∧ ∀ event ∈ earlier, event.isRelease = false

/--
A sink that answers every call receives the slots that were visited, in order, in batches of the
sizes of its buffers, and in the end one empty buffer.  At any time in between the batch knows how
many batches and slots there were.
-/
theorem collect_delivers (obliging : Obliging sink) (slots : List Address) (state : State) :
    ∃ log after,
      (noting sink).collect (slots.forM (visit sink)) ([], state) =
        .ok slots.length (log, after) ∧
      sink.collect (slots.forM (Batch.visit sink)) state = .ok slots.length after ∧
      Complete slots log ∧
      ∃ first started, Batch.start (noting sink) ([], state) = .ok first started ∧
        ∀ seen rest, seen ++ rest = slots → ∃ batch noted left,
          seen.forM (visit sink) (first, started) = .ok () (batch, noted, left) ∧
          noted <+: log ∧ Counted seen batch noted := by
  obtain ⟨buffer, started, acquired, empty⟩ := obliging.acquires state
  have underway := underway_start empty
  have start_eq : Batch.start (noting sink) ([], state) =
      .ok (begun buffer) ([.acquired (some buffer)], started) := by
    simp only [Batch.start, noting, note, acquired]
    rfl
  obtain ⟨batch, noted, left, visits_eq, follows⟩ := obliging.visits underway slots started
  obtain ⟨last, log, after, finish_eq, log_prefix, visited_eq, answered⟩ :=
    obliging.finish follows.underway left
  have noted_visited : visited noted = slots := follows.visited_eq
  have count_eq : batch.visited = slots.length := by
    rw [follows.underway.count_eq, noted_visited]
  have noted_eq : (noting sink).collect (slots.forM (visit sink)) ([], state) =
      .ok slots.length (log, after) := by
    simp only [RootSink.collect, start_eq, visits_eq, finish_eq, count_eq]
  have plain_eq := erases_collect sink (erases_forM sink slots) ([], state)
  rw [noted_eq] at plain_eq
  have closed := closed_finish follows.underway sink left
  rw [finish_eq] at closed
  have delivery : Delivery log := closed.delivery
  have received_eq := delivery.received_eq answered
  have flatten_eq := delivery.flatten_eq
  have sized := delivery.sized
  rw [← received_eq] at flatten_eq sized
  have complete : Complete slots log :=
    ⟨received_eq.symm, flatten_eq.trans (visited_eq.trans noted_visited), sized,
      delivery.released answered⟩
  refine ⟨log, after, noted_eq, plain_eq.symm, complete, _, _, start_eq, ?_⟩
  rintro seen rest rfl
  obtain ⟨middle, middle_log, middle_state, seen_eq, seen_follows⟩ :=
    obliging.visits underway seen started
  obtain ⟨batch', log', left', rest_eq, rest_follows⟩ :=
    obliging.visits seen_follows.underway rest middle_state
  have whole_eq : (seen ++ rest).forM (visit sink)
      (begun buffer, [.acquired (some buffer)], started) =
        .ok () (batch', log', left') := by
    have split_eq : (seen ++ rest).forM (visit sink) =
        (do seen.forM (visit sink); rest.forM (visit sink)) := List.forM_append
    rw [split_eq]
    exact (Action.bind_of_ok seen_eq).trans rest_eq
  rw [visits_eq] at whole_eq
  cases whole_eq
  have seen_received := received_eq_handed seen_follows.underway.answered
  obtain ⟨front, current, buffers_eq, filled, -⟩ := seen_follows.underway.filled
  refine ⟨middle, middle_log, middle_state, seen_eq, rest_follows.log_prefix.trans log_prefix,
    ?_, ?_, front, current, buffers_eq, ?_⟩
  · rw [seen_received]
    exact seen_follows.underway.flushes_eq
  · rw [seen_follows.underway.count_eq, seen_follows.visited_eq]
    rfl
  · rwa [seen_received]

private def slot (number : Word) : Address := ⟨8 * number⟩

/-- Hands its first batch back as it is, and then buffers of no capacity. -/
private def recycling : RootSink Nat where
  acquire served := .ok (.filled 2 []) served
  report batch served := .ok (if served = 0 then batch else .none) (served + 1)

private theorem recycling_obliging : Obliging recycling where
  acquires served := ⟨_, served, rfl, rfl⟩
  reports _ served := ⟨_, served + 1, rfl⟩
  releases _ served := ⟨served, rfl⟩

/-- The slots of a batch that comes back as a buffer are not handed over again. -/
theorem collect_delivers_recycling :
    ∃ log,
      recycling.collect ([slot 1, slot 2, slot 3, slot 4, slot 5].forM (Batch.visit recycling)) 0 =
        .ok 5 3 ∧
      Complete [slot 1, slot 2, slot 3, slot 4, slot 5] log ∧
      received log = [[slot 1, slot 2], [slot 3, slot 4], [slot 5]] := by
  obtain ⟨log, after, noted_eq, -, complete, -⟩ :=
    collect_delivers recycling_obliging [slot 1, slot 2, slot 3, slot 4, slot 5] 0
  have received_eq := congrArg (fun ending => received (Action.left ending).1) noted_eq
  exact ⟨log, rfl, complete, received_eq.symm⟩

end Traffic

end Safepoint.Roots
