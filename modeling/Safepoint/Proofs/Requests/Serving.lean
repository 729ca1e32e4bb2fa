import Safepoint.Proofs.Requests.Queue

/-!
# In the course of a service

A service takes the first request of the queue, parks the mutator, scans it as often as the runtime
reports it, clears the request and frees the mutator.  `Attends` is what holds of the journal from
the first of these steps to the last, however the runtime and the sink go about theirs; it counts
the slots the sink still holds against those it was given.  `serve_of_tidy` is the whole service.
-/

namespace Safepoint.Requests

open Roots (Batch Buffer RootSink)

variable {Record Host Item Part : Type}

namespace Event

/-- Slots that the sink hands out in the event. -/
def acquiredSlots : Event → Nat
  | acquired slots => slots
  | _ => 0

/-- Slots that the sink is given in the event. -/
def reportedSlots : Event → Nat
  | reported slots => slots
  | _ => 0

/-- Whether the runtime is asked for something. -/
def isDemand : Event → Bool
  | parking _ => true
  | freed _ => true
  | _ => false

end Event

/-- The slots that the sink handed out in a course. -/
def acquiredIn (course : List (Moment Record Host)) : Nat :=
  course.foldr (fun moment total => moment.event.acquiredSlots + total) 0

/-- The slots that the sink was given in a course. -/
def reportedIn (course : List (Moment Record Host)) : Nat :=
  course.foldr (fun moment total => moment.event.reportedSlots + total) 0

theorem acquiredIn_cons (moment : Moment Record Host) (course : List (Moment Record Host)) :
    acquiredIn (moment :: course) = moment.event.acquiredSlots + acquiredIn course := rfl

theorem reportedIn_cons (moment : Moment Record Host) (course : List (Moment Record Host)) :
    reportedIn (moment :: course) = moment.event.reportedSlots + reportedIn course := rfl

/-- A moment of a service of the mutator, which waits until it is freed. -/
def Moment.Fits (mutator : MutatorId) (moment : Moment Record Host) : Prop :=
  match moment.event with
  | .look => True
  | .freed _ => moment.status mutator = .inactive
  | .parking _ | .acquired _ | .reported _ => moment.status mutator = .active

/-- What the journal says of a service: what was asked, and the balance of slots. -/
structure Course (mutator : MutatorId) (demanded : List Event) (held visited : Nat)
    (course : List (Moment Record Host)) : Prop where
  fits : ∀ moment ∈ course, moment.Fits mutator
  demanded_eq : (course.map Moment.event).filter Event.isDemand = demanded
  /-- Visited slots join those in the first buffer, and are given to the sink or still held. -/
  balance : reportedIn course + held = acquiredIn course + visited

theorem Course.cons {mutator : MutatorId} {demanded : List Event}
    {held held' visited visited' : Nat} {course : List (Moment Record Host)}
    {moment : Moment Record Host}
    (kept : Course mutator demanded held visited course) (fits : moment.Fits mutator)
    (balance : moment.event.reportedSlots + held' + visited =
      moment.event.acquiredSlots + held + visited') :
    Course mutator ([moment.event].filter Event.isDemand ++ demanded) held' visited'
      (moment :: course) where
  fits := List.forall_mem_cons.mpr ⟨fits, kept.fits⟩
  demanded_eq := by
    rw [List.map_cons, ← kept.demanded_eq, ← List.filter_append, List.singleton_append]
  balance := by
    have balance_before := kept.balance
    rw [reportedIn_cons, acquiredIn_cons]
    omega

/-- A service of `mutator` is under way since `before`. -/
structure Attends (mutator : Mutator) (before : World Record Host) (parked : List Mutator)
    (demanded : List Event) (held visited : Nat) (world : World Record Host) : Prop where
  tidy : Tidy [mutator] parked world
  services_eq : world.host.services = before.host.services
  course : ∃ course, world.host.log = course ++ before.host.log ∧
    Course mutator.id demanded held visited course

/-- The mutator is parked for its service. -/
abbrev Parked (mutator : Mutator) (before : World Record Host) (held visited : Nat)
    (world : World Record Host) : Prop :=
  Attends mutator before [mutator] [.parking mutator] held visited world

section Attends

variable {mutator : Mutator} {before world after : World Record Host} {parked : List Mutator}
variable {demanded : List Event} {held held' visited visited' : Nat}

namespace Attends

theorem active (attends : Attends mutator before [mutator] demanded held visited world) :
    world.status mutator.id = .active :=
  (attends.tidy.active_iff mutator.id).mpr (by simp)

theorem note (attends : Attends mutator before parked demanded held visited world) {event : Event}
    (fits : (world.moment event).Fits mutator.id)
    (balance : event.reportedSlots + held' + visited = event.acquiredSlots + held + visited') :
    Attends mutator before parked ([event].filter Event.isDemand ++ demanded) held' visited'
      (world.note event) := by
  obtain ⟨course, log_eq, kept⟩ := attends.course
  refine ⟨attends.tidy.note event, attends.services_eq, world.moment event :: course, ?_,
    kept.cons fits balance⟩
  rw [List.cons_append, ← log_eq]
  rfl

theorem hold (attends : Attends mutator before parked demanded held visited world) :
    Attends mutator before parked demanded (held + 1) (visited + 1) world := by
  obtain ⟨course, log_eq, kept⟩ := attends.course
  have balance := kept.balance
  exact ⟨attends.tidy, attends.services_eq, course, log_eq, kept.fits, kept.demanded_eq, by omega⟩

theorem aside (attends : Attends mutator before parked demanded held visited world)
    (aside : Aside world after) : Attends mutator before parked demanded held visited after := by
  have tidy := attends.tidy.aside aside
  obtain ⟨course, log_eq, kept⟩ := attends.course
  obtain ⟨services_eq, same | looked⟩ := aside.journal_cases
  · exact ⟨tidy, services_eq.trans attends.services_eq, course, same.trans log_eq, kept⟩
  · have fits : (world.moment .look).Fits mutator.id := trivial
    refine ⟨tidy, services_eq.trans attends.services_eq, world.moment .look :: course, ?_,
      kept.cons fits rfl⟩
    rw [looked, log_eq, List.cons_append]

theorem meanwhile (attends : Attends mutator before parked demanded held visited world)
    (meanwhile : Meanwhile world after) :
    Attends mutator before parked demanded held visited after := by
  induction meanwhile with
  | refl => exact attends
  | tail _ aside ih => exact ih.aside aside

/-- The runtime is asked to park the mutator that was taken from the queue. -/
theorem start (tidy : Tidy [mutator] [mutator] world)
    (host_eq : world.host = before.host) :
    Parked mutator before 0 0 (world.note (.parking mutator)) := by
  have empty : Attends mutator before [mutator] [] 0 0 world :=
    ⟨tidy, by rw [host_eq], [], by rw [host_eq]; rfl, by simp, rfl, rfl⟩
  have fits : (world.moment (.parking mutator)).Fits mutator.id := empty.active
  exact empty.note fits rfl

/-- The request is cleared, and the runtime is asked to free the mutator. -/
theorem free (parked : Parked mutator before 0 visited world) :
    Attends mutator before [] [.freed mutator, .parking mutator] 0 visited
      (World.note (.freed mutator) (world.clearRequest mutator)) := by
  obtain ⟨course, log_eq, kept⟩ := parked.course
  have fits : (World.moment (.freed mutator) (world.clearRequest mutator)).Fits
      mutator.id :=
    world.status_clearRequest_self mutator
  refine ⟨parked.tidy.free, parked.services_eq, _ :: course, ?_, kept.cons fits rfl⟩
  rw [List.cons_append, ← log_eq]
  rfl

end Attends

end Attends

/-- A report comes to its end and keeps whatever its listener and other threads keep. -/
theorem GentleReport.run_beside {report : Report (World Record Host) Item}
    (gentle : GentleReport report) {listen : Item → Action (Part × World Record Host) Unit}
    {motive : Part → World Record Host → Prop}
    (stable : ∀ {part world after}, Meanwhile world after → motive part world → motive part after)
    (hears : ∀ item {part world}, motive part world →
      ∃ part' after, listen item (part, world) = .ok () (part', after) ∧ motive part' after)
    {part : Part} {world : World Record Host} (holds : motive part world) :
    ∃ part' after, report.beside.run listen (part, world) = .ok () (part', after) ∧
      motive part' after := by
  induction gentle generalizing part world with
  | done => exact ⟨part, world, rfl, holds⟩
  | @act step next step_gentle _ ih =>
      obtain ⟨_, middle, ended, meanwhile⟩ := step_gentle world
      obtain ⟨part', after, rest, kept⟩ := ih middle (stable meanwhile holds)
      refine ⟨part', after, ?_, kept⟩
      simp only [Report.beside, Report.run, Action.beside, Action.mapState, ended]
      exact rest
  | @item item next _ ih =>
      obtain ⟨heard, middle, ended, kept_middle⟩ := hears item holds
      obtain ⟨part', after, rest, kept⟩ := ih middle kept_middle
      refine ⟨part', after, ?_, kept⟩
      simp only [Report.beside, Report.run, ended]
      exact rest

section Scan

variable {mutator : Mutator} {before world : World Record Host} {visited : Nat}
variable {collector : Collector Record (Watched Record Host)} {sink : RootSink (World Record Host)}

/-- The slots in the buffer of a batch are held; those visited in it count for the service. -/
def Scanned (mutator : Mutator) (before : World Record Host) (visited : Nat) (batch : Batch)
    (world : World Record Host) : Prop :=
  Parked mutator before batch.buffer.slots.size (visited + batch.visited) world

theorem start_parked (cooperative : Cooperative collector sink)
    (parked : Parked mutator before 0 visited world) :
    ∃ batch after, Batch.start (watchSink sink) world = .ok batch after ∧
      Scanned mutator before visited batch after := by
  obtain ⟨buffer, middle, ended, meanwhile⟩ := cooperative.acquire world
  have attends := parked.meanwhile meanwhile
  have fits : (middle.moment (.acquired buffer.slots.size)).Fits mutator.id := attends.active
  have acquired : (watchSink sink).acquire world =
      .ok buffer (middle.note (.acquired buffer.slots.size)) :=
    Action.bind_of_ok ended
  refine ⟨{ buffer := buffer, limit := buffer.batchSize }, _, ?_, attends.note fits ?_⟩
  · simp only [Batch.start, acquired]
  · simp only [Event.reportedSlots, Event.acquiredSlots]
    omega

theorem flush_parked (cooperative : Cooperative collector sink) {batch : Batch}
    (scanned : Scanned mutator before visited batch world) :
    ∃ flushed after, Batch.flush (watchSink sink) (batch, world) = .ok () (flushed, after) ∧
      Parked mutator before 0 (visited + flushed.visited) after ∧
      flushed.buffer.slots.size = 0 ∧ flushed.visited = batch.visited := by
  have fits : (world.moment (.reported batch.buffer.slots.size)).Fits mutator.id := scanned.active
  obtain ⟨fresh, after, ended, meanwhile⟩ :=
    cooperative.report batch.buffer (world.note (.reported batch.buffer.slots.size))
  have reported : (watchSink sink).report batch.buffer world = .ok fresh after := ended
  let flushed : Batch :=
    { batch with
      buffer := fresh.cleared
      limit := fresh.batchSize
      flushes := batch.flushes + 1 }
  refine ⟨flushed, after, by simp only [Batch.flush, reported, flushed], ?_, rfl, rfl⟩
  refine (Attends.note scanned fits ?_).meanwhile meanwhile
  simp only [Event.reportedSlots, Event.acquiredSlots, flushed]
  omega

theorem visit_parked (cooperative : Cooperative collector sink) (slot : Address) {batch : Batch}
    (scanned : Scanned mutator before visited batch world) :
    ∃ grown after, Batch.visit (watchSink sink) slot (batch, world) = .ok () (grown, after) ∧
      Scanned mutator before visited grown after := by
  have pushed : Scanned mutator before visited
      { batch with buffer := batch.buffer.push slot, visited := batch.visited + 1 } world := by
    unfold Scanned Buffer.push
    rw [Array.size_push]
    exact scanned.hold
  unfold Batch.visit
  dsimp only
  split
  · obtain ⟨flushed, after, ended, parked, empty, -⟩ := flush_parked cooperative pushed
    refine ⟨flushed, after, ended, ?_⟩
    rw [Scanned, empty]
    exact parked
  · exact ⟨_, world, rfl, pushed⟩

theorem finish_parked (cooperative : Cooperative collector sink) {batch : Batch}
    (scanned : Scanned mutator before visited batch world) :
    ∃ finished after, Batch.finish (watchSink sink) (batch, world) = .ok () (finished, after) ∧
      Parked mutator before 0 (visited + batch.visited) after := by
  have flushes : ∃ flushed middle,
      (if batch.buffer.slots.isEmpty then .ok () (batch, world)
        else Batch.flush (watchSink sink) (batch, world)) = .ok () (flushed, middle) ∧
      Parked mutator before 0 (visited + batch.visited) middle := by
    by_cases empty : batch.buffer.slots.isEmpty
    · rw [if_pos empty]
      rw [Scanned, Array.isEmpty_iff_size_eq_zero.mp empty] at scanned
      exact ⟨batch, world, rfl, scanned⟩
    · rw [if_neg empty]
      obtain ⟨flushed, middle, ended, parked, -, visited_eq⟩ := flush_parked cooperative scanned
      exact ⟨flushed, middle, ended, visited_eq ▸ parked⟩
  obtain ⟨flushed, middle, ended, parked⟩ := flushes
  obtain ⟨_, after, released, meanwhile⟩ := cooperative.release flushed.buffer middle
  have released_eq : (watchSink sink).release flushed.buffer middle = .ok () after := released
  refine ⟨{ flushed with buffer := .none }, after, ?_, parked.meanwhile meanwhile⟩
  simp only [Batch.finish, ended, released_eq]

/-- A visit of roots comes to its end and answers how many slots it visited. -/
theorem collect_parked (cooperative : Cooperative collector sink)
    {visits : Action (Batch × World Record Host) Unit}
    (visits_end : ∀ {batch world}, Scanned mutator before visited batch world →
      ∃ batch' after, visits (batch, world) = .ok () (batch', after) ∧
        Scanned mutator before visited batch' after)
    (parked : Parked mutator before 0 visited world) :
    ∃ count after, (watchSink sink).collect visits world = .ok count after ∧
      Parked mutator before 0 (visited + count) after := by
  obtain ⟨batch, started, start_eq, scanned⟩ := start_parked cooperative parked
  obtain ⟨batch', middle, visits_eq, scanned'⟩ := visits_end scanned
  obtain ⟨finished, after, finish_eq, parked_after⟩ := finish_parked cooperative scanned'
  refine ⟨batch'.visited, after, ?_, parked_after⟩
  simp only [RootSink.collect, start_eq, visits_eq, finish_eq]

theorem scanRoots_parked (cooperative : Cooperative collector sink) (item : Mutator)
    (parked : Parked mutator before 0 visited world) :
    ∃ count after,
      (watch collector).scanRoots item (watchSink sink) world = .ok count after ∧
        Parked mutator before 0 (visited + count) after := by
  refine collect_parked cooperative (fun scanned => ?_) parked
  exact (cooperative.scanMutator item).run_beside (motive := Scanned mutator before visited)
    (fun meanwhile scanned => Attends.meanwhile scanned meanwhile)
    (fun slot _ _ scanned => visit_parked cooperative slot scanned) scanned

end Scan

section Serve

variable {world : World Record Host} {first : Mutator} {rest : List Mutator}
variable {collector : Collector Record (Watched Record Host)} {sink : RootSink (World Record Host)}

/-- What a service does with each mutator that the runtime reports. -/
def scanEach (collector : Collector Record (Watched Record Host))
    (sink : RootSink (World Record Host)) (parked : Mutator) :
    Action (Nat × World Record Host) Unit := do
  let found ← Action.beside ((watch collector).scanRoots parked (watchSink sink))
  Action.modifyLocal (· + found)

theorem suspendOne_parked (cooperative : Cooperative collector sink) {before : World Record Host}
    (parked : Parked first before 0 0 world) :
    ∃ roots after,
      (collector.runtime.suspendOne first).beside.run (scanEach collector sink) (0, world) =
        .ok () (roots, after) ∧ Parked first before 0 roots after := by
  refine (cooperative.suspendOne first).run_beside
    (fun meanwhile parked => parked.meanwhile meanwhile) (fun item roots world parked => ?_) parked
  obtain ⟨count, after, ended, parked_after⟩ := scanRoots_parked cooperative item parked
  refine ⟨roots + count, after, ?_, parked_after⟩
  have found : Action.beside ((watch collector).scanRoots item (watchSink sink)) (roots, world) =
      .ok count (roots, after) := by
    simp only [Action.beside, Action.mapState, ended]
  exact Action.bind_of_ok found

/-- The part of a service before the request is cleared: the mutator is parked and scanned. -/
def parkAndScan (collector : Collector Record (Watched Record Host))
    (sink : RootSink (World Record Host)) (mutator : Mutator) :
    Action (World Record Host) (Unit × Nat) :=
  Action.withLocal 0
    (((watch collector).runtime.suspendOne mutator).beside.run (scanEach collector sink))

theorem collectOne_bind (collector : Collector Record (Watched Record Host))
    (sink : RootSink (World Record Host)) {mutator : Mutator}
    (active : world.status mutator.id = .active) :
    (watch collector).collectOne mutator (watchSink sink) world =
      (do
        let ((), roots) ← parkAndScan collector sink mutator
        modify (Process.clearRequest mutator)
        (watch collector).runtime.resumeOne mutator
        return roots : Action (World Record Host) Nat) world := by
  unfold Collector.collectOne
  refine (Action.bind_of_ok rfl).trans ?_
  rw [if_pos active]
  rfl

theorem collectOne_eq {mutator : Mutator} {parked after : World Record Host} {roots : Nat}
    (active : world.status mutator.id = .active)
    (parked_eq : (collector.runtime.suspendOne mutator).beside.run (scanEach collector sink)
      (0, world.note (.parking mutator)) = .ok () (roots, parked))
    (resumed_eq : collector.runtime.resumeOne mutator
      (World.note (.freed mutator) (parked.clearRequest mutator)) = .ok () after) :
    (watch collector).collectOne mutator (watchSink sink) world = .ok roots after := by
  have suspended : parkAndScan collector sink mutator world = .ok ((), roots) parked := by
    have asked : ((watch collector).runtime.suspendOne mutator).beside.run (scanEach collector sink)
        (0, world) = .ok () (roots, parked) := parked_eq
    simp only [parkAndScan, Action.withLocal, asked]
  rw [collectOne_bind collector sink active]
  refine (Action.bind_of_ok suspended).trans ((Action.bind_of_ok rfl).trans ?_)
  exact Action.bind_of_ok resumed_eq

theorem serve_of_cons (requests_eq : world.requests = first :: rest) :
    (watch collector).serve (watchSink sink) world =
      (do
        let roots ← (watch collector).collectOne first (watchSink sink)
        return some (first, roots)) { world with requests := rest } := by
  have next_eq : Collector.nextRequest world =
      .ok (some first) { world with requests := rest } := by
    simp only [Collector.nextRequest, requests_eq]
  exact Action.bind_of_ok next_eq

theorem leave_serve_of_nil (collector : Collector Record (Watched Record Host))
    (sink : RootSink (World Record Host)) (requests_eq : world.requests = []) :
    (Turn.serve collector sink).leave world = world := by
  have next_eq : Collector.nextRequest world = .ok none world := by
    simp only [Collector.nextRequest, requests_eq]
  have nothing : (watch collector).serve (watchSink sink) world = .ok none world :=
    Action.bind_of_ok next_eq
  simp only [Turn.leave, nothing]

/-- The first request of the queue is served, whatever the collaborators do. -/
theorem serve_of_tidy (cooperative : Cooperative collector sink) (tidy : Tidy [] [] world)
    (requests_eq : world.requests = first :: rest) :
    ∃ roots after,
      (watch collector).serve (watchSink sink) world = .ok (some (first, roots)) after ∧
        Attends first world [] [.freed first, .parking first] 0 roots after := by
  let taken : World Record Host := { world with requests := rest }
  have taken_tidy : Tidy [first] [first] taken := by
    refine .of_waiting (tidy.waiting.take requests_eq) ?_
      (isChain_of_rise tidy.chain rfl fun _ active => active)
    rw [tidy.accepted_eq, requests_eq]
    rfl
  have asked : Parked first world 0 0 (World.note (.parking first) taken) :=
    .start taken_tidy rfl
  obtain ⟨roots, parked, parked_eq, attends⟩ := suspendOne_parked cooperative asked
  obtain ⟨_, after, resumed_eq, meanwhile⟩ := cooperative.resumeOne first
    (World.note (.freed first) (parked.clearRequest first))
  refine ⟨roots, after, ?_, attends.free.meanwhile meanwhile⟩
  have active : taken.status first.id = .active := (taken_tidy.active_iff first.id).mpr (by simp)
  rw [serve_of_cons requests_eq]
  exact Action.bind_of_ok (collectOne_eq active parked_eq resumed_eq)

end Serve

end Safepoint.Requests
