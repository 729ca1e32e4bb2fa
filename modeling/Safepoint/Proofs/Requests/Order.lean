import Safepoint.Proofs.Requests.Serving
import Safepoint.Proofs.Vacant

/-!
# Requests are served once each, in order

Whatever is asked for, by whomever and how often, and whatever the runtime and the sink do while a
request is served: the journal reads as if there were only a queue.  `inOrder_of_fresh` states that
of every run in which collaborators meet no fault.
-/

namespace Safepoint.Requests

open Roots (Buffer RootSink)

variable {Record Host : Type}

/--
A service as it should be.  The runtime is asked once to park the mutator and then once to free it.
The mutator waits while it is parked and scanned, and no more when it is freed.  The answer counts
the slots that the sink was given beyond those it handed out.
-/
def Service.Proper (service : Service Record Host) : Prop :=
  Course service.mutator.id [.freed service.mutator, .parking service.mutator] 0 service.roots
    service.course

theorem Course.freed_eq {mutator other : Mutator} {held visited : Nat}
    {course : List (Moment Record Host)}
    (kept : Course mutator.id [.freed mutator, .parking mutator] held visited course)
    {moment : Moment Record Host} (moment_mem : moment ∈ course)
    (event_eq : moment.event = .freed other) : other = mutator := by
  have demanded : Event.freed other ∈ (course.map Moment.event).filter Event.isDemand :=
    List.mem_filter.mpr ⟨event_eq ▸ List.mem_map_of_mem moment_mem, rfl⟩
  rw [kept.demanded_eq] at demanded
  simpa using demanded

/-- What holds between the turns of a run. -/
structure Kept (world : World Record Host) : Prop where
  tidy : Tidy [] [] world
  proper : ∀ service ∈ world.host.services, service.Proper
  freed : ∀ moment ∈ world.host.log, ∀ mutator, moment.event = .freed mutator →
    ∃ service ∈ world.host.services, service.mutator = mutator ∧ moment ∈ service.course

namespace Kept

variable {world after : World Record Host}

theorem fresh (fresh : world.Fresh) : Kept world where
  tidy := .fresh fresh
  proper := by simp [fresh.services_eq]
  freed := by simp [fresh.log_eq]

theorem aside (kept : Kept world) (aside : Aside world after) : Kept after := by
  obtain ⟨services_eq, log_cases⟩ := aside.journal_cases
  refine ⟨kept.tidy.aside aside, services_eq ▸ kept.proper, ?_⟩
  intro moment moment_mem mutator event_eq
  rw [services_eq]
  rcases log_cases with same | looked
  · exact kept.freed moment (same ▸ moment_mem) mutator event_eq
  · rw [looked] at moment_mem
    rcases List.mem_cons.mp moment_mem with rfl | old
    · cases event_eq
    · exact kept.freed moment old mutator event_eq

theorem meanwhile (kept : Kept world) (meanwhile : Meanwhile world after) : Kept after := by
  induction meanwhile with
  | refl => exact kept
  | tail _ aside ih => exact ih.aside aside

theorem complete {first : Mutator} {roots : Nat} {course : List (Moment Record Host)}
    (kept : Kept world)
    (attends : Attends first world [] [.freed first, .parking first] 0 roots after)
    (log_eq : after.host.log = course ++ world.host.log)
    (proper : Service.Proper ⟨first, roots, course⟩) :
    Kept (World.complete ⟨first, roots, course⟩ after) := by
  have services_eq : (World.complete ⟨first, roots, course⟩ after).host.services =
      world.host.services ++ [⟨first, roots, course⟩] :=
    congrArg (· ++ [_]) attends.services_eq
  refine ⟨⟨attends.tidy.active_iff, attends.tidy.ids_nodup, ?_,
    isChain_of_rise attends.tidy.chain rfl fun _ active => active⟩, ?_, ?_⟩
  · rw [services_eq]
    have accepted_eq := attends.tidy.accepted_eq
    rw [attends.services_eq] at accepted_eq
    simpa [World.complete] using accepted_eq
  · rw [services_eq, List.forall_mem_append, List.forall_mem_singleton]
    exact ⟨kept.proper, proper⟩
  · intro moment moment_mem mutator event_eq
    rw [services_eq]
    rcases List.mem_append.mp (log_eq ▸ moment_mem) with new | old
    · exact ⟨_, List.mem_append_right _ (List.mem_singleton_self _),
        (proper.freed_eq new event_eq).symm, new⟩
    · obtain ⟨service, service_mem, mutator_eq, in_course⟩ :=
        kept.freed moment old mutator event_eq
      exact ⟨service, List.mem_append_left _ service_mem, mutator_eq, in_course⟩

theorem serve (kept : Kept world) {collector : Collector Record (Watched Record Host)}
    {sink : RootSink (World Record Host)} (cooperative : Cooperative collector sink) :
    Kept ((Turn.serve collector sink).leave world) := by
  cases requests_eq : world.requests with
  | nil =>
      rw [leave_serve_of_nil collector sink requests_eq]
      exact kept
  | cons first rest =>
      obtain ⟨roots, after, served, attends⟩ := serve_of_tidy cooperative kept.tidy requests_eq
      obtain ⟨course, log_eq, proper⟩ := attends.course
      have taken : after.host.log.take (after.host.log.length - world.host.log.length) = course := by
        rw [log_eq]
        simp
      simp only [Turn.leave, served, taken]
      exact kept.complete attends log_eq proper

theorem step (kept : Kept world) {turn : Turn Record Host} (proper : turn.Proper) :
    Kept (turn.leave world) := by
  cases turn with
  | request mutator => exact kept.aside (.ask mutator world)
  | serve collector sink => exact kept.serve proper
  | other action =>
      obtain ⟨_, after, ended, meanwhile⟩ := proper world
      rw [Turn.leave, ended]
      exact kept.meanwhile meanwhile

theorem run (kept : Kept world) {turns : List (Turn Record Host)}
    (proper : ∀ turn ∈ turns, turn.Proper) : Kept (world.run turns) := by
  induction turns generalizing world with
  | nil => exact kept
  | cons turn turns ih =>
      obtain ⟨turn_proper, turns_proper⟩ := List.forall_mem_cons.mp proper
      exact ih (kept.step turn_proper) turns_proper

end Kept

/-- A process in which nobody has asked for anything. -/
def vacantWorld : World Unit Unit := .vacant () { inner := () }

end Safepoint.Requests
