import Mathlib.Data.List.Chain
import Safepoint.Proofs.Requests.Journal

/-!
# Who waits for a collection

A mutator waits from the moment its request is accepted until it is freed, first in the queue and
then parked.  `Tidy` states that of every moment, also in the course of a service: who waits is in
the queue or parked, in the order in which requests were accepted, and nobody stops waiting but at
the moment of being freed.  Whatever other threads do meanwhile keeps it.
-/

namespace Safepoint.Requests

variable {Record Host : Type}

/-- From one moment to the next a mutator stops waiting only if it is freed. -/
def Follows (later earlier : Moment Record Host) : Prop :=
  ∀ id, earlier.status id = .active → later.status id ≠ .active →
    ∃ mutator, later.event = .freed mutator ∧ mutator.id = id

section Chain

variable {world after : World Record Host}

theorem moments_isChain_iff :
    world.moments.IsChain Follows ↔
      (∀ earlier ∈ world.host.log.head?, Follows (world.moment .look) earlier) ∧
        world.host.log.IsChain Follows :=
  List.isChain_cons

/-- As nobody is freed by a look, whoever waited at the last moment still waits. -/
theorem status_of_isChain (chain : world.moments.IsChain Follows) {earlier : Moment Record Host}
    (earlier_mem : earlier ∈ world.host.log.head?) {id : MutatorId}
    (active : earlier.status id = .active) : world.status id = .active := by
  by_contra dropped
  obtain ⟨mutator, event_eq, -⟩ :=
    (moments_isChain_iff.mp chain).1 earlier earlier_mem id active dropped
  cases event_eq

theorem isChain_of_rise (chain : world.moments.IsChain Follows)
    (log_eq : after.host.log = world.host.log)
    (rise : ∀ id, world.status id = .active → after.status id = .active) :
    after.moments.IsChain Follows := by
  rw [moments_isChain_iff, log_eq]
  refine ⟨fun earlier earlier_mem id active dropped => ?_, (moments_isChain_iff.mp chain).2⟩
  exact absurd (rise id (status_of_isChain chain earlier_mem active)) dropped

/-- A moment may be noted in which nobody stops waiting but who is freed in it. -/
theorem isChain_noted {event : Event} (chain : world.moments.IsChain Follows)
    (log_eq : after.host.log = after.moment event :: world.host.log)
    (kept : ∀ id, world.status id = .active → after.status id ≠ .active →
      ∃ mutator, event = .freed mutator ∧ mutator.id = id) :
    after.moments.IsChain Follows := by
  rw [World.moments, log_eq]
  refine List.isChain_cons_cons.mpr ⟨fun id active dropped => absurd active dropped, ?_⟩
  refine List.isChain_cons.mpr ⟨fun earlier earlier_mem id active dropped => ?_,
    (moments_isChain_iff.mp chain).2⟩
  exact kept id (status_of_isChain chain earlier_mem active) dropped

end Chain

/-- What happens beside a collection adds a look to the journal at most. -/
theorem Aside.journal_cases {before after : World Record Host} (aside : Aside before after) :
    after.host.services = before.host.services ∧
      (after.host.log = before.host.log ∨
        after.host.log = before.moment .look :: before.host.log) := by
  cases aside with
  | apart apart =>
      obtain ⟨inner, host_eq⟩ := apart.host_eq
      rw [host_eq]
      exact ⟨rfl, Or.inl rfl⟩
  | look => exact ⟨rfl, Or.inr rfl⟩
  | ask mutator =>
      unfold Requests.ask Collector.request
      by_cases idle : before.status mutator.id = .inactive
      · simp only [idle, if_true]
        exact ⟨rfl, Or.inl rfl⟩
      · simp only [idle, if_false]
        exact ⟨rfl, Or.inl rfl⟩

theorem status_setStatus_active_iff {process : Process Record Host} {mutator other : MutatorId} :
    (process.setStatus mutator .active).status other = .active ↔
      process.status other = .active ∨ other = mutator := by
  by_cases same : other = mutator
  · simp [same]
  · rw [Process.status_setStatus_of_ne same]
    simp [same]

/-- Whoever waits is in the queue or among `parked`, and nobody is there twice. -/
structure Waiting (parked : List Mutator) (world : World Record Host) : Prop where
  active_iff : ∀ id, world.status id = .active ↔ id ∈ (parked ++ world.requests).map Mutator.id
  ids_nodup : ((parked ++ world.requests).map Mutator.id).Nodup

namespace Waiting

variable {parked : List Mutator} {world after : World Record Host} {mutator : Mutator}

theorem fresh (fresh : world.Fresh) : Waiting [] world where
  active_iff id := by simp [fresh.inactive id, fresh.requests_eq]
  ids_nodup := by simp [fresh.requests_eq]

theorem of_apart (waiting : Waiting parked world) (apart : Apart world after) :
    Waiting parked after where
  active_iff := by
    rw [apart.status_eq, apart.requests_eq]
    exact waiting.active_iff
  ids_nodup := by
    rw [apart.requests_eq]
    exact waiting.ids_nodup

/-- A request is accepted unless the mutator waits already, and then nothing changes. -/
theorem request_eq (waiting : Waiting parked world) (mutator : Mutator) :
    Collector.request mutator world =
      if mutator.id ∈ (parked ++ world.requests).map Mutator.id then
        .error (.alreadyRequested mutator.id) world
      else
        .ok () { world.setStatus mutator.id .active with requests := world.requests ++ [mutator] } := by
  have active_iff := waiting.active_iff mutator.id
  unfold Collector.request
  cases status_eq : world.status mutator.id with
  | inactive =>
      rw [status_eq] at active_iff
      rw [if_pos rfl, if_neg (mt active_iff.mpr (by decide))]
      rfl
  | active => rw [if_neg (by decide), if_pos (active_iff.mp status_eq)]

theorem ask (waiting : Waiting parked world) (mutator : Mutator) :
    Waiting parked (Action.left (ask mutator world)) := by
  unfold Requests.ask
  rw [waiting.request_eq mutator]
  by_cases waits : mutator.id ∈ (parked ++ world.requests).map Mutator.id
  · rw [if_pos waits]
    exact waiting
  · rw [if_neg waits]
    have ids_eq : (parked ++ (world.requests ++ [mutator])).map Mutator.id =
        (parked ++ world.requests).map Mutator.id ++ [mutator.id] := by
      simp
    refine ⟨fun id => ?_, ?_⟩
    · change (world.setStatus mutator.id .active).status id = .active ↔
        id ∈ (parked ++ (world.requests ++ [mutator])).map Mutator.id
      rw [ids_eq, List.mem_append, List.mem_singleton, ← waiting.active_iff id]
      exact status_setStatus_active_iff
    · change ((parked ++ (world.requests ++ [mutator])).map Mutator.id).Nodup
      rw [ids_eq, List.nodup_append]
      refine ⟨waiting.ids_nodup, by simp, fun id member other other_mem same => ?_⟩
      rw [List.mem_singleton.mp other_mem] at same
      exact waits (same ▸ member)

theorem aside (waiting : Waiting parked world) (aside : Aside world after) :
    Waiting parked after := by
  cases aside with
  | apart apart => exact waiting.of_apart apart
  | look => exact ⟨waiting.active_iff, waiting.ids_nodup⟩
  | ask mutator => exact waiting.ask mutator

theorem take {rest : List Mutator} (waiting : Waiting parked world)
    (requests_eq : world.requests = mutator :: rest) :
    Waiting (mutator :: parked) { world with requests := rest } := by
  have moved : (parked ++ world.requests).Perm (mutator :: parked ++ rest) := by
    rw [requests_eq]
    exact List.perm_middle
  refine ⟨fun id => (waiting.active_iff id).trans (moved.map Mutator.id).mem_iff, ?_⟩
  exact (moved.map Mutator.id).nodup_iff.mp waiting.ids_nodup

/-- Whoever waits beside the queue may stop waiting. -/
theorem clear (waiting : Waiting (mutator :: parked) world) :
    Waiting parked (world.clearRequest mutator) := by
  obtain ⟨alone, ids_nodup⟩ := List.nodup_cons.mp waiting.ids_nodup
  refine ⟨fun id => ?_, ids_nodup⟩
  change _ ↔ id ∈ (parked ++ world.requests).map Mutator.id
  by_cases id_eq : id = mutator.id
  · rw [id_eq, Process.status_clearRequest_self]
    exact ⟨nofun, fun member => absurd member alone⟩
  · rw [Process.status_clearRequest_of_ne id_eq, waiting.active_iff id]
    simp [id_eq]

end Waiting

/--
Requests and journal at any moment: `taken` was taken from the queue and is not noted as served yet,
and `parked` waits beside the mutators in the queue.
-/
structure Tidy (taken parked : List Mutator) (world : World Record Host) : Prop where
  active_iff : ∀ id, world.status id = .active ↔ id ∈ (parked ++ world.requests).map Mutator.id
  ids_nodup : ((parked ++ world.requests).map Mutator.id).Nodup
  accepted_eq : world.host.accepted =
    world.host.services.map Service.mutator ++ (taken ++ world.requests)
  chain : world.moments.IsChain Follows

namespace Tidy

variable {taken parked : List Mutator} {world after : World Record Host}

theorem waiting (tidy : Tidy taken parked world) : Waiting parked world :=
  ⟨tidy.active_iff, tidy.ids_nodup⟩

theorem of_waiting (waiting : Waiting parked world)
    (accepted_eq : world.host.accepted =
      world.host.services.map Service.mutator ++ (taken ++ world.requests))
    (chain : world.moments.IsChain Follows) : Tidy taken parked world :=
  ⟨waiting.active_iff, waiting.ids_nodup, accepted_eq, chain⟩

theorem fresh (fresh : world.Fresh) : Tidy [] [] world := by
  refine .of_waiting (.fresh fresh) ?_ ?_
  · simp [fresh.accepted_eq, fresh.services_eq, fresh.requests_eq]
  · rw [World.moments, fresh.log_eq]
    exact .singleton _

theorem of_apart (tidy : Tidy taken parked world) (apart : Apart world after) :
    Tidy taken parked after := by
  obtain ⟨inner, host_eq⟩ := apart.host_eq
  refine .of_waiting (tidy.waiting.of_apart apart) ?_
    (isChain_of_rise tidy.chain (by rw [host_eq]) ?_)
  · rw [host_eq, apart.requests_eq]
    exact tidy.accepted_eq
  · rw [apart.status_eq]
    exact fun _ active => active

theorem note (tidy : Tidy taken parked world) (event : Event) :
    Tidy taken parked (world.note event) :=
  ⟨tidy.active_iff, tidy.ids_nodup, tidy.accepted_eq,
    isChain_noted tidy.chain rfl fun _ active dropped => absurd active dropped⟩

theorem request_eq (tidy : Tidy taken parked world) (mutator : Mutator) :
    Collector.request mutator world =
      if mutator.id ∈ (parked ++ world.requests).map Mutator.id then
        .error (.alreadyRequested mutator.id) world
      else
        .ok () { world.setStatus mutator.id .active with requests := world.requests ++ [mutator] } :=
  tidy.waiting.request_eq mutator

theorem ask (tidy : Tidy taken parked world) (mutator : Mutator) :
    Tidy taken parked (Action.left (ask mutator world)) := by
  have waiting := tidy.waiting.ask mutator
  unfold Requests.ask at waiting ⊢
  rw [tidy.request_eq mutator] at waiting ⊢
  by_cases waits : mutator.id ∈ (parked ++ world.requests).map Mutator.id
  · rw [if_pos waits]
    exact tidy
  · rw [if_neg waits] at waiting ⊢
    refine .of_waiting waiting ?_ (isChain_of_rise tidy.chain rfl fun id active => ?_)
    · change world.host.accepted ++ [mutator] =
        world.host.services.map Service.mutator ++ (taken ++ (world.requests ++ [mutator]))
      rw [tidy.accepted_eq]
      simp
    · exact status_setStatus_active_iff.mpr (Or.inl active)

theorem aside (tidy : Tidy taken parked world) (aside : Aside world after) :
    Tidy taken parked after := by
  cases aside with
  | apart apart => exact tidy.of_apart apart
  | look => exact tidy.note .look
  | ask mutator => exact tidy.ask mutator

theorem meanwhile (tidy : Tidy taken parked world) (meanwhile : Meanwhile world after) :
    Tidy taken parked after := by
  induction meanwhile with
  | refl => exact tidy
  | tail _ aside ih => exact ih.aside aside

theorem free {mutator : Mutator} (tidy : Tidy taken [mutator] world) :
    Tidy taken [] (World.note (.freed mutator) (world.clearRequest mutator)) := by
  have waiting := tidy.waiting.clear
  refine ⟨waiting.active_iff, waiting.ids_nodup, tidy.accepted_eq,
    isChain_noted tidy.chain rfl fun id active dropped => ⟨mutator, rfl, ?_⟩⟩
  by_contra other
  exact dropped ((Process.status_clearRequest_of_ne (Ne.symm other)).trans active)

end Tidy

end Safepoint.Requests
