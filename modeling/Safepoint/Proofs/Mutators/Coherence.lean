import Mathlib.Data.List.Nodup
import Safepoint.Collector.Mutators

/-!
# Coherence of the roster

The roster keeps its mutators twice: in a list, from which they leave by their number, and in a
table, from which they leave by their thread.  This file says when the two describe the same
mutators and what the calls that attach and detach make of that.  The weak spot is a handle that
outlives its mutator: once its thread is bound again, detaching by it takes the new mutator of that
thread out of the table, but not out of the list.
-/

namespace Safepoint

namespace Roster

/-- List and table describe the same mutators, each under a thread and a number of its own. -/
structure Coherent (roster : Roster) : Prop where
  found : ∀ mutator ∈ roster.attached, roster.mutator? mutator.thread = some mutator
  listed : ∀ thread, roster.isMutator thread = true →
    ∃ mutator ∈ roster.attached, mutator.thread = thread
  threads_nodup : (roster.attached.map Mutator.thread).Nodup
  /-- The numbers grow, and so they are distinct. -/
  ids_increase : roster.attached.Pairwise fun left right => left.id.word < right.id.word

/-- The roster after a number was given out. -/
def issued (roster : Roster) : Roster :=
  { roster with nextId := roster.nextId + 1 }

/-- The roster after a thread was attached under the next number. -/
def joined (roster : Roster) (thread : ThreadId) : Roster :=
  { roster.issued with
    byThread := roster.byThread.insert thread ⟨⟨roster.nextId⟩, thread⟩
    attached := roster.attached ++ [⟨⟨roster.nextId⟩, thread⟩] }

/-- The roster after a handle was used to detach its mutator. -/
def without (roster : Roster) (mutator : Mutator) : Roster :=
  { roster with
    byThread := roster.byThread.erase mutator.thread
    attached := roster.attached.filter fun other => other.id ≠ mutator.id }

variable {roster : Roster} {mutator : Mutator} {thread : ThreadId}

theorem coherent_empty : Coherent {} where
  found mutator member := absurd member List.not_mem_nil
  listed thread bound := by cases bound
  threads_nodup := List.nodup_nil
  ids_increase := List.Pairwise.nil

namespace Coherent

theorem issue (coherent : roster.Coherent) : roster.issued.Coherent :=
  ⟨coherent.found, coherent.listed, coherent.threads_nodup, coherent.ids_increase⟩

theorem isMutator_of_mem (coherent : roster.Coherent) (member : mutator ∈ roster.attached) :
    roster.isMutator mutator.thread = true :=
  Option.isSome_of_eq_some (coherent.found mutator member)

theorem thread_ne (coherent : roster.Coherent) (free : roster.isMutator thread = false)
    (member : mutator ∈ roster.attached) : mutator.thread ≠ thread := by
  rintro rfl
  simp [coherent.isMutator_of_mem member] at free

theorem join (coherent : roster.Coherent) (free : roster.isMutator thread = false)
    (ids_lt : ∀ mutator ∈ roster.attached, mutator.id.word < roster.nextId) :
    (roster.joined thread).Coherent where
  found mutator member := by
    rw [mutator?, joined, Table.get?_insert]
    rcases List.mem_append.mp member with old | new
    · rw [if_neg (coherent.thread_ne free old)]
      exact coherent.found mutator old
    · rw [List.mem_singleton] at new
      simp [new]
  listed other bound := by
    by_cases same : other = thread
    · exact ⟨⟨⟨roster.nextId⟩, thread⟩, by simp [joined], same.symm⟩
    · have bound_before : roster.isMutator other = true := by
        simpa [isMutator, Table.has, joined, Table.get?_insert, same] using bound
      obtain ⟨mutator, member, thread_eq⟩ := coherent.listed other bound_before
      exact ⟨mutator, List.mem_append_left _ member, thread_eq⟩
  threads_nodup := by
    simp only [joined, List.map_append, List.nodup_append, List.map_cons, List.map_nil,
      List.mem_singleton]
    refine ⟨coherent.threads_nodup, List.nodup_singleton _, ?_⟩
    rintro found found_mem other rfl
    obtain ⟨mutator, member, rfl⟩ := List.mem_map.mp found_mem
    exact coherent.thread_ne free member
  ids_increase := by
    simp only [joined, List.pairwise_append, List.mem_singleton]
    refine ⟨coherent.ids_increase, List.pairwise_singleton _ _, ?_⟩
    rintro mutator member other rfl
    exact ids_lt mutator member

theorem ids_nodup (coherent : roster.Coherent) : (roster.attached.map Mutator.id).Nodup := by
  rw [List.Nodup, List.pairwise_map]
  refine coherent.ids_increase.imp fun word_lt id_eq => ?_
  rw [id_eq] at word_lt
  exact absurd word_lt (UInt64.lt_irrefl _)

theorem eq_of_id (coherent : roster.Coherent) {other : Mutator}
    (member : mutator ∈ roster.attached) (other_mem : other ∈ roster.attached)
    (id_eq : mutator.id = other.id) : mutator = other :=
  List.inj_on_of_nodup_map coherent.ids_nodup member other_mem id_eq

theorem eq_of_thread (coherent : roster.Coherent) {other : Mutator}
    (member : mutator ∈ roster.attached) (other_mem : other ∈ roster.attached)
    (thread_eq : mutator.thread = other.thread) : mutator = other :=
  List.inj_on_of_nodup_map coherent.threads_nodup member other_mem thread_eq

/-- Detaching an attached mutator takes it out of the list and the table, and nothing else. -/
theorem detach (coherent : roster.Coherent) (member : mutator ∈ roster.attached) :
    (roster.without mutator).Coherent where
  found other other_left := by
    obtain ⟨other_mem, id_ne⟩ := List.mem_filter.mp other_left
    have thread_ne : other.thread ≠ mutator.thread := by
      intro thread_eq
      simp [coherent.eq_of_thread other_mem member thread_eq] at id_ne
    rw [mutator?, without, Table.get?_erase, if_neg thread_ne]
    exact coherent.found other other_mem
  listed thread bound := by
    have thread_ne : thread ≠ mutator.thread := by
      rintro rfl
      simp [isMutator, Table.has, without] at bound
    have bound_before : roster.isMutator thread = true := by
      simpa [isMutator, Table.has, without, Table.get?_erase, thread_ne] using bound
    obtain ⟨other, other_mem, thread_eq⟩ := coherent.listed thread bound_before
    have id_ne : other.id ≠ mutator.id := by
      intro id_eq
      rw [coherent.eq_of_id other_mem member id_eq] at thread_eq
      exact thread_ne thread_eq.symm
    exact ⟨other, List.mem_filter.mpr ⟨other_mem, by simpa using id_ne⟩, thread_eq⟩
  threads_nodup := coherent.threads_nodup.sublist (List.filter_sublist.map Mutator.thread)
  ids_increase := coherent.ids_increase.sublist List.filter_sublist

end Coherent

theorem without_of_absent (free : roster.isMutator mutator.thread = false)
    (ids_ne : ∀ other ∈ roster.attached, other.id ≠ mutator.id) :
    roster.without mutator = roster := by
  have attached_eq : (roster.attached.filter fun other => other.id ≠ mutator.id) =
      roster.attached :=
    List.filter_eq_self.mpr fun other other_mem => by simpa using ids_ne other other_mem
  rw [without, Table.erase_of_not_has free, attached_eq]

/-- A handle of nobody whose thread is bound again makes the mutator of that thread unfindable. -/
theorem Coherent.lost_of_stale (coherent : roster.Coherent)
    (bound : roster.isMutator mutator.thread = true)
    (ids_ne : ∀ other ∈ roster.attached, other.id ≠ mutator.id) :
    ∃ other ∈ (roster.without mutator).attached,
      (roster.without mutator).mutator? other.thread = none := by
  obtain ⟨other, other_mem, thread_eq⟩ := coherent.listed mutator.thread bound
  refine ⟨other, List.mem_filter.mpr ⟨other_mem, by simpa using ids_ne other other_mem⟩, ?_⟩
  rw [thread_eq]
  exact Table.get?_erase_self roster.byThread mutator.thread

end Roster

end Safepoint
