import Safepoint.Proofs.Mutators.Coherence
import Safepoint.Proofs.Vacant

/-!
# Lifetimes of mutators

Threads come and go in any order, and a handle may be used after its mutator is gone.  This file
gives runs of the calls that attach and detach, where a call that meets a fault does not end the
run, and says in which runs every call is orderly: it keeps the roster coherent, meets a fault when
it should and then changes nothing.  `orderly_iff_of_fresh` is the answer.  As long as numbers do
not repeat, the only disorder comes from a handle whose mutator is gone and whose thread is bound
again, because of what `loses_of_stale` says it does.
-/

namespace Safepoint

variable {Record Host : Type}

namespace Collector

theorem bind_eq (thread : ThreadId) (process : Process Record Host) :
    bind thread process =
      if process.roster.isMutator thread = true then
        .error (.boundTwice thread) { process with roster := process.roster.issued }
      else
        .ok ⟨⟨process.roster.nextId⟩, thread⟩
          { process with roster := process.roster.joined thread } := by
  by_cases bound : process.roster.byThread.has thread = true
  · refine Eq.trans ?_ (if_pos bound).symm
    simp only [bind, Process.onRoster, Action.onPart, Action.mapState, Roster.giveId,
      Roster.attach, Bind.bind, EStateM.bind, if_pos bound]
    rfl
  · refine Eq.trans ?_ (if_neg bound).symm
    simp only [bind, Process.onRoster, Action.onPart, Action.mapState, Roster.giveId,
      Roster.attach, Bind.bind, EStateM.bind, if_neg bound]
    rfl

theorem destroy_eq (mutator : Mutator) (process : Process Record Host) :
    destroy mutator process =
      if process.roster.isMutator mutator.thread = true then
        .ok () { process with roster := process.roster.without mutator }
      else
        .error (.destroyUnbound mutator.id)
          { process with roster := process.roster.without mutator } := by
  by_cases bound : process.roster.byThread.has mutator.thread = true
  · refine Eq.trans ?_ (if_pos bound).symm
    simp only [destroy, Process.onRoster, Action.onPart, Action.mapState, Roster.detach, Bind.bind,
      EStateM.bind, bound]
    rfl
  · refine Eq.trans ?_ (if_neg bound).symm
    simp only [destroy, Process.onRoster, Action.onPart, Action.mapState, Roster.detach, Bind.bind,
      EStateM.bind, bound]
    rfl

end Collector

namespace Lifetimes

/-- A call that attaches a thread or detaches a mutator. -/
inductive Call where
  | bind (thread : ThreadId)
  | destroy (mutator : Mutator)
  deriving DecidableEq

/-- A process with all mutators that calls of `bind` have returned so far. -/
structure State (Record Host : Type) where
  process : Process Record Host
  handed : List Mutator

namespace State

/-- The roster of the process. -/
def roster (state : State Record Host) : Roster :=
  state.process.roster

/-- How a call ends; only `bind` returns a mutator. -/
def ending (state : State Record Host) :
    Call → Ending (Process Record Host) (Option Mutator)
  | .bind thread => (some <$> Collector.bind thread) state.process
  | .destroy mutator => (Collector.destroy mutator *> pure none) state.process

/-- Whether a call meets a fault. -/
def faults (state : State Record Host) (call : Call) : Bool :=
  match state.ending call with
  | .ok _ _ => false
  | .error _ _ => true

/-- The state that a call leaves, with or without a fault. -/
def after (state : State Record Host) (call : Call) : State Record Host :=
  match state.ending call with
  | .ok returned process => ⟨process, returned.toList ++ state.handed⟩
  | .error _ process => ⟨process, state.handed⟩

variable {state : State Record Host} {thread : ThreadId} {mutator : Mutator}

theorem ending_bind_of_bound (bound : state.roster.isMutator thread = true) :
    state.ending (.bind thread) =
      .error (.boundTwice thread) { state.process with roster := state.roster.issued } := by
  have bind_eq := Collector.bind_eq thread state.process
  rw [roster] at bound
  rw [if_pos bound] at bind_eq
  simp [ending, Functor.map, EStateM.map, bind_eq, roster]

theorem ending_bind_of_free (free : state.roster.isMutator thread = false) :
    state.ending (.bind thread) =
      .ok (some ⟨⟨state.roster.nextId⟩, thread⟩)
        { state.process with roster := state.roster.joined thread } := by
  have bind_eq := Collector.bind_eq thread state.process
  rw [roster] at free
  rw [if_neg (by simp [free])] at bind_eq
  simp [ending, Functor.map, EStateM.map, bind_eq, roster]

theorem ending_destroy :
    state.ending (.destroy mutator) =
      if state.roster.isMutator mutator.thread = true then
        .ok none { state.process with roster := state.roster.without mutator }
      else
        .error (.destroyUnbound mutator.id)
          { state.process with roster := state.roster.without mutator } := by
  have destroy_eq := Collector.destroy_eq mutator state.process
  by_cases bound : state.process.roster.isMutator mutator.thread = true
  · simp [ending, SeqRight.seqRight, EStateM.seqRight, destroy_eq, bound, roster, pure,
      EStateM.pure]
  · simp [ending, SeqRight.seqRight, EStateM.seqRight, destroy_eq, bound, roster]

theorem faults_bind : state.faults (.bind thread) = state.roster.isMutator thread := by
  cases bound : state.roster.isMutator thread with
  | true => simp [faults, ending_bind_of_bound bound]
  | false => simp [faults, ending_bind_of_free bound]

theorem faults_destroy :
    state.faults (.destroy mutator) = !state.roster.isMutator mutator.thread := by
  cases bound : state.roster.isMutator mutator.thread <;> simp [faults, ending_destroy, bound]

theorem after_bind_of_bound (bound : state.roster.isMutator thread = true) :
    state.after (.bind thread) =
      ⟨{ state.process with roster := state.roster.issued }, state.handed⟩ := by
  simp [after, ending_bind_of_bound bound]

theorem after_bind_of_free (free : state.roster.isMutator thread = false) :
    state.after (.bind thread) =
      ⟨{ state.process with roster := state.roster.joined thread },
        ⟨⟨state.roster.nextId⟩, thread⟩ :: state.handed⟩ := by
  simp [after, ending_bind_of_free free]

theorem after_destroy :
    state.after (.destroy mutator) =
      ⟨{ state.process with roster := state.roster.without mutator }, state.handed⟩ := by
  cases bound : state.roster.isMutator mutator.thread <;> simp [after, ending_destroy, bound]

end State

/-- What should hold of every call. -/
structure Orderly (state : State Record Host) (call : Call) : Prop where
  coherent : (state.after call).roster.Coherent
  faults_iff : ∀ mutator, call = .destroy mutator →
    (state.faults call = true ↔ mutator ∉ state.roster.attached)
  attached_eq : state.faults call = true →
    (state.after call).roster.attached = state.roster.attached
  byThread_eq : state.faults call = true →
    (state.after call).roster.byThread = state.roster.byThread

/-- The next number is not yet in use, or a handle is that of an attached mutator or of nobody. -/
def Safe (state : State Record Host) : Call → Prop
  | .bind thread =>
      state.roster.isMutator thread = true ∨
        ∀ mutator ∈ state.roster.attached, mutator.id.word < state.roster.nextId
  | .destroy mutator =>
      mutator ∈ state.roster.attached ∨
        state.roster.isMutator mutator.thread = false ∧
          ∀ other ∈ state.roster.attached, other.id ≠ mutator.id

/-- The mutator of a handle is gone, but its thread has one again. -/
def Stale (state : State Record Host) : Call → Prop
  | .bind _ => False
  | .destroy mutator =>
      mutator ∉ state.roster.attached ∧ state.roster.isMutator mutator.thread = true

/-- Only handles that `bind` has returned are used. -/
def Given (state : State Record Host) : Call → Prop
  | .bind _ => True
  | .destroy mutator => mutator ∈ state.handed

instance (state : State Record Host) (call : Call) : Decidable (Stale state call) :=
  match call with
  | .bind _ => inferInstanceAs (Decidable False)
  | .destroy _ => inferInstanceAs (Decidable (_ ∧ _))

instance (state : State Record Host) (call : Call) : Decidable (Given state call) :=
  match call with
  | .bind _ => inferInstanceAs (Decidable True)
  | .destroy mutator => inferInstanceAs (Decidable (mutator ∈ state.handed))

variable {state : State Record Host} {call : Call} {calls : List Call}

theorem orderly_bind_of_bound {thread : ThreadId} (coherent : state.roster.Coherent)
    (bound : state.roster.isMutator thread = true) : Orderly state (.bind thread) := by
  have after_eq := State.after_bind_of_bound bound
  refine ⟨?_, by simp, fun _ => by rw [after_eq]; rfl, fun _ => by rw [after_eq]; rfl⟩
  rw [after_eq]
  exact coherent.issue

theorem orderly_bind_of_free {thread : ThreadId} (coherent : state.roster.Coherent)
    (free : state.roster.isMutator thread = false)
    (ids_lt : ∀ mutator ∈ state.roster.attached, mutator.id.word < state.roster.nextId) :
    Orderly state (.bind thread) := by
  have no_fault : state.faults (.bind thread) = false := by
    rw [State.faults_bind, free]
  refine ⟨?_, by simp, by simp [no_fault], by simp [no_fault]⟩
  rw [State.after_bind_of_free free]
  exact coherent.join free ids_lt

theorem orderly_destroy_of_mem {mutator : Mutator} (coherent : state.roster.Coherent)
    (member : mutator ∈ state.roster.attached) : Orderly state (.destroy mutator) := by
  have no_fault : state.faults (.destroy mutator) = false := by
    rw [State.faults_destroy, coherent.isMutator_of_mem member, Bool.not_true]
  refine ⟨?_, ?_, by simp [no_fault], by simp [no_fault]⟩
  · rw [State.after_destroy]
    exact coherent.detach member
  · rintro other ⟨⟩
    simp [no_fault, member]

theorem orderly_destroy_of_absent {mutator : Mutator} (coherent : state.roster.Coherent)
    (free : state.roster.isMutator mutator.thread = false)
    (ids_ne : ∀ other ∈ state.roster.attached, other.id ≠ mutator.id) :
    Orderly state (.destroy mutator) := by
  have fault : state.faults (.destroy mutator) = true := by
    rw [State.faults_destroy, free, Bool.not_false]
  have unchanged : (state.after (.destroy mutator)).roster = state.roster := by
    rw [State.after_destroy]
    exact Roster.without_of_absent free ids_ne
  refine ⟨?_, ?_, fun _ => by rw [unchanged], fun _ => by rw [unchanged]⟩
  · rw [unchanged]
    exact coherent
  · rintro other ⟨⟩
    exact iff_of_true fault fun member => ids_ne mutator member rfl

theorem orderly_of_safe (coherent : state.roster.Coherent) (safe : Safe state call) :
    Orderly state call := by
  cases call with
  | bind thread =>
      cases bound : state.roster.isMutator thread with
      | true => exact orderly_bind_of_bound coherent bound
      | false => exact orderly_bind_of_free coherent bound (safe.resolve_left (by simp [bound]))
  | destroy mutator =>
      rcases safe with member | ⟨free, ids_ne⟩
      · exact orderly_destroy_of_mem coherent member
      · exact orderly_destroy_of_absent coherent free ids_ne

theorem safe_of_orderly (orderly : Orderly state call) : Safe state call := by
  cases call with
  | bind thread =>
      cases bound : state.roster.isMutator thread with
      | true => exact Or.inl bound
      | false =>
          have ids_increase := orderly.coherent.ids_increase
          rw [State.after_bind_of_free bound] at ids_increase
          refine Or.inr fun mutator member => ?_
          exact (List.pairwise_append.mp ids_increase).2.2 mutator member _ List.mem_cons_self
  | destroy mutator =>
      by_cases member : mutator ∈ state.roster.attached
      · exact Or.inl member
      · have fault := (orderly.faults_iff mutator rfl).mpr member
        have attached_eq := orderly.attached_eq fault
        rw [State.after_destroy] at attached_eq
        rw [State.faults_destroy, Bool.not_eq_true'] at fault
        refine Or.inr ⟨fault, fun other other_mem => ?_⟩
        simpa using List.filter_eq_self.mp attached_eq other other_mem

/-- Each call satisfies `holds` in the state that the calls before it have left. -/
def Along (holds : State Record Host → Call → Prop) : State Record Host → List Call → Prop
  | _, [] => True
  | state, call :: calls => holds state call ∧ Along holds (state.after call) calls

instance decidableAlong {holds : State Record Host → Call → Prop}
    [∀ state call, Decidable (holds state call)] (state : State Record Host) (calls : List Call) :
    Decidable (Along holds state calls) :=
  match calls with
  | [] => .isTrue trivial
  | call :: calls => @instDecidableAnd _ _ inferInstance (decidableAlong (state.after call) calls)

theorem along_orderly_iff (coherent : state.roster.Coherent) :
    Along Orderly state calls ↔ Along Safe state calls := by
  induction calls generalizing state with
  | nil => rfl
  | cons call calls ih =>
      constructor
      · rintro ⟨orderly, rest⟩
        exact ⟨safe_of_orderly orderly, (ih orderly.coherent).mp rest⟩
      · rintro ⟨safe, rest⟩
        have orderly := orderly_of_safe coherent safe
        exact ⟨orderly, (ih orderly.coherent).mpr rest⟩

/-! ## Numbers that do not repeat -/

/-- Whether a call uses up a number. -/
def Call.isBind : Call → Bool
  | .bind _ => true
  | .destroy _ => false

/-- All numbers so far were given out to `made` calls, each to one handle at most. -/
structure Numbered (state : State Record Host) (made : Nat) : Prop where
  nextId_eq : state.roster.nextId = UInt64.ofNat made
  id_lt : ∀ mutator ∈ state.handed, mutator.id.word.toNat < made
  eq_of_id : ∀ mutator ∈ state.handed, ∀ other ∈ state.handed,
    mutator.id = other.id → mutator = other
  attached_handed : ∀ mutator ∈ state.roster.attached, mutator ∈ state.handed

namespace Numbered

variable {made : Nat}

theorem nextId_toNat (numbered : Numbered state made) (room : made < Word.count) :
    state.roster.nextId.toNat = made := by
  rw [numbered.nextId_eq, UInt64.toNat_ofNat_of_lt' room]

theorem id_ne (numbered : Numbered state made) (room : made < Word.count) {mutator : Mutator}
    (member : mutator ∈ state.handed) : mutator.id ≠ ⟨state.roster.nextId⟩ := by
  intro id_eq
  have id_lt := numbered.id_lt mutator member
  rw [id_eq, numbered.nextId_toNat room] at id_lt
  exact Nat.lt_irrefl _ id_lt

theorem after_bind (numbered : Numbered state made) (room : made < Word.count)
    (thread : ThreadId) : Numbered (state.after (.bind thread)) (made + 1) := by
  have nextId_eq : state.roster.nextId + 1 = UInt64.ofNat (made + 1) := by
    rw [numbered.nextId_eq, UInt64.ofNat_add]
    rfl
  have old_lt : ∀ mutator ∈ state.handed, mutator.id.word.toNat < made + 1 :=
    fun mutator member => Nat.lt_succ_of_lt (numbered.id_lt mutator member)
  cases bound : state.roster.isMutator thread with
  | true =>
      rw [State.after_bind_of_bound bound]
      exact ⟨nextId_eq, old_lt, numbered.eq_of_id, numbered.attached_handed⟩
  | false =>
      rw [State.after_bind_of_free bound]
      refine ⟨nextId_eq, ?_, ?_, ?_⟩
      · intro mutator member
        rcases List.mem_cons.mp member with rfl | old
        · exact Nat.lt_succ_of_le (Nat.le_of_eq (numbered.nextId_toNat room))
        · exact old_lt mutator old
      · intro mutator member other other_mem id_eq
        rcases List.mem_cons.mp member with rfl | old
        · rcases List.mem_cons.mp other_mem with rfl | other_old
          · rfl
          · exact absurd id_eq.symm (numbered.id_ne room other_old)
        · rcases List.mem_cons.mp other_mem with rfl | other_old
          · exact absurd id_eq (numbered.id_ne room old)
          · exact numbered.eq_of_id mutator old other other_old id_eq
      · intro mutator member
        rcases List.mem_append.mp member with old | new
        · exact List.mem_cons_of_mem _ (numbered.attached_handed mutator old)
        · exact List.mem_cons.mpr (Or.inl (List.mem_singleton.mp new))

theorem after_destroy (numbered : Numbered state made) (mutator : Mutator) :
    Numbered (state.after (.destroy mutator)) made := by
  rw [State.after_destroy]
  refine ⟨numbered.nextId_eq, numbered.id_lt, numbered.eq_of_id, fun other member => ?_⟩
  exact numbered.attached_handed other (List.mem_of_mem_filter member)

theorem id_ne_of_absent (numbered : Numbered state made) {mutator : Mutator}
    (given : mutator ∈ state.handed) (absent : mutator ∉ state.roster.attached) :
    ∀ other ∈ state.roster.attached, other.id ≠ mutator.id := by
  intro other other_mem id_eq
  have other_given := numbered.attached_handed other other_mem
  have same : other = mutator := numbered.eq_of_id other other_given mutator given id_eq
  exact absent (same ▸ other_mem)

/--
A stale handle meets no fault, and the mutator that its thread has now stays in the list where
nobody finds it.
-/
theorem loses_of_stale (numbered : Numbered state made) (coherent : state.roster.Coherent)
    (given : Given state call) (stale : Stale state call) :
    state.faults call = false ∧ ∃ other ∈ (state.after call).roster.attached,
      (state.after call).roster.mutator? other.thread = none := by
  cases call with
  | bind thread => exact stale.elim
  | destroy mutator =>
      obtain ⟨gone, bound⟩ := stale
      rw [State.faults_destroy, State.after_destroy, bound]
      exact ⟨rfl, coherent.lost_of_stale bound (numbered.id_ne_of_absent given gone)⟩

theorem safe_of_not_stale (numbered : Numbered state made)
    (room : call.isBind = true → made < Word.count) (given : Given state call)
    (not_stale : ¬Stale state call) : Safe state call := by
  cases call with
  | bind thread =>
      refine Or.inr fun mutator member => ?_
      rw [UInt64.lt_iff_toNat_lt, numbered.nextId_toNat (room rfl)]
      exact numbered.id_lt mutator (numbered.attached_handed mutator member)
  | destroy mutator =>
      by_cases member : mutator ∈ state.roster.attached
      · exact Or.inl member
      · have free : state.roster.isMutator mutator.thread = false := by
          simpa [Stale, member] using not_stale
        exact Or.inr ⟨free, numbered.id_ne_of_absent given member⟩

/-- As long as numbers do not repeat, a call is orderly unless its handle is stale. -/
theorem orderly_iff (numbered : Numbered state made) (coherent : state.roster.Coherent)
    (room : call.isBind = true → made < Word.count) (given : Given state call) :
    Orderly state call ↔ ¬Stale state call := by
  constructor
  · intro orderly stale
    obtain ⟨-, other, other_mem, lost⟩ := numbered.loses_of_stale coherent given stale
    rw [orderly.coherent.found other other_mem] at lost
    cases lost
  · intro not_stale
    exact orderly_of_safe coherent (numbered.safe_of_not_stale room given not_stale)

end Numbered

theorem along_orderly_iff_not_stale {made : Nat} (numbered : Numbered state made)
    (coherent : state.roster.Coherent) (room : made + calls.countP Call.isBind ≤ Word.count)
    (given : Along Given state calls) :
    Along Orderly state calls ↔ Along (fun state call => ¬Stale state call) state calls := by
  induction calls generalizing state made with
  | nil => rfl
  | cons call calls ih =>
      obtain ⟨call_given, rest_given⟩ := given
      have call_room : call.isBind = true → made < Word.count := by
        intro is_bind
        rw [List.countP_cons_of_pos is_bind] at room
        omega
      rw [Along, Along, ← numbered.orderly_iff coherent call_room call_given]
      refine and_congr_right fun orderly => ?_
      cases call with
      | bind thread =>
          rw [List.countP_cons_of_pos rfl] at room
          exact ih (numbered.after_bind (by omega) thread) orderly.coherent (by omega) rest_given
      | destroy mutator =>
          rw [List.countP_cons_of_neg (by simp [Call.isBind])] at room
          exact ih (numbered.after_destroy mutator) orderly.coherent room rest_given

/--
From a fresh roster on, all calls of a run are orderly exactly if every one is safe.  If numbers do
not repeat and every handle came from `bind`, that is to say that no stale handle is used.
-/
theorem orderly_iff_of_fresh (process : Process Record Host) (fresh : process.roster = {})
    (calls : List Call) :
    (Along Orderly ⟨process, []⟩ calls ↔ Along Safe ⟨process, []⟩ calls) ∧
      (calls.countP Call.isBind ≤ Word.count → Along Given ⟨process, []⟩ calls →
        (Along Orderly ⟨process, []⟩ calls ↔
          Along (fun state call => ¬Stale state call) ⟨process, []⟩ calls)) := by
  have coherent : (State.roster ⟨process, []⟩).Coherent := by
    rw [State.roster, fresh]
    exact Roster.coherent_empty
  refine ⟨along_orderly_iff coherent, fun room given => ?_⟩
  have numbered : Numbered ⟨process, []⟩ 0 := by
    refine ⟨?_, by simp, by simp, ?_⟩
    · rw [State.roster, fresh]
      rfl
    · rw [State.roster, fresh]
      simp
  exact along_orderly_iff_not_stale numbered coherent (by omega) given

private def bindFirst : Call := .bind ⟨1⟩

private def destroyFirst : Call := .destroy ⟨⟨0⟩, ⟨1⟩⟩

/-- A handle may be used twice and its thread bound again, but not the other way round. -/
theorem orderly_iff_of_fresh_rebound :
    Along Orderly ⟨.vacant () (), []⟩ [bindFirst, destroyFirst, destroyFirst, bindFirst] ∧
      ¬Along Orderly ⟨.vacant () (), []⟩ [bindFirst, destroyFirst, bindFirst, destroyFirst] := by
  have twice := orderly_iff_of_fresh (.vacant () ()) rfl
    [bindFirst, destroyFirst, destroyFirst, bindFirst]
  have rebound := orderly_iff_of_fresh (.vacant () ()) rfl
    [bindFirst, destroyFirst, bindFirst, destroyFirst]
  constructor
  · exact (twice.2 (by decide) (by decide)).mpr (by decide)
  · rw [rebound.2 (by decide) (by decide)]
    decide

end Lifetimes

end Safepoint
