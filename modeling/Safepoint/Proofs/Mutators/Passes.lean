import Safepoint.Mutators.Roster

/-!
# Passes over the roster

A pass goes over the roster while mutators come and go.  Seen from outside there are only calls: some
ask for the next mutator, some give up a pass, and others attach and detach.  This file cuts the
answers of such calls into passes, without a look at what the roster remembers of its own.
`faithful_of_idle` says that each pass belongs to one moment: it hands out those who were attached
when it began, in order, and then nobody.
-/

namespace Safepoint.Passes

/-- A call on a roster; attaching and detaching may be given any handle. -/
inductive Call where
  /-- Asks for the next mutator. -/
  | next
  /-- Gives up a pass. -/
  | reset
  | attach (mutator : Mutator)
  | detach (mutator : Mutator)
  deriving DecidableEq

/-- The roster that a call leaves, with or without a fault. -/
def leave (roster : Roster) : Call → Roster
  | .next => Action.left (Roster.next roster)
  | .reset => Action.left (Roster.resetPass roster)
  | .attach mutator => Action.left (Roster.attach mutator roster)
  | .detach mutator => Action.left (Roster.detach mutator roster)

/-- What a call shows of passes. -/
inductive Event where
  /-- The next mutator was asked for while these were attached, and there was one or there was not. -/
  | answered (attached : List Mutator) (answer : Option Mutator)
  /-- A pass was given up, if one was under way. -/
  | reset
  deriving DecidableEq

/-- The event that a call is, if it is one. -/
def event? (roster : Roster) : Call → Option Event
  | .next => (Action.value? (Roster.next roster)).map (.answered roster.attached)
  | .reset => some .reset
  | .attach _ => none
  | .detach _ => none

/-- The events of a row of calls. -/
def events : Roster → List Call → List Event
  | _, [] => []
  | roster, call :: calls => (event? roster call).toList ++ events (leave roster call) calls

/-- A pass as its calls show it. -/
structure Pass where
  /-- Who was attached at the first of its calls. -/
  attached : List Mutator
  /-- What its calls have answered so far, the first one first. -/
  answers : List (Option Mutator) := []
  deriving DecidableEq

/-- The pass with one more answer. -/
def Pass.concat (pass : Pass) (answer : Option Mutator) : Pass :=
  { pass with answers := pass.answers ++ [answer] }

/--
Cuts events into passes, where one may be under way already.  Without one the next question begins a
pass; the answer that there is nobody ends it, and so does a reset.
-/
def cut : Option Pass → List Event → List Pass
  | underway, [] => underway.toList
  | underway, .reset :: events => underway.toList ++ cut none events
  | underway, .answered attached none :: events =>
      (underway.getD { attached := attached }).concat none :: cut none events
  | underway, .answered attached (some mutator) :: events =>
      cut (some ((underway.getD { attached := attached }).concat (some mutator))) events

/-- The passes in a row of calls on a roster. -/
def passes (roster : Roster) (calls : List Call) : List Pass := cut none (events roster calls)

/--
The answers are the mutators that were attached when the pass began, in order and each once, and
nobody once they are used up; a pass that was given up, or is under way, has not come to the end.
-/
def Pass.Faithful (pass : Pass) : Prop := pass.answers <+: pass.attached.map some ++ [none]

variable {roster after : Roster} {underway : Option Pass} {answer : Option Mutator}

/-- The roster remembers what is left of the pass under way, and of no other. -/
inductive Remembers : Roster → Option Pass → Prop where
  | idle {roster : Roster} (pass_eq : roster.pass = none) : Remembers roster none
  | going {roster : Roster} (handed rest : List Mutator) (pass_eq : roster.pass = some rest) :
      Remembers roster (some ⟨handed ++ rest, handed.map some⟩)

theorem pass_attach (mutator : Mutator) (roster : Roster) :
    (Action.left (Roster.attach mutator roster)).pass = roster.pass := by
  unfold Roster.attach
  split <;> rfl

namespace Remembers

theorem congr (remembers : Remembers roster underway) (pass_eq : after.pass = roster.pass) :
    Remembers after underway := by
  cases remembers with
  | idle idle_eq => exact .idle (pass_eq.trans idle_eq)
  | going handed rest going_eq => exact .going handed rest (pass_eq.trans going_eq)

theorem faithful (remembers : Remembers roster underway) : ∀ pass ∈ underway, pass.Faithful := by
  rintro pass ⟨⟩
  cases remembers with
  | going handed rest pass_eq =>
      rw [Pass.Faithful, List.map_append, List.append_assoc]
      exact List.prefix_append _ _

/-- A question finds a pass under way or begins one; either way it knows what is left to hand out. -/
theorem exists_rest (remembers : Remembers roster underway) :
    ∃ handed rest, underway.getD { attached := roster.attached } =
        ⟨handed ++ rest, handed.map some⟩ ∧ roster.pass.getD roster.attached = rest := by
  cases remembers with
  | idle pass_eq => exact ⟨[], roster.attached, rfl, by rw [pass_eq, Option.getD_none]⟩
  | going handed rest pass_eq => exact ⟨handed, rest, rfl, by rw [pass_eq, Option.getD_some]⟩

theorem next (remembers : Remembers roster underway) :
    ∃ answer after, Roster.next roster = .ok answer after ∧
      ((underway.getD { attached := roster.attached }).concat answer).Faithful ∧
      Remembers after (answer.map fun _ =>
        (underway.getD { attached := roster.attached }).concat answer) := by
  obtain ⟨handed, rest, pass_eq, left⟩ := remembers.exists_rest
  rw [pass_eq]
  cases rest with
  | nil =>
      have whole : handed.map some ++ [none] <+: (handed ++ []).map some ++ [none] := by simp
      exact ⟨none, _, Roster.next_nil left, whole, .idle rfl⟩
  | cons mutator rest =>
      have going : Remembers { roster with pass := some rest }
          (some ⟨handed ++ [mutator] ++ rest, (handed ++ [mutator]).map some⟩) := .going _ _ rfl
      rw [List.append_assoc, List.singleton_append, List.map_append] at going
      exact ⟨some mutator, _, Roster.next_cons left, going.faithful _ rfl, going⟩

end Remembers

theorem Remembers.faithful_of_mem_cut (remembers : Remembers roster underway) (calls : List Call) :
    ∀ pass ∈ cut underway (events roster calls), pass.Faithful := by
  induction calls generalizing roster underway with
  | nil =>
      intro pass member
      exact remembers.faithful pass (Option.mem_toList.mp member)
  | cons call calls ih =>
      cases call with
      | next =>
          obtain ⟨answer, after, ended, faithful, remembers_after⟩ := remembers.next
          have rest := ih remembers_after
          have events_eq : events roster (.next :: calls) =
              .answered roster.attached answer :: events after calls := by
            simp [events, event?, leave, ended, Action.value?, Action.left]
          rw [events_eq]
          cases answer with
          | none => exact List.forall_mem_cons.mpr ⟨faithful, rest⟩
          | some mutator => exact rest
      | reset =>
          intro pass member
          rcases List.mem_append.mp member with given_up | later
          · exact remembers.faithful pass (Option.mem_toList.mp given_up)
          · exact ih (.idle rfl) pass later
      | attach mutator => exact ih (remembers.congr (pass_attach mutator roster))
      | detach mutator => exact ih (remembers.congr rfl)

/--
Whoever attaches and detaches meanwhile, and however often passes are given up, each pass hands out
the mutators that were attached at its first call, in their order, and answers that there is nobody
exactly when it has handed out all of them.  At any moment the question meets no fault.
-/
theorem faithful_of_idle (idle : roster.pass = none) (calls : List Call) :
    (∀ pass ∈ passes roster calls, pass.Faithful) ∧
      ∃ answer after, Roster.next (calls.foldl leave roster) = .ok answer after := by
  refine ⟨Remembers.faithful_of_mem_cut (.idle idle) calls, ?_⟩
  generalize calls.foldl leave roster = last
  cases left : last.pass.getD last.attached with
  | nil => exact ⟨_, _, Roster.next_nil left⟩
  | cons mutator rest => exact ⟨_, _, Roster.next_cons left⟩

private def first : Mutator := ⟨⟨0⟩, ⟨11⟩⟩

private def second : Mutator := ⟨⟨1⟩, ⟨12⟩⟩

private def third : Mutator := ⟨⟨2⟩, ⟨13⟩⟩

/--
The second mutator leaves and the third comes in the middle of the first pass, which does not mind;
the second pass is given up after one answer, and the last is under way.  A handle of nobody takes
the first mutator's thread out of the table, and so it may come again.
-/
private def interleaved : List Call :=
  [.reset, .next, .attach first, .attach second, .next, .detach second, .attach third, .next, .next,
    .next, .reset, .detach ⟨⟨7⟩, ⟨11⟩⟩, .attach first, .next, .next, .next]

theorem faithful_of_idle_interleaved :
    passes {} interleaved =
        [⟨[], [none]⟩, ⟨[first, second], [some first, some second, none]⟩,
          ⟨[first, third], [some first]⟩,
          ⟨[first, third, first], [some first, some third, some first]⟩] ∧
      ∀ pass ∈ passes {} interleaved, pass.Faithful :=
  ⟨by decide, (faithful_of_idle rfl interleaved).1⟩

end Safepoint.Passes
