import Safepoint.Action
import Safepoint.Table

/-!
# The roster of mutators

A mutator is a runtime thread that takes part in collections.  The roster holds the mutators that
are attached, in order of attachment, and finds them by their thread; a pass hands them out one by
one from the list as it was when the pass began.  The central statements say what a pass hands
out.
-/

namespace Safepoint

/-- A runtime thread under the number it got when it attached. -/
structure Mutator where
  id : MutatorId
  thread : ThreadId
  deriving DecidableEq, Repr

/-- Whether a mutator waits for a collection of its own objects. -/
inductive CollectionStatus where
  /-- No collection is asked for. -/
  | inactive
  /-- A collection is asked for or under way. -/
  | active
  deriving DecidableEq, Repr

/-- The status as it is shown in messages. -/
def CollectionStatus.text : CollectionStatus → String
  | inactive => "Inactive"
  | active => "Active"

/-- A mutator with its status as it is shown in messages. -/
def Mutator.text (mutator : Mutator) (status : CollectionStatus) : String :=
  s!"Mutator \x7b id: {mutator.id.text}, tls: {mutator.thread.text}, local_gc: {status.text} \x7d"

/-- The attached mutators. -/
structure Roster where
  /-- Attached mutators, oldest first. -/
  attached : List Mutator := []
  /-- The mutator of each thread. -/
  byThread : Table ThreadId Mutator := .empty
  /-- The number that the next mutator gets. -/
  nextId : Word := 0
  /-- What a pass under way has still to hand out. -/
  pass : Option (List Mutator) := none

namespace Roster

/-- Gives out the number for the next mutator. -/
def giveId : Action Roster MutatorId := fun roster =>
  .ok ⟨roster.nextId⟩ { roster with nextId := roster.nextId + 1 }

/-- Attaches a mutator, whose thread must not have one already. -/
def attach (mutator : Mutator) : Action Roster Unit := fun roster =>
  if roster.byThread.has mutator.thread then
    .error (.boundTwice mutator.thread) roster
  else
    .ok ()
      { roster with
        byThread := roster.byThread.insert mutator.thread mutator
        attached := roster.attached ++ [mutator] }

/--
Detaches a mutator and answers whether its thread had one.  The thread is looked up by its own name
and the list by the number of the mutator.
-/
def detach (mutator : Mutator) : Action Roster Bool := fun roster =>
  .ok (roster.byThread.has mutator.thread)
    { roster with
      byThread := roster.byThread.erase mutator.thread
      attached := roster.attached.filter fun other => other.id ≠ mutator.id }

/-- The mutator of a thread. -/
def mutator? (roster : Roster) (thread : ThreadId) : Option Mutator := roster.byThread.get? thread

/-- Whether a thread has a mutator. -/
def isMutator (roster : Roster) (thread : ThreadId) : Bool := roster.byThread.has thread

/--
Hands out the next mutator of a pass.  Without a pass under way one begins over the list as it is
now, and a pass that has nothing left ends.
-/
def next : Action Roster (Option Mutator) := fun roster =>
  match roster.pass.getD roster.attached with
  | [] => .ok none { roster with pass := none }
  | mutator :: rest => .ok (some mutator) { roster with pass := some rest }

/-- Gives up a pass under way. -/
def resetPass : Action Roster Unit := fun roster => .ok () { roster with pass := none }

theorem next_cons {roster : Roster} {mutator : Mutator} {rest : List Mutator}
    (left : roster.pass.getD roster.attached = mutator :: rest) :
    next roster = .ok (some mutator) { roster with pass := some rest } := by
  simp [next, left]

theorem next_nil {roster : Roster} (left : roster.pass.getD roster.attached = []) :
    next roster = .ok none { roster with pass := none } := by
  simp [next, left]

end Roster

end Safepoint
