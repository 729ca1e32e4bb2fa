import Safepoint.Action

/-!
# The rendezvous of a pause

All mutators meet the collector at a pause.  The rendezvous keeps the phase of the pause under way
and the epoch, which is the number of pauses that have ended.  A thread that needs a collection
takes a ticket and waits until the epoch has passed it, so it cannot miss a pause that ends before
it starts to wait.  The central statements say when a ticket is passed.
-/

namespace Safepoint.Rendezvous

/-- The epoch at the time a thread asked. -/
structure Ticket where
  /-- Pauses that had ended by then. -/
  epoch : Word
  deriving DecidableEq, Repr

/-- Where the pauses of a process stand. -/
structure State where
  /-- Pauses that have ended; the counter wraps. -/
  epoch : Word := 0
  /-- Phase of the pause under way. -/
  phase : Phase := .running
  /-- Whether the time of a pause is being taken. -/
  timing : Bool := false
  /-- Pauses whose time was taken to the end. -/
  timed : Word := 0
  deriving DecidableEq, Repr

namespace State

/-- A ticket for the epoch as it is. -/
def ticket (state : State) : Ticket := ⟨state.epoch⟩

/-- Whether a pause has ended since the ticket was taken. -/
def isPast (state : State) (ticket : Ticket) : Bool := decide (ticket.epoch < state.epoch)

/-- Goes from one phase to the next; in any other phase nothing happens but the fault. -/
def shift (expected next : Phase) : Action State Unit := fun state =>
  if state.phase = expected then .ok () { state with phase := next }
  else .error (.phaseMismatch expected next state.phase) state

/-- Starts to take the time of a pause. -/
def startTiming : Action State Unit := fun state => .ok () { state with timing := true }

/-- Counts a pause whose time is being taken as timed. -/
def stopTiming : Action State Unit := fun state =>
  if state.timing then
    match Word.add? state.timed 1 with
    | some timed => .ok () { state with timing := false, timed := timed }
    | none => .error .addOverflow { state with timing := false }
  else
    .ok () state

/-- Passes to the next epoch, which releases every thread with a ticket for this one. -/
def advance : Action State Unit := fun state => .ok () { state with epoch := state.epoch + 1 }

theorem isPast_iff (state : State) (ticket : Ticket) :
    state.isPast ticket = true ↔ ticket.epoch.toNat < state.epoch.toNat := by
  simp [isPast, UInt64.lt_iff_toNat_lt]

theorem not_isPast_ticket (state : State) : state.isPast state.ticket = false := by
  simp [isPast, ticket]

end State

end Safepoint.Rendezvous
