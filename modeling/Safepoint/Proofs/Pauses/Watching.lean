import Safepoint.Collector.Pauses

/-!
# Watching the pauses of a process

The statements about pauses speak of what has happened: which calls returned, what the runtime was
asked and in which phase, and when each waiting thread took its ticket.  A watched process keeps
this history beside the outside world, where the collector does not look.  This file gives the
history, the calls and moves that make it, and the code of collaborators, which may do anything but
reach into the rendezvous, or into the threads that wait for it, without a call.
-/

namespace Safepoint.Pauses

open Rendezvous (Phase Ticket)

/-- What the collector asks of the runtime for a pause. -/
inductive Demand where
  | suspend
  | resume
  deriving DecidableEq, Repr

namespace Demand

/-- The phase in which the runtime should be asked. -/
def phase : Demand → Phase
  | suspend => .requestingSuspend
  | resume => .resuming

/-- The phase in which a call may begin that asks for it. -/
def opens : Demand → Phase
  | suspend => .running
  | resume => .suspended

/-- The phase in which such a call returns. -/
def closes : Demand → Phase
  | suspend => .suspended
  | resume => .running

end Demand

/-- What happened to the pauses of a process. -/
structure Tally where
  /-- What the runtime was asked, with the phase at the time, the latest first. -/
  demands : List (Demand × Phase) := []
  /-- Stops that returned. -/
  stopped : Nat := 0
  /-- Resumptions that returned. -/
  resumed : Nat := 0
  /-- What the runtime was asked in a call that a fault ended after that. -/
  broken : Option Demand := none
  deriving DecidableEq, Repr

/-- What can be seen at one moment: the process with its history so far. -/
structure Scene (Record Host : Type) where
  process : Process Record Host
  tally : Tally
  since : List Nat

/-- The outside world of a watched process. -/
structure Watched (Record Host : Type) where
  inner : Host
  tally : Tally := {}
  /-- How many resumptions had returned when each of the waiting threads took its ticket. -/
  since : List Nat := []
  /-- What somebody looked at, the latest first. -/
  seen : List (Scene Record Host) := []

/-- A process that is watched. -/
abbrev World (Record Host : Type) : Type := Process Record (Watched Record Host)

variable {Record Host : Type}

namespace World

/-- What can be seen now. -/
def scene (world : World Record Host) : Scene Record Host where
  process := { world with host := world.host.inner }
  tally := world.host.tally
  since := world.host.since

/-- What can be seen now and what was looked at before. -/
def scenes (world : World Record Host) : List (Scene Record Host) :=
  world.scene :: world.host.seen

def setTally (tally : Tally) (world : World Record Host) : World Record Host :=
  { world with host := { world.host with tally := tally } }

/-- Notes since when the next thread has its ticket. -/
def noteSince (resumed : Nat) (world : World Record Host) : World Record Host :=
  { world with host := { world.host with since := world.host.since ++ [resumed] } }

/-- Counts a call that returned. -/
def returned (demand : Demand) (world : World Record Host) : World Record Host :=
  let tally := world.host.tally
  match demand with
  | .suspend => world.setTally { tally with stopped := tally.stopped + 1 }
  | .resume => world.setTally { tally with resumed := tally.resumed + 1 }

/-- Notes that a fault ended a call after it had asked the runtime. -/
def broken (demand : Demand) (world : World Record Host) : World Record Host :=
  world.setTally { world.host.tally with broken := some demand }

/-- A process just started, of which nothing has been told yet. -/
structure Fresh (world : World Record Host) : Prop where
  rendezvous_eq : world.rendezvous = {}
  pauseWaiters_eq : world.pauseWaiters = []
  tally_eq : world.host.tally = {}
  since_eq : world.host.since = []
  seen_eq : world.host.seen = []

end World

/-- What the threads do that wait for the end of a pause, and what somebody does who looks on. -/
inductive Move where
  | look
  /-- Takes a ticket. -/
  | take
  /-- Blocks until the end of the pause under way or of the next one. -/
  | block
  /-- A thread that has a ticket starts to wait. -/
  | wait (number : Nat)
  | check (number : Nat)
  /-- A thread is woken, not by the end of a pause. -/
  | wake (number : Nat)

def Move.apply (world : World Record Host) : Move → World Record Host
  | look => { world with host := { world.host with seen := world.scenes } }
  | take =>
      World.noteSince world.host.tally.resumed
        (world.addPauseWaiter world.rendezvous.ticket .ahead)
  | block =>
      World.noteSince world.host.tally.resumed
        (Action.left (Collector.blockUntilPauseDone world))
  | wait number => world.stepPauseWaiter number .begin
  | check number => world.stepPauseWaiter number (.check world.isPauseOver)
  | wake number => world.stepPauseWaiter number .wake

/-- Notes what the runtime is asked, and in which phase. -/
def issue (demand : Demand) : Action (World Record Host) Unit := fun world =>
  let tally := world.host.tally
  .ok () (world.setTally
    { tally with demands := (demand, world.rendezvous.phase) :: tally.demands })

/-- The collector, with a note of what its runtime is asked for a pause. -/
def watch (collector : Collector Record (Watched Record Host)) :
    Collector Record (Watched Record Host) :=
  { collector with
    runtime :=
      { collector.runtime with
        suspendAll := fun reporting =>
          .act (issue .suspend) fun _ => collector.runtime.suspendAll reporting
        resumeAll := do
          issue .resume
          collector.runtime.resumeAll } }

/-- A call that begins or ends a pause; each may come with settings and a runtime of its own. -/
inductive Call (Record Host : Type) where
  | stop (collector : Collector Record (Watched Record Host))
      (visit : Mutator → Action (World Record Host) Unit)
  | resume (collector : Collector Record (Watched Record Host))

namespace Call

def demand : Call Record Host → Demand
  | stop _ _ => .suspend
  | resume _ => .resume

/-- Makes the call; a stop that returns gives a ticket. -/
def perform : Call Record Host → Action (World Record Host) (Option Ticket)
  | stop collector visit => do
      let ticket ← (watch collector).stopAll visit
      return some ticket
  | resume collector => do
      (watch collector).resumeAll
      return none

/-- Makes the call and keeps the history; whoever is given a ticket may wait with it. -/
def run (call : Call Record Host) : Action (World Record Host) Unit := fun world =>
  match call.perform world with
  | .ok none after => .ok () (after.returned call.demand)
  | .ok (some ticket) after =>
      .ok () (World.noteSince world.host.tally.resumed
        ((after.returned call.demand).addPauseWaiter ticket .ahead))
  | .error fault after =>
      .error fault
        (if world.host.tally.demands.length < after.host.tally.demands.length then
          after.broken call.demand
        else after)

end Call

/-- The second world differs neither in its rendezvous and who waits for it nor in its history. -/
structure Apart (before after : World Record Host) : Prop where
  rendezvous_eq : after.rendezvous = before.rendezvous
  pauseWaiters_eq : after.pauseWaiters = before.pauseWaiters
  host_eq : ∃ inner, after.host = { before.host with inner := inner }

/-- Runs code and then, however that ended, more code. -/
def carryOn (first : Action (World Record Host) Unit)
    (next : Ending (World Record Host) Unit → Action (World Record Host) Unit) :
    Action (World Record Host) Unit := fun world =>
  next (first world) (Action.left (first world))

/--
Code of a collaborator: it may do anything to the rest of the process, meet a fault and recover from
one, let other threads move, and call the collector back.
-/
inductive Foreign : Action (World Record Host) Unit → Prop where
  | apart {action : Action (World Record Host) Unit}
      (keeps : ∀ world, Apart world (Action.left (action world))) : Foreign action
  | move (move : Move) : Foreign fun world => .ok () (move.apply world)
  | call (made : Call Record Host) : Foreign made.run
  | carryOn {first : Action (World Record Host) Unit}
      {next : Ending (World Record Host) Unit → Action (World Record Host) Unit}
      (before : Foreign first) (after : ∀ ending, Foreign (next ending)) :
      Foreign (carryOn first next)

inductive ForeignReport {Item : Type} : Report (World Record Host) Item → Prop where
  | done : ForeignReport .done
  | act {step : Action (World Record Host) Unit}
      {next : World Record Host → Report (World Record Host) Item} (before : Foreign step)
      (after : ∀ world, ForeignReport (next world)) : ForeignReport (.act step next)
  | item {item : Item} {next : World Record Host → Report (World Record Host) Item}
      (after : ∀ world, ForeignReport (next world)) : ForeignReport (.item item next)

/-- Runtime and visitor of a call are code of collaborators. -/
def Call.Proper : Call Record Host → Prop
  | stop collector visit =>
      (∀ reporting, ForeignReport (collector.runtime.suspendAll reporting)) ∧
        ∀ mutator, Foreign (visit mutator)
  | resume collector => Foreign collector.runtime.resumeAll

/-- What happens next: a call, a move of another thread, or something that is neither. -/
inductive Turn (Record Host : Type) where
  | call (made : Call Record Host)
  | move (next : Move)
  | other (action : Action (World Record Host) Unit)

namespace Turn

def isCall : Turn Record Host → Bool
  | .call _ => true
  | _ => false

/-- Collaborators keep to their rules. -/
def Proper : Turn Record Host → Prop
  | .call made => made.Proper
  | .move _ => True
  | .other action => ∀ world, Apart world (Action.left (action world))

/-- The world that is left, with or without a fault. -/
def leave (world : World Record Host) : Turn Record Host → World Record Host
  | .call made => Action.left (made.run world)
  | .move next => next.apply world
  | .other action => Action.left (action world)

end Turn

def World.run (world : World Record Host) (turns : List (Turn Record Host)) : World Record Host :=
  turns.foldl Turn.leave world

end Safepoint.Pauses
