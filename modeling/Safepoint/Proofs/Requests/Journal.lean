import Mathlib.Logic.Relation
import Safepoint.Collector.Pauses
import Safepoint.Collector.Requests

/-!
# A journal of the requests of a process

The statements about collections of single mutators speak of what happened: whose requests were
accepted and in which order, and what the runtime and the sink were asked while which mutators
waited.  A watched process keeps a journal of that beside the outside world, where the collector
does not look.  This file gives the journal, the calls that write it, and what collaborators and
other threads may do in the meantime: anything but meet a fault, ask for collections as well, and
look who waits.
-/

namespace Safepoint.Requests

open Roots (RootSink)

/-- Something worth noting about collections of single mutators. -/
inductive Event where
  /-- A thread looks whether a collection is over. -/
  | look
  /-- The runtime is asked to park the mutator. -/
  | parking (mutator : Mutator)
  /-- The sink hands out a first buffer, with this many slots in it. -/
  | acquired (slots : Nat)
  /-- The sink is given this many slots. -/
  | reported (slots : Nat)
  /-- The runtime is asked to let the mutator run again. -/
  | freed (mutator : Mutator)
  deriving DecidableEq, Repr

/-- What happened, and the process at that time. -/
structure Moment (Record Host : Type) where
  event : Event
  process : Process Record Host

/-- A request that was served. -/
structure Service (Record Host : Type) where
  mutator : Mutator
  /-- The number of roots it was answered with. -/
  roots : Nat
  /-- What happened in the course of it, the latest first. -/
  course : List (Moment Record Host)

/-- The outside world of a watched process. -/
structure Watched (Record Host : Type) where
  inner : Host
  /-- Whose requests were accepted, the oldest first. -/
  accepted : List Mutator := []
  /-- What happened so far, the latest first. -/
  log : List (Moment Record Host) := []
  /-- The requests that were served, the oldest first. -/
  services : List (Service Record Host) := []

/-- A process that is watched. -/
abbrev World (Record Host : Type) : Type := Process Record (Watched Record Host)

variable {Record Host Value Item : Type}

def Moment.status (moment : Moment Record Host) : MutatorId → CollectionStatus :=
  moment.process.status

namespace World

/-- The world at this moment. -/
def moment (event : Event) (world : World Record Host) : Moment Record Host where
  event := event
  process := { world with host := world.host.inner }

/-- All that happened, and what a thread would see that looked now. -/
def moments (world : World Record Host) : List (Moment Record Host) :=
  world.moment .look :: world.host.log

def note (event : Event) (world : World Record Host) : World Record Host :=
  { world with host := { world.host with log := world.moment event :: world.host.log } }

def accept (mutator : Mutator) (world : World Record Host) : World Record Host :=
  { world with host := { world.host with accepted := world.host.accepted ++ [mutator] } }

def complete (service : Service Record Host) (world : World Record Host) : World Record Host :=
  { world with host := { world.host with services := world.host.services ++ [service] } }

/-- A process in which nobody has asked for a collection yet. -/
structure Fresh (world : World Record Host) : Prop where
  inactive : ∀ mutator, world.status mutator = .inactive
  requests_eq : world.requests = []
  accepted_eq : world.host.accepted = []
  log_eq : world.host.log = []
  services_eq : world.host.services = []

end World

/-- Asks for a collection of a mutator. -/
def ask (mutator : Mutator) : Action (World Record Host) Unit := fun world =>
  match Collector.request mutator world with
  | .ok _ after => .ok () (World.accept mutator after)
  | .error fault after => .error fault after

def noting (event : Event) : Action (World Record Host) Unit := fun world =>
  .ok () (world.note event)

/-- The collector, with a note of what its runtime is asked for one mutator. -/
def watch (collector : Collector Record (Watched Record Host)) :
    Collector Record (Watched Record Host) :=
  { collector with
    runtime :=
      { collector.runtime with
        suspendOne := fun mutator =>
          .act (noting (.parking mutator)) fun _ => collector.runtime.suspendOne mutator
        resumeOne := fun mutator => do
          noting (.freed mutator)
          collector.runtime.resumeOne mutator } }

/-- The sink, with a note of the slots it is given and of those it hands out. -/
def watchSink (sink : RootSink (World Record Host)) : RootSink (World Record Host) where
  acquire := do
    let buffer ← sink.acquire
    noting (.acquired buffer.slots.size)
    return buffer
  report buffer := do
    noting (.reported buffer.slots.size)
    sink.report buffer
  release := sink.release

/-- The second world differs neither in its requests nor in its journal. -/
structure Apart (before after : World Record Host) : Prop where
  status_eq : after.status = before.status
  requests_eq : after.requests = before.requests
  host_eq : ∃ inner, after.host = { before.host with inner := inner }

/-- What may happen beside a collection: something else, a look, or a request. -/
inductive Aside : World Record Host → World Record Host → Prop where
  | apart {before after : World Record Host} (apart : Apart before after) : Aside before after
  | look (world : World Record Host) : Aside world (world.note .look)
  /-- A request is made; if it is refused, that is a fault of the thread that made it. -/
  | ask (mutator : Mutator) (world : World Record Host) :
      Aside world (Action.left (ask mutator world))

/-- The world some time later. -/
abbrev Meanwhile : World Record Host → World Record Host → Prop := Relation.ReflTransGen Aside

/-- Code that comes to its end, whatever happens meanwhile. -/
def Gentle (action : Action (World Record Host) Value) : Prop :=
  ∀ world, ∃ value after, action world = .ok value after ∧ Meanwhile world after

inductive GentleReport : Report (World Record Host) Item → Prop where
  | done : GentleReport .done
  | act {step : Action (World Record Host) Unit}
      {next : World Record Host → Report (World Record Host) Item} (gentle : Gentle step)
      (after : ∀ world, GentleReport (next world)) : GentleReport (.act step next)
  | item {item : Item} {next : World Record Host → Report (World Record Host) Item}
      (after : ∀ world, GentleReport (next world)) : GentleReport (.item item next)

/-- The collaborators of a service meet no fault. -/
structure Cooperative (collector : Collector Record (Watched Record Host))
    (sink : RootSink (World Record Host)) : Prop where
  suspendOne : ∀ mutator, GentleReport (collector.runtime.suspendOne mutator)
  scanMutator : ∀ mutator, GentleReport (collector.runtime.scanMutator mutator)
  resumeOne : ∀ mutator, Gentle (collector.runtime.resumeOne mutator)
  acquire : Gentle sink.acquire
  report : ∀ buffer, Gentle (sink.report buffer)
  release : ∀ buffer, Gentle (sink.release buffer)

/-- What happens next: a request, a service, or something else. -/
inductive Turn (Record Host : Type) where
  | request (mutator : Mutator)
  /-- Serves the first request; each service may come with collaborators of its own. -/
  | serve (collector : Collector Record (Watched Record Host))
      (sink : RootSink (World Record Host))
  | other (action : Action (World Record Host) Unit)

namespace Turn

def Proper : Turn Record Host → Prop
  | request _ => True
  | serve collector sink => Cooperative collector sink
  | other action => Gentle action

/-- The world that is left, with or without a fault; a service that returned is noted. -/
def leave (world : World Record Host) : Turn Record Host → World Record Host
  | request mutator => Action.left (ask mutator world)
  | serve collector sink =>
      match (watch collector).serve (watchSink sink) world with
      | .ok (some (mutator, roots)) after =>
          let course := after.host.log.take (after.host.log.length - world.host.log.length)
          World.complete ⟨mutator, roots, course⟩ after
      | .ok none after => after
      | .error _ after => after
  | other action => Action.left (action world)

end Turn

def World.run (world : World Record Host) (turns : List (Turn Record Host)) : World Record Host :=
  turns.foldl Turn.leave world

end Safepoint.Requests
