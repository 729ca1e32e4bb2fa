import Safepoint.Process

/-!
# Mutators of a collector

What a mutator asks of its collector while it runs: to be attached and detached, and the barriers of
its loads, stores and copies.
-/

namespace Safepoint.Collector

open Publication (Barrier BarrierCounts)

variable {Record Host : Type}

/-- The barriers of a mutator. -/
def barrier (collector : Collector Record Host) (mutator : Mutator) : Barrier Record where
  mutator := mutator.id
  mode := collector.settings.barrierMode
  recorder := collector.recorder

/-- Attaches a thread as a mutator.  The number of the mutator is used up even if that fails. -/
def bind (thread : ThreadId) : Action (Process Record Host) Mutator := do
  let id ← Process.onRoster Roster.giveId
  Process.onRoster (Roster.attach ⟨id, thread⟩)
  return ⟨id, thread⟩

/-- Detaches a mutator for good. -/
def destroy (mutator : Mutator) : Action (Process Record Host) Unit := do
  unless ← Process.onRoster (Roster.detach mutator) do
    throw (.destroyUnbound mutator.id)

/-- The barrier of the write `source.slot := target`. -/
def recordWrite (collector : Collector Record Host) (mutator : Mutator) (source : ObjectRef)
    (slot : Address) (target : ObjectRef) : Action (Process Record Host) Unit :=
  Process.onGuarded mutator.id ((collector.barrier mutator).write source slot target)

/-- The barrier of a copy of `count` references into a part of `array`. -/
def recordCopy (collector : Collector Record Host) (mutator : Mutator)
    (source destination : Address) (count : Word) (array : ObjectRef) :
    Action (Process Record Host) Unit :=
  Process.onGuarded mutator.id ((collector.barrier mutator).copy source destination count array)

/-- The barrier of a load of `target`. -/
def recordRead (collector : Collector Record Host) (mutator : Mutator) (target : ObjectRef) :
    Action (Process Record Host) Unit :=
  Process.onGuarded mutator.id ((collector.barrier mutator).read target)

/-- Makes an object and what it reaches public. -/
def publishObject (collector : Collector Record Host) (mutator : Mutator) (object : ObjectRef) :
    Action (Process Record Host) Unit :=
  Process.onGuarded mutator.id ((collector.barrier mutator).publish object)

/-- Sets the counters of a mutator back to zero. -/
def resetCounts (mutator : Mutator) : Action (Process Record Host) Unit :=
  modify fun process => process.setCounts mutator.id {}

end Safepoint.Collector
