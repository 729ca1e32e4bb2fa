import Safepoint.Process

/-!
# Threads and references of a collector

The collector asks the runtime for one controlling thread and a number of workers, and hands it the
references that a collection found.
-/

namespace Safepoint.Collector

variable {Record Host : Type}

/-- Asks for `count` workers with numbers from `ordinal` on. -/
def spawnWorkers (collector : Collector Record Host)
    (body : CollectorThread → Action (Process Record Host) Unit) : (count ordinal : Nat) →
    Action (Process Record Host) Unit
  | 0, _ => pure ()
  | count + 1, ordinal => do
      let thread : CollectorThread := ⟨.worker, UInt64.ofNat ordinal⟩
      collector.runtime.spawn thread (body thread)
      spawnWorkers collector body count (ordinal + 1)

/-- Asks for the controlling thread and the workers of the settings. -/
def spawnThreads (collector : Collector Record Host)
    (body : CollectorThread → Action (Process Record Host) Unit) :
    Action (Process Record Host) Unit := do
  let controller : CollectorThread := ⟨.controller, 0⟩
  collector.runtime.spawn controller (body controller)
  spawnWorkers collector body collector.settings.workers.toNat 0

/-- Hands references to the runtime and wakes their handler, unless there are none. -/
def enqueueReferences (collector : Collector Record Host) (references : List ObjectRef) :
    Action (Process Record Host) Unit := do
  if references.isEmpty then
    return
  collector.runtime.enqueue references
  collector.runtime.wakeFinalizer

end Safepoint.Collector
