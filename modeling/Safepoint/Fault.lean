import Safepoint.Heap.Address
import Safepoint.Rendezvous.Phase

/-!
# Faults

A fault is a broken rule: the operation that meets it stops where it is, and what it has done so far
stays done.  This file lists the rules by cause and gives the one wording of each.
-/

namespace Safepoint

open Rendezvous (Phase)

/-- Why an operation stopped before its end. -/
inductive Fault where
  /-- A sum does not fit its word. -/
  | addOverflow
  /-- A difference is below zero. -/
  | subtractOverflow
  /-- A product does not fit its word. -/
  | multiplyOverflow
  /-- A shift is as wide as its word or wider. -/
  | shiftOverflow
  /-- A buffer would have more bytes than a signed word counts. -/
  | capacityOverflow
  /-- Eight granules of this size do not fit a word. -/
  | granuleTooLarge (logGranule : UInt8)
  /-- A covered range starts inside a granule. -/
  | unalignedBase (base : Word) (granule : Nat)
  /-- An address to be marked lies outside the covered range. -/
  | markOutside (address : Address)
  /-- A mutator publishes an object outside the covered range. -/
  | publishOutside (mutator : MutatorId) (object : ObjectRef)
  /-- A mutator publishes a private object of another mutator. -/
  | publishForeign (mutator : MutatorId) (description : String)
  /-- A thread that is bound already is bound again. -/
  | boundTwice (thread : ThreadId)
  /-- A mutator that is not attached is destroyed. -/
  | destroyUnbound (mutator : MutatorId)
  /-- A change of phase starts from another phase than it expects. -/
  | phaseMismatch (expected next actual : Phase)
  /-- A mutator that waits for its own collection asks for another. -/
  | alreadyRequested (mutator : MutatorId)
  /-- A mutator that asked for no collection of its own is collected. -/
  | notRequested (mutator : MutatorId)
  /-- A pass over the attached mutators was rearmed without end. -/
  | endlessPass
  /-- Cleaning up after a fault met a fault of its own, which ends the process. -/
  | cleanupFailed
  /-- A collaborator stopped for reasons of its own. -/
  | collaborator (reason : String)
  deriving DecidableEq, Repr

/-- What is said about a fault. -/
def Fault.message : Fault → String
  | addOverflow => "attempt to add with overflow"
  | subtractOverflow => "attempt to subtract with overflow"
  | multiplyOverflow => "attempt to multiply with overflow"
  | shiftOverflow => "attempt to shift left with overflow"
  | capacityOverflow => "capacity overflow"
  | granuleTooLarge logGranule =>
      s!"granule 2^{logGranule.toNat} too large for side metadata"
  | unalignedBase base granule =>
      s!"side metadata base {Word.hex base} is not {granule}-byte aligned"
  | markOutside address => s!"publishing {address.text} outside the side metadata range"
  | publishOutside mutator object =>
      s!"mutator {mutator.text} publishing {object.text} outside the side metadata range"
  | publishForeign mutator description =>
      s!"mutator {mutator.text} publishing {description} it does not own"
  | boundTwice thread => s!"thread {thread.text} bound twice"
  | destroyUnbound mutator => s!"destroying unbound mutator {mutator.text}"
  | phaseMismatch expected next actual =>
      s!"stop-the-world phase {expected.text} -> {next.text} attempted from {actual.text}"
  | alreadyRequested mutator =>
      s!"thread-local collection already requested for {mutator.text}"
  | notRequested mutator => s!"no thread-local collection requested for {mutator.text}"
  | endlessPass => "a pass over the mutators was rearmed without end"
  | cleanupFailed => "failed again while cleaning up"
  | collaborator reason => reason

end Safepoint
