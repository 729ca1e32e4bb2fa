/-!
# Phases of a pause

A pause of the whole world goes through four phases in a ring.  This file names them; which change
from which is the business of `Safepoint.Rendezvous.State`.
-/

namespace Safepoint.Rendezvous

/-- How far a pause has come. -/
inductive Phase where
  /-- Mutators run and no pause is under way. -/
  | running
  /-- A pause is asked for and the runtime is parking mutators. -/
  | requestingSuspend
  /-- Every mutator is parked. -/
  | suspended
  /-- The runtime is letting mutators run again. -/
  | resuming
  deriving DecidableEq, Repr

namespace Phase

/-- The phase as it is shown in messages. -/
def text : Phase → String
  | running => "Running"
  | requestingSuspend => "RequestingSuspend"
  | suspended => "Suspended"
  | resuming => "Resuming"

/-- The phase stored as a byte; a byte that stores none is read as running. -/
def ofByte (byte : UInt8) : Phase :=
  if byte = 1 then requestingSuspend
  else if byte = 2 then suspended
  else if byte = 3 then resuming
  else running

/-- The byte that stores a phase. -/
def toByte : Phase → UInt8
  | running => 0
  | requestingSuspend => 1
  | suspended => 2
  | resuming => 3

@[simp]
theorem ofByte_toByte (phase : Phase) : ofByte phase.toByte = phase := by
  cases phase <;> rfl

end Phase

end Safepoint.Rendezvous
