/-!
# Running out of memory

The heap may be full, which the program can handle, or the operating system may have no memory to
give, which ends the process with a diagnostic.
-/

namespace Safepoint

/-- What there is no more of. -/
inductive Exhaustion where
  /-- Room in the managed heap. -/
  | heap
  /-- Memory of the operating system. -/
  | allocator
  deriving DecidableEq, Repr

namespace Exhaustion

/-- Whether the process cannot go on. -/
def isFatal : Exhaustion → Bool
  | heap => false
  | allocator => true

/-- What is said about it. -/
def message : Exhaustion → String
  | heap => "managed heap exhausted"
  | allocator => "allocator could not obtain memory from the operating system"

/-- Its short name in messages. -/
def text : Exhaustion → String
  | heap => "HeapExhausted"
  | allocator => "AllocatorResourceExhausted"

/-- The diagnostic with which reporting it ends the process, if it does. -/
def lastWords (exhaustion : Exhaustion) : Option String :=
  if exhaustion.isFatal then some s!"otter-gc: fatal: {exhaustion.message}\n" else none

end Exhaustion

end Safepoint
