import Safepoint.Heap.Address

/-!
# Memory and objects

The collector reads reference slots and asks the runtime about objects.  This file gives the memory
of reference slots, the runtime's account of its objects, and ranges of addresses.  The central
statements are the two laws of loading after storing.
-/

namespace Safepoint

/-- The references held by the slots of the address space. -/
structure Memory where
  load : Address → ObjectRef

namespace Memory

/-- The memory in which every slot is null. -/
def zeroed : Memory where
  load _ := .null

/-- The memory with another reference in one slot. -/
def store (memory : Memory) (slot : Address) (value : ObjectRef) : Memory where
  load other := if other = slot then value else memory.load other

@[simp]
theorem load_store_self (memory : Memory) (slot : Address) (value : ObjectRef) :
    (memory.store slot value).load slot = value := by
  simp [store]

theorem load_store_of_ne {memory : Memory} {slot other : Address} {value : ObjectRef}
    (other_ne : other ≠ slot) : (memory.store slot value).load other = memory.load other := by
  simp [store, other_ne]

end Memory

/-- What the runtime knows about its objects. -/
structure ObjectModel where
  size : ObjectRef → Word
  /-- Reference slots of an object, in the order in which they are scanned. -/
  slots : ObjectRef → List Address
  /-- The mutator that allocated an object, if the runtime keeps track. -/
  owner : ObjectRef → Option MutatorId
  /-- An object described for a message. -/
  describe : ObjectRef → String

/-- Whether a mutator may publish an object: it owns the object or nobody does. -/
def ObjectModel.mayPublish (objects : ObjectModel) (mutator : MutatorId) (object : ObjectRef) :
    Bool :=
  match objects.owner object with
  | none => true
  | some owner => owner = mutator

/-- The addresses from `first` up to but not including `past`. -/
structure AddressRange where
  first : Address
  /-- The first address after the range. -/
  past : Address
  deriving DecidableEq, Repr

/-- The range as it is shown in messages. -/
def AddressRange.text (range : AddressRange) : String :=
  range.first.text ++ ".." ++ range.past.text

end Safepoint
