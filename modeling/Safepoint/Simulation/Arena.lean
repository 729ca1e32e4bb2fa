import Safepoint.Heap.Memory
import Safepoint.Table

/-!
# Memory and objects of a scripted world

A scripted world has a small arena of reference slots, and objects by declaration: an object has a
size, slots and an owner as declared, and what is not declared has nothing of all that.
-/

namespace Safepoint.Simulation

/-- Where the arena starts. -/
def arenaBase : Nat := 0x20000000000

/-- Bytes in a word of the arena. -/
def arenaWord : Nat := 8

/-- Words in the arena. -/
def arenaWords : Nat := 8192

/-- Whether an address is that of a word of the arena. -/
def isMapped (slot : Address) : Bool :=
  decide (arenaBase ≤ slot.toNat) && decide (slot.toNat < arenaBase + arenaWords * arenaWord) &&
    decide (slot.toNat % arenaWord = 0)

/-- Whether `count` words from an address on are words of the arena. -/
def areMapped (first : Address) (count : Word) : Bool :=
  decide (count = 0) ||
    (isMapped first &&
      decide (first.toNat + count.toNat * arenaWord ≤ arenaBase + arenaWords * arenaWord))

/-- An object as declared. -/
structure Declared where
  size : Word
  slots : List Address
  owner : Option MutatorId

/-- The account of declared objects; owners may be left out of it. -/
def declaredObjects (declared : Table ObjectRef Declared) (owners : Bool) : ObjectModel where
  size object := ((declared.get? object).map Declared.size).getD 0
  slots object := ((declared.get? object).map Declared.slots).getD []
  owner object := if owners then (declared.get? object).bind Declared.owner else none
  describe object :=
    let slots := ((declared.get? object).map Declared.slots).getD []
    s!"{object.text} with {slots.length} slots"

end Safepoint.Simulation
