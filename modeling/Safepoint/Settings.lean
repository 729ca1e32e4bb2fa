import Safepoint.Options.Error
import Safepoint.Publication.Barriers

/-!
# Settings

The settings of a collector are fixed when it starts.  This file gives them with their defaults and
the constraints that span several of them.
-/

namespace Safepoint

open Options (OptionError)
open Publication (BarrierMode granuleSize)

/-- Binary logarithm of the smallest granule, which is one heap word. -/
def minLogGranule : Nat := 3

/-- Binary logarithm of the largest granule. -/
def maxLogGranule : Nat := 12

/-- What a collector is started with. -/
structure Settings where
  /-- Where the checks of barriers stand. -/
  barrierMode : BarrierMode := .inlineChecks
  /-- Binary logarithm of the bytes in a granule. -/
  logGranule : UInt8 := 3
  /-- Where the heap starts. -/
  heapBase : Word := 0x20000000000
  /-- Bytes of heap. -/
  heapSize : Word := 0x10000000
  /-- Capacity of the root buffers that the collector hands out. -/
  rootsCapacity : Word := 4096
  /-- Whether mutators are visited while they are parked, or in one pass afterwards. -/
  visitsWhileParking : Bool := true
  /-- Number of threads that do collection work. -/
  workers : Word
  deriving DecidableEq, Repr

namespace Settings

/-- Bytes in a granule. -/
def granuleBytes (settings : Settings) : Except Fault Word :=
  if settings.logGranule < 64 then .ok (UInt64.ofNat (granuleSize settings.logGranule.toNat))
  else .error .shiftOverflow

/--
The first constraint that the settings break: the granule has a usual size, the heap starts with a
granule, and it ends inside the address space.
-/
def validate (settings : Settings) : Except OptionError Unit :=
  if settings.logGranule.toNat < minLogGranule ∨ maxLogGranule < settings.logGranule.toNat then
    .error (.invalid "log_granule_bytes" (toString settings.logGranule.toNat) .granuleBounds)
  else if settings.heapBase.toNat % granuleSize settings.logGranule.toNat ≠ 0 then
    .error (.invalid "heap_base" (Word.hex settings.heapBase) .heapUnaligned)
  else if Word.count ≤ settings.heapBase.toNat + settings.heapSize.toNat then
    .error (.invalid "heap_size" (Word.decimal settings.heapSize) .heapOverflow)
  else
    .ok ()

theorem validate_eq_ok_iff {settings : Settings} :
    settings.validate = .ok () ↔
      (minLogGranule ≤ settings.logGranule.toNat ∧ settings.logGranule.toNat ≤ maxLogGranule) ∧
        settings.heapBase.toNat % granuleSize settings.logGranule.toNat = 0 ∧
        settings.heapBase.toNat + settings.heapSize.toNat < Word.count := by
  unfold validate
  split
  · rename_i unusual
    exact iff_of_false (by simp) fun valid => by omega
  · split
    · rename_i unaligned
      exact iff_of_false (by simp) fun valid => unaligned valid.2.1
    · split
      · exact iff_of_false (by simp) fun valid => by omega
      · exact iff_of_true rfl (by omega)

end Settings

end Safepoint
