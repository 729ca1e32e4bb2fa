import Safepoint.Process

/-!
# Starting a collector

A collector starts with settings that break no constraint and a bitmap whose granules are those of
the settings and which covers the heap.  This file gives both ways to start one, with a bitmap made
elsewhere and with one made from the settings, and the one collector a process may install for good.
-/

namespace Safepoint

open Options (OptionError)
open Publication (Bitmap Heap)

/-- How a bitmap fails to fit the settings. -/
inductive Mismatch where
  /-- Its granules have another size. -/
  | granule
  /-- It does not cover the heap. -/
  | coverage
  deriving DecidableEq, Repr

/-- The mismatch as it is shown in messages. -/
def Mismatch.text : Mismatch → String
  | granule => "granule size differs"
  | coverage => "heap range not covered"

/-- Why a collector is refused. -/
inductive StartError where
  /-- The process has a collector already. -/
  | alreadyInstalled
  /-- The settings break a constraint. -/
  | settings (refusal : OptionError)
  /-- The bitmap does not fit the settings. -/
  | mismatch (cause : Mismatch)
  deriving DecidableEq, Repr

/-- What is said about a refused collector. -/
def StartError.message : StartError → String
  | alreadyInstalled => "GC handshake already initialized"
  | settings refusal => refusal.message
  | mismatch cause => s!"side metadata does not match the configured heap: {cause.text}"

/-- How starting a collector can fail. -/
inductive StartFailure where
  | fault (fault : Fault)
  | refused (error : StartError)
  deriving DecidableEq, Repr

/-- Whether settings and bitmap fit together. -/
def checkStart (settings : Settings) (bitmap : Bitmap) : Except StartFailure Unit :=
  match settings.validate with
  | .error refusal => .error (.refused (.settings refusal))
  | .ok _ =>
      match settings.granuleBytes with
      | .error fault => .error (.fault fault)
      | .ok granule =>
          if bitmap.granule ≠ granule.toNat then
            .error (.refused (.mismatch .granule))
          else
            match Word.add? settings.heapBase (settings.heapSize - min settings.heapSize 1) with
            | none => .error (.fault .addOverflow)
            | some last =>
                if bitmap.contains ⟨settings.heapBase⟩ && bitmap.contains ⟨last⟩ then .ok ()
                else .error (.refused (.mismatch .coverage))

namespace Collector

variable {Record Host : Type}

/-- Starts a collector on a heap that it is given. -/
def start (collector : Collector Record Host) (heap : Heap Record) (host : Host) :
    Except StartFailure (Process Record Host) :=
  match checkStart collector.settings heap.bitmap with
  | .error failure => .error failure
  | .ok _ => .ok { heap := heap, host := host }

/-- Starts a collector on a heap whose bitmap is made from its settings. -/
def startFresh (collector : Collector Record Host) (memory : Memory) (objects : ObjectModel)
    (record : Record) (host : Host) : Except StartFailure (Process Record Host) :=
  match collector.settings.validate with
  | .error refusal => .error (.refused (.settings refusal))
  | .ok _ =>
      match Bitmap.new collector.settings.heapBase collector.settings.heapSize
          collector.settings.logGranule with
      | .error fault => .error (.fault fault)
      | .ok bitmap =>
          collector.start
            { bitmap := bitmap
              memory := memory
              objects := objects
              record := record } host

end Collector

/-- What a process has installed for good, if anything. -/
structure Installed (Instance : Type) where
  current : Option Instance := none

namespace Installed

/-- Installs an instance where none is installed. -/
def install {Instance : Type} (candidate : Instance) :
    EStateM StartError (Installed Instance) Unit := fun installed =>
  match installed.current with
  | some _ => .error .alreadyInstalled installed
  | none => .ok () { current := some candidate }

end Installed

end Safepoint
