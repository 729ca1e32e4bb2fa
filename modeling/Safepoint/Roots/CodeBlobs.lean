import Safepoint.Action
import Safepoint.Table

/-!
# Root slots in compiled code

Compiled code holds references of its own.  The runtime registers the slots of each blob of code
when it installs it.  A blob is in the nursery until the first scan after its registration and
mature from then on; a scan of the nursery alone leaves mature blobs out.  This file gives the
blobs and what registering, forgetting and scanning do to them.  While a scan runs nobody else has
access.
-/

namespace Safepoint.Roots

/-- The slots of every installed blob of code. -/
structure CodeBlobs where
  /-- Blobs that no scan has seen. -/
  nursery : Table Address (List Address) := .empty
  /-- Blobs that a scan has seen. -/
  mature : Table Address (List Address) := .empty
  /-- Number of slots in all blobs. -/
  slotCount : Nat := 0

namespace CodeBlobs

/-- Number of slots in the blob at an address, which is zero if there is none. -/
def recorded (table : Table Address (List Address)) (code : Address) : Nat :=
  ((table.get? code).map List.length).getD 0

/-- Number of registered blobs. -/
def size (blobs : CodeBlobs) : Nat := blobs.mature.size + blobs.nursery.size

/-- Takes a blob away, wherever it is, and answers how many slots it had. -/
def take (code : Address) : Action CodeBlobs Nat := fun blobs =>
  .ok (recorded blobs.mature code + recorded blobs.nursery code)
    { blobs with
      mature := blobs.mature.erase code
      nursery := blobs.nursery.erase code }

/-- Counts fewer slots. -/
def countOff (slots : Nat) : Action CodeBlobs Unit := fun blobs =>
  if slots ≤ blobs.slotCount then .ok () { blobs with slotCount := blobs.slotCount - slots }
  else .error .subtractOverflow blobs

/--
Registers the slots of a new blob in the nursery; what was registered for its address is forgotten.
A blob without slots is not registered.
-/
def register (code : Address) (slots : List Address) : Action CodeBlobs Unit := fun blobs =>
  if slots.isEmpty then
    .ok () blobs
  else
    match (take code >>= countOff) blobs with
    | .error fault after => .error fault { after with slotCount := blobs.slotCount }
    | .ok _ after =>
        if after.slotCount + slots.length < Word.count then
          .ok ()
            { after with
              nursery := after.nursery.insert code slots
              slotCount := after.slotCount + slots.length }
        else
          .error .addOverflow { after with slotCount := blobs.slotCount }

/-- Forgets a blob and answers how many slots it had. -/
def unregister (code : Address) : Action CodeBlobs Nat := do
  let slots ← take code
  countOff slots
  return slots

/-- Visits a row of slots in order. -/
def visitSlots {State : Type} (visit : Address → Action State Unit) :
    List Address → Action State Unit
  | [] => fun state => .ok () state
  | slot :: rest => fun state =>
      match visit slot state with
      | .ok _ after => visitSlots visit rest after
      | .error fault after => .error fault after

/--
Visits the blobs that are taken out of the nursery, one after another, and puts each among the
mature ones once all its slots are visited.  A fault loses the blob under visit and those after
it.
-/
def promote {State : Type} (visit : Address → Action State Unit) :
    List (Address × List Address) → Action (CodeBlobs × State) Nat
  | [] => fun state => .ok 0 state
  | (code, slots) :: rest => fun (blobs, state) =>
      match visitSlots visit slots state with
      | .error fault after => .error fault (blobs, after)
      | .ok _ after =>
          let promoted := { blobs with mature := blobs.mature.insert code slots }
          match promote visit rest (promoted, after) with
          | .ok count end_state => .ok (slots.length + count) end_state
          | .error fault end_state => .error fault end_state

/--
Visits the slots of all mature blobs, unless only the nursery is asked for, then those of the
nursery, whose blobs are mature afterwards.  Answers how many slots were visited.
-/
def scan {State : Type} (nurseryOnly : Bool) (visit : Address → Action State Unit) :
    Action (CodeBlobs × State) Nat := fun (blobs, state) =>
  let mature := if nurseryOnly then [] else blobs.mature.values.flatten
  match visitSlots visit mature state with
  | .error fault after => .error fault (blobs, after)
  | .ok _ after =>
      match promote visit blobs.nursery.entries ({ blobs with nursery := .empty }, after) with
      | .ok count end_state => .ok (count + mature.length) end_state
      | .error fault end_state => .error fault end_state

end CodeBlobs

end Safepoint.Roots
