import Safepoint.Heap.Memory
import Safepoint.Publication.Bitmap

/-!
# Publishing what an object reaches

To publish an object is to publish everything private that it reaches, and the bitmap itself is
the set of objects visited: an object is marked when it is first met and its slots are scanned
once, later.  This file gives the heap that is published in, the walk over the objects still to be
scanned, and the counters of published objects and bytes.  The walk ends on every heap, because
whatever becomes an object to scan uses up a clear mark of the bitmap; `publishSlots_balance` is
that account.
-/

namespace Safepoint.Publication

/-- The managed heap as the collector sees it, with what a recorder keeps in `Record`. -/
structure Heap (Record : Type) where
  /-- Which objects are public. -/
  bitmap : Bitmap
  /-- Contents of the reference slots. -/
  memory : Memory
  /-- The runtime's account of its objects. -/
  objects : ObjectModel
  /-- What the recorder of barriers keeps. -/
  record : Record

/-- Objects and bytes published since the process started; both counters wrap. -/
structure Published where
  objects : Word := 0
  bytes : Word := 0
  deriving DecidableEq, Repr

/-- Objects scanned by one publication so far. -/
structure Tally where
  objects : Nat := 0
  bytes : Word := 0
  deriving DecidableEq, Repr

/--
Publishes one object for a mutator and answers whether it was private.  Null and public objects are
left alone; an object outside the covered range and a private object of another mutator are refused.
-/
def publishOne (objects : ObjectModel) (mutator : MutatorId) (object : ObjectRef) :
    Action Bitmap Bool := fun bitmap =>
  if object = .null then
    .ok false bitmap
  else if bitmap.contains object.address then
    if bitmap.isPublic object.address then
      .ok false bitmap
    else if objects.mayPublish mutator object then
      bitmap.markPublic object.address
    else
      .error (.publishForeign mutator (objects.describe object)) bitmap
  else
    .error (.publishOutside mutator object) bitmap

/--
Publishes the objects that the slots refer to; those that were private join the objects still to be
scanned.
-/
def publishSlots (memory : Memory) (objects : ObjectModel) (mutator : MutatorId) :
    List Address → List ObjectRef → Action Bitmap (List ObjectRef)
  | [], waiting => fun bitmap => .ok waiting bitmap
  | slot :: slots, waiting => fun bitmap =>
      match publishOne objects mutator (memory.load slot) bitmap with
      | .ok true after =>
          publishSlots memory objects mutator slots (memory.load slot :: waiting) after
      | .ok false after => publishSlots memory objects mutator slots waiting after
      | .error fault after => .error fault after

theorem publishOne_true {objects : ObjectModel} {mutator : MutatorId} {object : ObjectRef}
    {before after : Bitmap}
    (published : publishOne objects mutator object before = .ok true after) :
    after.clearCount + 1 = before.clearCount := by
  simp only [publishOne] at published
  split at published
  · cases published
  · split at published
    · split at published
      · cases published
      · rename_i private_before
        split at published
        · rw [Bitmap.markPublic] at published
          split at published
          · rename_i covered
            rw [if_neg (by simpa [Bitmap.isPublic] using private_before)] at published
            cases published
            exact Bitmap.clearCount_setMark covered
              (by simpa [Bitmap.isPublic] using private_before)
          · cases published
        · cases published
    · cases published

theorem publishOne_false {objects : ObjectModel} {mutator : MutatorId} {object : ObjectRef}
    {before after : Bitmap} (kept : publishOne objects mutator object before = .ok false after) :
    after = before := by
  simp only [publishOne] at kept
  split at kept
  · cases kept
    rfl
  · split at kept
    · split at kept
      · cases kept
        rfl
      · split at kept
        · rw [Bitmap.markPublic] at kept
          split at kept
          · split at kept
            · cases kept
              rfl
            · cases kept
          · cases kept
        · cases kept
    · cases kept

/-- Every object that starts to wait uses up one clear mark. -/
theorem publishSlots_balance {memory : Memory} {objects : ObjectModel} {mutator : MutatorId}
    {slots : List Address} {waiting after_waiting : List ObjectRef} {before after : Bitmap}
    (scanned : publishSlots memory objects mutator slots waiting before =
      .ok after_waiting after) :
    after.clearCount + after_waiting.length = before.clearCount + waiting.length := by
  induction slots generalizing waiting before with
  | nil =>
      cases scanned
      rfl
  | cons slot slots ih =>
      simp only [publishSlots] at scanned
      split at scanned
      · rename_i middle published
        have marked := publishOne_true published
        have rest := ih scanned
        simp only [List.length_cons] at rest
        omega
      · rename_i middle kept
        rw [publishOne_false kept] at scanned
        exact ih scanned
      · cases scanned

/--
Scans the waiting objects, the newest first, until none is left, and counts them.  Their children
are published before they are scanned themselves.
-/
def scanWaiting (memory : Memory) (objects : ObjectModel) (mutator : MutatorId)
    (waiting : List ObjectRef) (tally : Tally) (bitmap : Bitmap) : Ending Bitmap Tally :=
  match waiting with
  | [] => .ok tally bitmap
  | object :: waiting =>
      match Word.add? tally.bytes (objects.size object) with
      | none => .error .addOverflow bitmap
      | some bytes =>
          match scanned :
              publishSlots memory objects mutator (objects.slots object) waiting bitmap with
          | .ok waiting after =>
              scanWaiting memory objects mutator waiting ⟨tally.objects + 1, bytes⟩ after
          | .error fault after => .error fault after
termination_by bitmap.clearCount + waiting.length
decreasing_by
  have balance := publishSlots_balance scanned
  simp only [List.length_cons]
  omega

/-- Publishes everything private that `root` reaches, without counting it in the long run. -/
def publishReach (memory : Memory) (objects : ObjectModel) (mutator : MutatorId)
    (root : ObjectRef) : Action Bitmap Tally := fun bitmap =>
  match publishOne objects mutator root bitmap with
  | .ok true after => scanWaiting memory objects mutator [root] {} after
  | .ok false after => .ok {} after
  | .error fault after => .error fault after

namespace Heap

/--
Publishes `root` and everything private that it reaches, and answers how many objects that were.
The counters change only if the walk comes to its end.
-/
def publishClosure (mutator : MutatorId) (root : ObjectRef) : Action (Heap Published) Nat :=
    fun heap =>
  match publishReach heap.memory heap.objects mutator root heap.bitmap with
  | .ok tally bitmap =>
      .ok tally.objects
        { heap with
          bitmap := bitmap
          record :=
            { objects := heap.record.objects + UInt64.ofNat tally.objects
              bytes := heap.record.bytes + tally.bytes } }
  | .error fault bitmap => .error fault { heap with bitmap := bitmap }

end Heap

end Safepoint.Publication
