import Mathlib.Algebra.BigOperators.Group.List.Basic
import Safepoint.Proofs.Publication.GranuleSet
import Safepoint.Proofs.Publication.Operations
import Safepoint.Proofs.Vacant

/-!
# The accounts of publications

Nothing is asked of a heap that is published in: it may be cyclic, its references may lead nowhere
and may share granules.  All the same a publication takes an object off its worklist only for a
granule that it made public, so it ends after as many turns as there are private granules at most,
and the number it answers is that of the granules.  A publication that meets a fault has made
granules public, too, but counts none of them.  `Run.account` states both: the next publication of
any run is exact, and the counter of published objects is the number of granules that ever became
public, less those of the publications that met a fault.
-/

namespace Safepoint.Publication

open Heap (Walk)

namespace Bitmap

/-- The covered granules without a mark. -/
def privateGranules (bitmap : Bitmap) : Set Nat :=
  {number | bitmap.CoversGranule number} \ bitmap.publicGranules

/-- The granules that are public in the second bitmap and not in the first. -/
def opened (before after : Bitmap) : Set Nat := after.publicGranules \ before.publicGranules

theorem finite_privateGranules (bitmap : Bitmap) : bitmap.privateGranules.Finite := by
  refine Set.Finite.sdiff (((Set.finite_lt_nat (bitmap.base.toNat + bitmap.size.toNat)).image
    bitmap.granuleOf).subset ?_)
  rintro number ⟨place, rfl, covered⟩
  exact ⟨place, covered.2, rfl⟩

end Bitmap

namespace Publishes

variable {before after : Bitmap} {objects : ObjectModel} {mutator : MutatorId}
variable {found : List ObjectRef}

/-- What became public are the granules of the objects. -/
theorem opened_eq (publishes : Publishes objects mutator before found after) :
    before.opened after = before.home '' {object | object ∈ found} := by
  rw [Bitmap.opened, publishes.publicGranules_eq, Set.union_sdiff_left]
  refine sdiff_eq_left.mpr (Set.disjoint_left.mpr ?_)
  rintro number ⟨object, object_mem, rfl⟩ was_public
  have contained := (publishes.publishable object object_mem).1
  have object_public := Bitmap.isPublic_iff.mpr ⟨contained, was_public⟩
  simp [(publishes.wasPrivate object object_mem).2] at object_public

theorem ncard_opened (publishes : Publishes objects mutator before found after) :
    (before.opened after).ncard = found.length := by
  have homes_eq : before.home '' {object | object ∈ found} = (found.map before.home).toFinset := by
    ext number
    simp
  rw [publishes.opened_eq, homes_eq, Set.ncard_coe_finset,
    List.toFinset_card_of_nodup publishes.homes_nodup, List.length_map]

theorem opened_subset (publishes : Publishes objects mutator before found after) :
    before.opened after ⊆ before.privateGranules := by
  intro number opened
  refine ⟨?_, opened.2⟩
  rw [publishes.opened_eq] at opened
  obtain ⟨object, object_mem, rfl⟩ := opened
  have contained := (publishes.publishable object object_mem).1
  exact ⟨object.address.toNat, rfl, by simpa [Bitmap.contains] using contained⟩

/-- No more became public than was private. -/
theorem length_le (publishes : Publishes objects mutator before found after) :
    found.length ≤ before.privateGranules.ncard := by
  rw [← publishes.ncard_opened]
  exact Set.ncard_le_ncard publishes.opened_subset before.finite_privateGranules

end Publishes

section Turns

variable (memory : Memory) (objects : ObjectModel) (mutator : MutatorId)

/-- The walk over the waiting objects takes this many of them off its list, and ends so. -/
inductive Scans : List ObjectRef → Tally → Bitmap → Nat → Ending Bitmap Tally → Prop where
  | finished {tally : Tally} {bitmap : Bitmap} : Scans [] tally bitmap 0 (.ok tally bitmap)
  /-- The object is taken off, and its size does not fit the tally. -/
  | overflowed {object : ObjectRef} {waiting : List ObjectRef} {tally : Tally} {bitmap : Bitmap}
      (overflows : Word.add? tally.bytes (objects.size object) = none) :
      Scans (object :: waiting) tally bitmap 1 (.error .addOverflow bitmap)
  /-- The object is taken off, and what one of its slots holds is refused. -/
  | refused {object : ObjectRef} {waiting : List ObjectRef} {tally : Tally}
      {bitmap after : Bitmap} {bytes : Word} {fault : Fault}
      (sum_eq : Word.add? tally.bytes (objects.size object) = some bytes)
      (stopped : publishSlots memory objects mutator (objects.slots object) waiting bitmap =
        .error fault after) :
      Scans (object :: waiting) tally bitmap 1 (.error fault after)
  /-- The object is taken off and scanned, and the walk goes on. -/
  | scanned {object : ObjectRef} {waiting reached : List ObjectRef} {tally : Tally}
      {bitmap after : Bitmap} {bytes : Word} {taken : Nat} {ending : Ending Bitmap Tally}
      (sum_eq : Word.add? tally.bytes (objects.size object) = some bytes)
      (passed : publishSlots memory objects mutator (objects.slots object) waiting bitmap =
        .ok reached after)
      (rest : Scans reached ⟨tally.objects + 1, bytes⟩ after taken ending) :
      Scans (object :: waiting) tally bitmap (taken + 1) ending

/-- The publication of a root takes this many objects off its worklist, and ends so. -/
inductive Turns (root : ObjectRef) (bitmap : Bitmap) : Nat → Ending Bitmap Tally → Prop where
  /-- There is nothing to publish. -/
  | settled {after : Bitmap} (kept : publishOne objects mutator root bitmap = .ok false after) :
      Turns root bitmap 0 (.ok {} after)
  | refused {fault : Fault} {after : Bitmap}
      (stopped : publishOne objects mutator root bitmap = .error fault after) :
      Turns root bitmap 0 (.error fault after)
  /-- The root is the first object on the worklist. -/
  | walked {started : Bitmap} {taken : Nat} {ending : Ending Bitmap Tally}
      (marked : publishOne objects mutator root bitmap = .ok true started)
      (scans : Scans memory objects mutator [root] {} started taken ending) :
      Turns root bitmap taken ending

end Turns

variable {heap : Heap Published} {mutator : MutatorId} {root : ObjectRef}

/--
A walk under way ends after finitely many turns; with those before, they are no more than the
objects that became public since its start.
-/
theorem exists_scans (tally : Tally) {done waiting : List ObjectRef} {bitmap : Bitmap}
    (walk : Walk heap mutator root done waiting bitmap) :
    ∃ taken found,
      Scans heap.memory heap.objects mutator waiting tally bitmap taken
        (scanWaiting heap.memory heap.objects mutator waiting tally bitmap) ∧
      Publishes heap.objects mutator heap.bitmap found
        (Action.left (scanWaiting heap.memory heap.objects mutator waiting tally bitmap)) ∧
      done.length + taken ≤ found.length := by
  fun_induction scanWaiting heap.memory heap.objects mutator waiting tally bitmap
    generalizing done with
  | case1 tally bitmap => exact ⟨0, done, .finished, walk.publishes, Nat.le_refl _⟩
  | case2 tally bitmap object waiting overflows =>
      refine ⟨1, _, .overflowed overflows, walk.publishes, ?_⟩
      simp only [List.length_append, List.length_cons]
      omega
  | case3 tally bitmap object waiting bytes sum_eq reached after passed ih =>
      have ends := publishSlots_end heap.memory (heap.objects.slots object) waiting walk.publishes
      have scanned := passed
      rw [scanned] at ends
      cases ends with
      | finished fresh publishes referred settled =>
          obtain ⟨taken, found, rest, publishes_rest, length_le⟩ :=
            ih (walk.scan publishes referred settled)
          rw [List.length_cons] at length_le
          exact ⟨taken + 1, found, .scanned sum_eq passed rest, publishes_rest, by omega⟩
  | case4 tally bitmap object waiting bytes sum_eq fault after stopped =>
      have ends := publishSlots_end heap.memory (heap.objects.slots object) waiting walk.publishes
      have refused := stopped
      rw [refused] at ends
      cases ends with
      | refused fresh publishes =>
          refine ⟨1, _, .refused sum_eq stopped, publishes, ?_⟩
          simp only [List.length_append, List.length_cons]
          omega

/-- A publication ends after no more turns than granules became public by its end. -/
theorem exists_turns (heap : Heap Published) (mutator : MutatorId) (root : ObjectRef) :
    ∃ taken found,
      Turns heap.memory heap.objects mutator root heap.bitmap taken
        (publishReach heap.memory heap.objects mutator root heap.bitmap) ∧
      Publishes heap.objects mutator heap.bitmap found
        (Action.left (publishReach heap.memory heap.objects mutator root heap.bitmap)) ∧
      taken ≤ found.length := by
  by_cases root_private : heap.bitmap.IsPrivate root
  · by_cases publishable : heap.bitmap.Publishable heap.objects mutator root
    · obtain ⟨covered, marked⟩ := publishOne_of_private root_private publishable
      obtain ⟨taken, found, scans, publishes, length_le⟩ :=
        exists_scans {} (.start root_private publishable covered)
      simp only [publishReach, marked]
      exact ⟨taken, found, .walked marked scans, publishes, by simpa using length_le⟩
    · have stopped := publishOne_of_refused root_private publishable
      simp only [publishReach, stopped]
      exact ⟨0, [], .refused stopped, .nil _, Nat.le_refl _⟩
  · have kept : publishOne heap.objects mutator root heap.bitmap = .ok false heap.bitmap :=
      publishOne_of_not_private root_private
    simp only [publishReach, kept]
    exact ⟨0, [], .settled kept, .nil _, Nat.le_refl _⟩

namespace Heap

variable {after : Heap Published} {count : Nat} {fault : Fault}

/-- A publication that meets a fault counts nothing. -/
theorem record_of_publishClosure_error
    (ended : heap.publishClosure mutator root = .error fault after) :
    after.record = heap.record := by
  unfold publishClosure at ended
  split at ended
  · cases ended
  · cases ended
    rfl

/-- What a publication does that comes to its end, whatever the heap. -/
structure Counts (heap : Heap Published) (count : Nat) (after : Heap Published) : Prop where
  ncard_opened : (heap.bitmap.opened after.bitmap).ncard = count
  publicCount_eq : after.bitmap.publicCount = heap.bitmap.publicCount + count
  record_eq : after.record.objects = heap.record.objects + UInt64.ofNat count

theorem counts_of_publishClosure (ended : heap.publishClosure mutator root = .ok count after) :
    heap.Counts count after := by
  by_cases root_private : heap.bitmap.IsPrivate root
  · obtain ⟨found, tally, walk, counts, rfl, record_eq, -⟩ :=
      walk_of_publishClosure root_private ended
    have publishes := walk.publishes
    rw [List.nil_append] at publishes
    refine ⟨?_, ?_, ?_⟩
    · rw [publishes.ncard_opened, counts.objects_eq]
    · rw [publishes.publicCount_eq, counts.objects_eq]
    · rw [record_eq]
  · rw [publishClosure_of_not_private root_private] at ended
    cases ended
    exact ⟨by simp [Bitmap.opened], rfl, by simp⟩

/-- A publication is exact, whatever the heap. -/
structure Exact (heap : Heap Published) (mutator : MutatorId) (root : ObjectRef) : Prop where
  /-- It ends, and takes no more objects off its worklist than granules were private. -/
  ends : ∃ taken ≤ heap.bitmap.privateGranules.ncard,
    Turns heap.memory heap.objects mutator root heap.bitmap taken
      (publishReach heap.memory heap.objects mutator root heap.bitmap)
  /-- If it returns, it answers how many granules it made public. -/
  returned : ∀ count after, heap.publishClosure mutator root = .ok count after →
    heap.Counts count after
  /-- Whether or not it returns, what it made public holds a reference that the root reaches. -/
  reached : ∀ number ∈
      heap.bitmap.opened (Action.left (heap.publishClosure mutator root)).bitmap,
    ∃ object, heap.Reaches root object ∧ object ≠ .null ∧
      heap.bitmap.contains object.address = true ∧ heap.bitmap.home object = number

theorem exact (heap : Heap Published) (mutator : MutatorId) (root : ObjectRef) :
    heap.Exact mutator root where
  ends := by
    obtain ⟨taken, found, turns, publishes, taken_le⟩ := exists_turns heap mutator root
    exact ⟨taken, taken_le.trans publishes.length_le, turns⟩
  returned _ _ := counts_of_publishClosure
  reached := by
    obtain ⟨found, opens⟩ := opens_of_publishClosure heap mutator root
    rw [opens.publishes.opened_eq]
    rintro number ⟨object, object_mem, rfl⟩
    exact ⟨object, opens.reached object object_mem,
      (opens.publishes.wasPrivate object object_mem).1,
      (opens.publishes.publishable object object_mem).1, rfl⟩

end Heap

/-- A publication that was performed. -/
structure Attempt where
  /-- The heap when it began. -/
  heap : Heap Published
  mutator : MutatorId
  root : ObjectRef

namespace Attempt

def ending (attempt : Attempt) : Ending (Heap Published) Nat :=
  attempt.heap.publishClosure attempt.mutator attempt.root

/-- The heap that it left, with or without a fault. -/
def left (attempt : Attempt) : Heap Published := Action.left attempt.ending

/-- Whether it met a fault. -/
def failed (attempt : Attempt) : Bool := (Action.stop? attempt.ending).isSome

/-- How many granules it made public, by its end or by its fault. -/
noncomputable def flips (attempt : Attempt) : Nat :=
  (attempt.heap.bitmap.opened attempt.left.bitmap).ncard

theorem publicCount_left (attempt : Attempt) :
    attempt.left.bitmap.publicCount = attempt.heap.bitmap.publicCount + attempt.flips := by
  obtain ⟨found, opens⟩ :=
    Heap.opens_of_publishClosure attempt.heap attempt.mutator attempt.root
  rw [flips, left, ending, opens.publishes.publicCount_eq, opens.publishes.ncard_opened]

end Attempt

/-- The granules that some publications made public, one after the other. -/
noncomputable def flipsOf (attempts : List Attempt) : Nat := (attempts.map Attempt.flips).sum

/-- The publications among them that met a fault. -/
def failedOf (attempts : List Attempt) : List Attempt := attempts.filter Attempt.failed

theorem flipsOf_append (earlier later : List Attempt) :
    flipsOf (earlier ++ later) = flipsOf earlier + flipsOf later := by
  simp [flipsOf]

/-- What one publication adds to the counter, and what its fault withholds. -/
theorem Attempt.balance (attempt : Attempt) :
    attempt.left.record.objects + UInt64.ofNat (flipsOf (failedOf [attempt])) =
      attempt.heap.record.objects + UInt64.ofNat (flipsOf [attempt]) := by
  cases ended : attempt.ending with
  | ok count after =>
      have counts := Heap.counts_of_publishClosure ended
      have none_failed : failedOf [attempt] = [] := by
        simp [failedOf, failed, ended, Action.stop?]
      have flips_eq : attempt.flips = count := by
        rw [flips, left, ended, Action.left, counts.ncard_opened]
      rw [none_failed, left, ended, Action.left, counts.record_eq]
      simp [flipsOf, flips_eq]
  | error fault after =>
      have all_failed : failedOf [attempt] = [attempt] := by
        simp [failedOf, failed, ended, Action.stop?]
      have record_eq := Heap.record_of_publishClosure_error ended
      rw [all_failed, left, ended, Action.left, record_eq]

/--
A run in which only publications set marks: these were performed, one after the other, and whatever
happened in between let the counters alone and made nothing public.
-/
inductive Run (start : Heap Published) : List Attempt → Heap Published → Prop where
  | start : Run start [] start
  | publish {attempts : List Attempt} (attempt : Attempt)
      (run : Run start attempts attempt.heap) : Run start (attempts ++ [attempt]) attempt.left
  | elsewhere {attempts : List Attempt} {heap after : Heap Published}
      (run : Run start attempts heap) (record_eq : after.record = heap.record)
      (sets_none : after.bitmap.publicGranules ⊆ heap.bitmap.publicGranules) :
      Run start attempts after

namespace Run

variable {start : Heap Published} {attempts : List Attempt} {Host : Type}

/-- The publications of a row of roots extend a run, up to one that meets a fault. -/
theorem publishEach (run : Run start attempts heap) (roots : List ObjectRef) :
    ∃ more, Run start (attempts ++ more) (Action.left (heap.publishEach mutator roots)) ∧
      ∀ attempt ∈ more, attempt.mutator = mutator ∧ attempt.root ∈ roots := by
  induction roots generalizing attempts heap with
  | nil =>
      refine ⟨[], ?_, by simp⟩
      rw [List.append_nil]
      exact run
  | cons root roots ih =>
      have first : Run start (attempts ++ [⟨heap, mutator, root⟩])
          (Action.left (heap.publishClosure mutator root)) := .publish _ run
      simp only [Heap.publishEach]
      cases ended : heap.publishClosure mutator root with
      | error fault after =>
          rw [ended] at first
          exact ⟨_, first, by simp⟩
      | ok count after =>
          rw [ended] at first
          obtain ⟨more, rest, rest_roots⟩ := ih first
          rw [List.append_assoc] at rest
          refine ⟨_, rest, ?_⟩
          intro attempt member
          rcases List.mem_cons.mp member with rfl | later
          · exact ⟨rfl, List.mem_cons_self⟩
          · obtain ⟨mutator_eq, root_mem⟩ := rest_roots attempt later
            exact ⟨mutator_eq, List.mem_cons_of_mem root root_mem⟩

/-- Whatever a mutator does extends a run by publications of what it shares. -/
theorem perform {collector : Collector Published Host} {process : Process Published Host}
    (run : Run start attempts process.heap) (publishing : collector.recorder = .publishing)
    (mutator : Mutator) (operation : Operation) :
    ∃ more,
      Run start (attempts ++ more)
        (Action.left (operation.perform collector mutator process)).heap ∧
      ∀ attempt ∈ more, attempt.mutator = mutator.id ∧
        attempt.root ∈ operation.roots process.heap.memory := by
  have ends := Operation.heapEnd_perform publishing mutator operation process
  have heap_eq := Action.left_mapState Process.heap (operation.perform collector mutator process)
  rw [← heap_eq]
  generalize Action.mapState Process.heap (operation.perform collector mutator process) = ending
    at ends
  have nothing : Run start (attempts ++ []) process.heap := by
    rw [List.append_nil]
    exact run
  cases ends with
  | unconcerned => exact ⟨[], nothing, by simp⟩
  | overflowed => exact ⟨[], nothing, by simp⟩
  | published => exact run.publishEach _

theorem clear (run : Run start attempts heap) (first : Address) (bytes : Word) :
    Run start attempts
      { heap with bitmap := Action.left (Bitmap.clearRange first bytes heap.bitmap) } :=
  run.elsewhere rfl (Bitmap.publicGranules_clearRange_subset heap.bitmap first bytes)

/--
The counter of published objects lacks nothing of what became public but what publications that met
a fault made public.
-/
theorem balance (run : Run start attempts heap) :
    heap.record.objects + UInt64.ofNat (flipsOf (failedOf attempts)) =
      start.record.objects + UInt64.ofNat (flipsOf attempts) := by
  induction run with
  | start => rfl
  | @publish attempts attempt run ih =>
      have step := attempt.balance
      have failed_eq : failedOf (attempts ++ [attempt]) = failedOf attempts ++ failedOf [attempt] :=
        List.filter_append ..
      rw [failed_eq, flipsOf_append, flipsOf_append, UInt64.ofNat_add, UInt64.ofNat_add]
      calc
        _ = attempt.left.record.objects + UInt64.ofNat (flipsOf (failedOf [attempt])) +
              UInt64.ofNat (flipsOf (failedOf attempts)) := by ac_rfl
        _ = attempt.heap.record.objects + UInt64.ofNat (flipsOf (failedOf attempts)) +
              UInt64.ofNat (flipsOf [attempt]) := by
            rw [step]
            ac_rfl
        _ = start.record.objects +
              (UInt64.ofNat (flipsOf attempts) + UInt64.ofNat (flipsOf [attempt])) := by
            rw [ih, UInt64.add_assoc]
  | elsewhere run record_eq sets_none ih => rw [record_eq, ih]

/--
At any point of any run the next publication is exact, and the counter of published objects has
grown by the number of granules that publications made public, short of those of the publications
that met a fault.
-/
theorem account (run : Run start attempts heap) (mutator : MutatorId) (root : ObjectRef) :
    heap.Exact mutator root ∧
      heap.record.objects + UInt64.ofNat (flipsOf (failedOf attempts)) =
        start.record.objects + UInt64.ofNat (flipsOf attempts) ∧
      ((∀ attempt ∈ attempts, attempt.failed = false) →
        heap.record.objects = start.record.objects + UInt64.ofNat (flipsOf attempts)) := by
  refine ⟨heap.exact mutator root, run.balance, fun none_failed => ?_⟩
  have balance := run.balance
  have failed_eq : failedOf attempts = [] := by simpa [failedOf] using none_failed
  rw [failed_eq] at balance
  simpa [flipsOf] using balance

private def rootObject : ObjectRef := ⟨0x1000⟩

private def childObject : ObjectRef := ⟨0x1008⟩

/-- Shares its granule with the child. -/
private def neighbour : ObjectRef := ⟨0x100c⟩

private def outwardObject : ObjectRef := ⟨0x1010⟩

/--
The root refers to itself and to the child, the child to its neighbour in the same granule, and a
last object to something outside the covered range.
-/
def sharedGranule : Heap Published :=
  { Heap.vacant {} with
    memory.load := fun slot =>
      if slot = ⟨0x2000⟩ then rootObject
      else if slot = ⟨0x2008⟩ then childObject
      else if slot = ⟨0x2010⟩ then neighbour
      else if slot = ⟨0x2018⟩ then ⟨0x10⟩
      else .null
    objects.slots := fun object =>
      if object = rootObject then [⟨0x2000⟩, ⟨0x2008⟩]
      else if object = childObject then [⟨0x2010⟩]
      else if object = outwardObject then [⟨0x2018⟩]
      else [] }

private def rootShared : Attempt := ⟨sharedGranule, ⟨7⟩, rootObject⟩

/-- The neighbour is shared when the granule of the child has been reclaimed. -/
private def neighbourShared : Attempt :=
  ⟨{ rootShared.left with
      bitmap := Action.left (Bitmap.clearRange ⟨0x1008⟩ 8 rootShared.left.bitmap) }, ⟨7⟩, neighbour⟩

/-- The last object becomes public, but what it refers to is refused. -/
private def outwardShared : Attempt := ⟨neighbourShared.left, ⟨7⟩, outwardObject⟩

/-- Four granules became public, one of them twice, and three are counted. -/
theorem account_sharedGranule :
    outwardShared.left.Exact ⟨7⟩ childObject ∧
      flipsOf [rootShared, neighbourShared, outwardShared] = 4 ∧
      failedOf [rootShared, neighbourShared, outwardShared] = [outwardShared] ∧
      outwardShared.left.record.objects = 3 := by
  have run : Run sharedGranule [rootShared, neighbourShared, outwardShared] outwardShared.left :=
    .publish outwardShared
      (.publish neighbourShared (.clear (.publish rootShared .start) ⟨0x1008⟩ 8))
  have root_flips : rootShared.flips = 2 := by
    have marks := rootShared.publicCount_left
    rw [show rootShared.left.bitmap.publicCount = 2 by decide +kernel,
      show rootShared.heap.bitmap.publicCount = 0 by decide +kernel] at marks
    omega
  have neighbour_flips : neighbourShared.flips = 1 := by
    have marks := neighbourShared.publicCount_left
    rw [show neighbourShared.left.bitmap.publicCount = 2 by decide +kernel,
      show neighbourShared.heap.bitmap.publicCount = 1 by decide +kernel] at marks
    omega
  have outward_flips : outwardShared.flips = 1 := by
    have marks := outwardShared.publicCount_left
    rw [show outwardShared.left.bitmap.publicCount = 3 by decide +kernel,
      show outwardShared.heap.bitmap.publicCount = 2 by decide +kernel] at marks
    omega
  have flips_eq : flipsOf [rootShared, neighbourShared, outwardShared] = 4 := by
    simp [flipsOf, root_flips, neighbour_flips, outward_flips]
  have failed_eq : failedOf [rootShared, neighbourShared, outwardShared] = [outwardShared] := by
    simp [failedOf, show rootShared.failed = false by decide +kernel,
      show neighbourShared.failed = false by decide +kernel,
      show outwardShared.failed = true by decide +kernel]
  obtain ⟨exact_next, balance, -⟩ := run.account ⟨7⟩ childObject
  refine ⟨exact_next, flips_eq, failed_eq, ?_⟩
  rw [flips_eq, failed_eq, show flipsOf [outwardShared] = 1 by simp [flipsOf, outward_flips]]
    at balance
  exact (UInt64.add_left_inj 1).mp balance

end Run

end Safepoint.Publication
