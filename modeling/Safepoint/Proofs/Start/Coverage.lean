import Safepoint.Collector.Start
import Safepoint.Proofs.Publication.GranuleSet
import Safepoint.Proofs.Publication.Legality
import Safepoint.Proofs.Publication.Operations
import Safepoint.Proofs.Publication.Sweeps
import Safepoint.Proofs.Vacant

/-!
# Bitmaps that cover the heap

A collector starts on a bitmap in its own granules that covers its heap.  Only the two ends of the
heap are looked up, which is enough because a bitmap covers an interval, even one that reaches the
top of the address space.  `Collector.start_iff_covers` says when a start succeeds and what follows:
no address of the heap is ever refused for lying outside the bitmap.  A bitmap that is made from the
settings covers every heap but the empty one; `Collector.startFresh_iff_nonempty` is about that.
-/

namespace Safepoint

open Options (OptionError)
open Publication (Bitmap Heap Published granuleSize)

/-- The address lies in the heap of the settings. -/
def Settings.HasHeapAt (settings : Settings) (address : Address) : Prop :=
  settings.heapBase.toNat ≤ address.toNat ∧
    address.toNat < settings.heapBase.toNat + settings.heapSize.toNat

namespace Publication.Bitmap

variable {bitmap : Bitmap} {settings : Settings} {address : Address}

/-- The bitmap contains every address of the heap, and of an empty heap its base. -/
structure CoversHeap (bitmap : Bitmap) (settings : Settings) : Prop where
  contains_heap : ∀ address, settings.HasHeapAt address → bitmap.contains address = true
  contains_base : settings.heapSize = 0 → bitmap.contains ⟨settings.heapBase⟩ = true

theorem contains_iff_covers : bitmap.contains address = true ↔ bitmap.Covers address.toNat := by
  rw [contains, decide_eq_true_iff]

/-- As many bytes behind the base as the last byte of the heap lies, or none if the heap is empty. -/
theorem toNat_lastOffset (size : Word) : (size - min size 1).toNat = size.toNat - 1 := by
  rcases Nat.eq_zero_or_pos size.toNat with is_zero | is_pos
  · have size_eq : size = 0 := UInt64.toNat_inj.mp is_zero
    rw [size_eq]
    rfl
  · have one_le : (1 : Word) ≤ size := UInt64.le_iff_toNat_le.mpr is_pos
    have min_eq : min size 1 = 1 := by
      change (if size ≤ 1 then size else 1) = 1
      split
      · rename_i le_one
        exact UInt64.le_antisymm le_one one_le
      · rfl
    rw [min_eq, UInt64.toNat_sub_of_le _ _ one_le]
    rfl

/-- A bitmap covers a heap if it contains both ends of it. -/
theorem coversHeap_iff {last : Word}
    (last_eq : settings.heapBase.toNat + (settings.heapSize.toNat - 1) = last.toNat) :
    bitmap.CoversHeap settings ↔
      bitmap.contains ⟨settings.heapBase⟩ = true ∧ bitmap.contains ⟨last⟩ = true := by
  constructor
  · intro covers
    rcases Nat.eq_zero_or_pos settings.heapSize.toNat with is_zero | is_pos
    · have base_contained := covers.contains_base (UInt64.toNat_inj.mp is_zero)
      have last_is_base : last = settings.heapBase := by
        rw [← UInt64.toNat_inj, ← last_eq, is_zero]
        rfl
      exact ⟨base_contained, last_is_base ▸ base_contained⟩
    · have base_in : settings.HasHeapAt ⟨settings.heapBase⟩ :=
        ⟨Nat.le_refl _, Nat.lt_add_of_pos_right is_pos⟩
      have last_in : settings.HasHeapAt ⟨last⟩ := by
        change settings.heapBase.toNat ≤ last.toNat ∧ last.toNat < _
        omega
      exact ⟨covers.contains_heap _ base_in, covers.contains_heap _ last_in⟩
  · rintro ⟨base_contained, last_contained⟩
    refine ⟨fun address inside => ?_, fun _ => base_contained⟩
    rw [contains_iff_covers] at base_contained last_contained ⊢
    have base_le : bitmap.base.toNat ≤ settings.heapBase.toNat := base_contained.1
    have last_lt : last.toNat < bitmap.base.toNat + bitmap.size.toNat := last_contained.2
    obtain ⟨address_ge, address_lt⟩ := inside
    exact ⟨base_le.trans address_ge, by omega⟩

end Publication.Bitmap

section Start

variable {settings : Settings} {Record Host : Type}

theorem Settings.granuleBytes_of_valid (valid : settings.validate = .ok ()) :
    ∃ bytes, settings.granuleBytes = .ok bytes ∧
      bytes.toNat = granuleSize settings.logGranule.toNat := by
  obtain ⟨⟨-, log_le⟩, -, -⟩ := Settings.validate_eq_ok_iff.mp valid
  change settings.logGranule.toNat ≤ 12 at log_le
  have log_lt : settings.logGranule < 64 :=
    UInt8.lt_iff_toNat_lt.mpr (Nat.lt_of_le_of_lt log_le (by decide))
  have size_lt : granuleSize settings.logGranule.toNat < Word.count := by
    rw [granuleSize, Nat.one_shiftLeft]
    exact Nat.lt_of_le_of_lt (Nat.pow_le_pow_right (by decide) log_le) (by decide)
  exact ⟨_, if_pos log_lt, UInt64.toNat_ofNat_of_lt' size_lt⟩

/-- The ways a start can end on a heap: the settings decide, then the granules, then the range. -/
inductive StartEnd (settings : Settings) (heap : Heap Record) (host : Host) :
    Except StartFailure (Process Record Host) → Prop where
  | invalid {refusal : OptionError} (invalid : settings.validate = .error refusal) :
      StartEnd settings heap host (.error (.refused (.settings refusal)))
  | granule (valid : settings.validate = .ok ())
      (granule_ne : heap.bitmap.granule ≠ granuleSize settings.logGranule.toNat) :
      StartEnd settings heap host (.error (.refused (.mismatch .granule)))
  | coverage (valid : settings.validate = .ok ())
      (granule_eq : heap.bitmap.granule = granuleSize settings.logGranule.toNat)
      (uncovered : ¬heap.bitmap.CoversHeap settings) :
      StartEnd settings heap host (.error (.refused (.mismatch .coverage)))
  | started (valid : settings.validate = .ok ())
      (granule_eq : heap.bitmap.granule = granuleSize settings.logGranule.toNat)
      (covers : heap.bitmap.CoversHeap settings) :
      StartEnd settings heap host (.ok { heap := heap, host := host })

namespace Collector

theorem startEnd_start (collector : Collector Record Host) (heap : Heap Record) (host : Host) :
    StartEnd collector.settings heap host (collector.start heap host) := by
  unfold start checkStart
  generalize collector.settings = settings
  cases valid : settings.validate with
  | error refusal => exact .invalid valid
  | ok _ =>
      obtain ⟨bytes, bytes_eq, bytes_toNat⟩ := settings.granuleBytes_of_valid valid
      have heap_lt := (Settings.validate_eq_ok_iff.mp valid).2.2
      have offset_eq := Bitmap.toNat_lastOffset settings.heapSize
      cases last_found :
          Word.add? settings.heapBase (settings.heapSize - min settings.heapSize 1) with
      | none =>
          rw [Word.add?_eq_none_iff] at last_found
          omega
      | some last =>
          rw [Word.add?_eq_some_iff, offset_eq] at last_found
          have covers_iff : heap.bitmap.CoversHeap settings ↔ _ := Bitmap.coversHeap_iff last_found
          simp only [bytes_eq, bytes_toNat]
          by_cases granule_eq : heap.bitmap.granule = granuleSize settings.logGranule.toNat
          · rw [← Bool.and_eq_true] at covers_iff
            rw [if_neg (not_not_intro granule_eq)]
            by_cases covers : heap.bitmap.CoversHeap settings
            · rw [if_pos (covers_iff.mp covers)]
              exact .started valid granule_eq covers
            · rw [if_neg (mt covers_iff.mpr covers)]
              exact .coverage valid granule_eq covers
          · rw [if_pos granule_eq]
            exact .granule valid granule_eq

end Collector

end Start

/-- The address that the fault calls outside the covered range, if it does. -/
def Fault.outside? : Fault → Option Address
  | markOutside address => some address
  | publishOutside _ object => some object.address
  | _ => none

namespace Publication

namespace Bitmap

variable {bitmap : Bitmap} {address : Address}

theorem sameRange_markPublic (bitmap : Bitmap) (address : Address) :
    SameRange bitmap (Action.left (markPublic address bitmap)) := by
  by_cases covered : bitmap.Covers address.toNat
  · cases address_marked : bitmap.marked address.toNat with
    | true =>
        rw [markPublic_of_marked covered address_marked]
        exact .refl bitmap
    | false =>
        rw [markPublic_of_unmarked covered address_marked]
        exact sameRange_setMark bitmap covered
  · rw [markPublic_of_uncovered covered]
    exact .refl bitmap

theorem exists_markPublic_ok (contained : bitmap.contains address = true) :
    ∃ fresh after, markPublic address bitmap = .ok fresh after := by
  have covered := contains_iff_covers.mp contained
  cases address_marked : bitmap.marked address.toNat with
  | true => exact ⟨false, _, markPublic_of_marked covered address_marked⟩
  | false => exact ⟨true, _, markPublic_of_unmarked covered address_marked⟩

theorem sameRange_clearFrom (bitmap : Bitmap) (count place : Nat) :
    SameRange bitmap (Action.left (clearFrom count place bitmap)) := by
  induction count generalizing bitmap place with
  | zero => exact .refl bitmap
  | succ count ih =>
      rw [clearFrom_succ]
      split
      · exact (sameRange_unmark bitmap place).trans (ih _ _)
      · exact sameRange_unmark bitmap place

theorem sameRange_clearRange (bitmap : Bitmap) (start : Address) (bytes : Word) :
    SameRange bitmap (Action.left (clearRange start bytes bitmap)) := by
  unfold clearRange
  cases start.offset? bytes with
  | none => exact .refl bitmap
  | some past => exact sameRange_clearFrom bitmap _ _

theorem sameRange_leave (bitmap : Bitmap) (call : Call) : SameRange bitmap (bitmap.leave call) := by
  cases call with
  | mark address => exact sameRange_markPublic bitmap address
  | clear start bytes => exact sameRange_clearRange bitmap start bytes

end Bitmap

theorem outside?_refusal {bitmap : Bitmap} {objects : ObjectModel} {mutator : MutatorId}
    {object : ObjectRef} {address : Address}
    (outside : (refusal bitmap objects mutator object).outside? = some address) :
    bitmap.contains address = false := by
  unfold refusal at outside
  split at outside
  · cases outside
  · rename_i uncontained
    cases outside
    exact Bool.eq_false_iff.mpr uncontained

namespace Heap

variable {heap after : Heap Published} {mutator : MutatorId} {root : ObjectRef} {fault : Fault}
variable {address : Address} {roots : List ObjectRef}

theorem sameRange_publishClosure (heap : Heap Published) (mutator : MutatorId) (root : ObjectRef) :
    heap.bitmap.SameRange (Action.left (heap.publishClosure mutator root)).bitmap := by
  obtain ⟨found, opens⟩ := heap.opens_of_publishClosure mutator root
  exact opens.publishes.sameRange

theorem sameRange_publishEach (heap : Heap Published) (mutator : MutatorId)
    (roots : List ObjectRef) :
    heap.bitmap.SameRange (Action.left (heap.publishEach mutator roots)).bitmap := by
  induction roots generalizing heap with
  | nil => exact .refl heap.bitmap
  | cons root roots ih =>
      have first := heap.sameRange_publishClosure mutator root
      cases published : heap.publishClosure mutator root with
      | error fault next =>
          rw [published] at first
          simp only [publishEach, published]
          exact first
      | ok count next =>
          rw [published] at first
          simp only [publishEach, published]
          exact first.trans (ih next)

/-- A publication calls an address outside the covered range only if it is. -/
theorem outside?_of_publishClosure (ended : heap.publishClosure mutator root = .error fault after)
    (outside : fault.outside? = some address) : heap.bitmap.contains address = false := by
  rcases cause_of_publishClosure ended with ⟨object, -, -, rfl⟩ | ⟨rfl, -⟩
  · exact outside?_refusal outside
  · cases outside

theorem outside?_of_publishEach (ended : heap.publishEach mutator roots = .error fault after)
    (outside : fault.outside? = some address) : heap.bitmap.contains address = false := by
  obtain ⟨passed, root, rest, middle, -, passes, stopped⟩ := exists_of_publishEach_error ended
  have same := heap.sameRange_publishEach mutator passed
  rw [passes] at same
  rw [← same.contains_eq address]
  exact outside?_of_publishClosure stopped outside

end Heap

end Publication

namespace Operation

variable {Host : Type} {collector : Collector Published Host} {mutator : Mutator}
variable {operation : Operation} {process after : Process Published Host} {fault : Fault}
variable {address : Address}

theorem sameRange_perform (publishing : collector.recorder = .publishing) (mutator : Mutator)
    (operation : Operation) (process : Process Published Host) :
    process.heap.bitmap.SameRange
      (Action.left (operation.perform collector mutator process)).heap.bitmap := by
  have ends := heapEnd_perform publishing mutator operation process
  rw [← Action.left_mapState Process.heap]
  generalize Action.mapState Process.heap (operation.perform collector mutator process) = ending
    at ends ⊢
  cases ends with
  | unconcerned | overflowed => exact .refl _
  | published => exact process.heap.sameRange_publishEach mutator.id _

theorem outside?_of_perform (publishing : collector.recorder = .publishing)
    (ended : operation.perform collector mutator process = .error fault after)
    (outside : fault.outside? = some address) : process.heap.bitmap.contains address = false := by
  have ends := heapEnd_perform publishing mutator operation process
  rw [ended] at ends
  generalize ending_eq : Action.mapState Process.heap (.error fault after) = ending at ends
  cases ends with
  | unconcerned => cases ending_eq
  | overflowed cause =>
      obtain ⟨rfl, -⟩ := EStateM.Result.error.inj ending_eq
      rcases cause with rfl | rfl <;> cases outside
  | published => exact Heap.outside?_of_publishEach ending_eq.symm outside

end Operation

namespace Collector

section Life

variable {Host : Type} {collector : Collector Published Host}
variable {first process : Process Published Host}

/--
What may become of a process: mutators operate, the bitmap is marked and cleared, and everything but
the bitmap changes in whatever way.  No step has to come to a good end.
-/
inductive Evolves (collector : Collector Published Host) (first : Process Published Host) :
    Process Published Host → Prop where
  | start : Evolves collector first first
  | operation {process : Process Published Host} (evolves : Evolves collector first process)
      (mutator : Mutator) (operation : Operation) :
      Evolves collector first (Action.left (operation.perform collector mutator process))
  | call {process : Process Published Host} (evolves : Evolves collector first process)
      (call : Bitmap.Call) :
      Evolves collector first
        { process with
          heap := { process.heap with bitmap := process.heap.bitmap.leave call } }
  | elsewhere {process after : Process Published Host} (evolves : Evolves collector first process)
      (bitmap_eq : after.heap.bitmap = process.heap.bitmap) : Evolves collector first after

theorem Evolves.sameRange (publishing : collector.recorder = .publishing)
    (evolves : Evolves collector first process) :
    first.heap.bitmap.SameRange process.heap.bitmap := by
  induction evolves with
  | start => exact .refl _
  | operation evolves mutator operation ih =>
      exact ih.trans (Operation.sameRange_perform publishing mutator operation _)
  | call evolves call ih => exact ih.trans (Bitmap.sameRange_leave _ call)
  | elsewhere evolves bitmap_eq ih => exact bitmap_eq ▸ ih

end Life

/--
A start never meets a fault.  It is refused for its settings exactly if they break a constraint, and
else for the bitmap exactly if that has other granules or leaves out a part of the heap.  Whatever
becomes of a process that was started, no address of its heap is refused for lying outside the
bitmap, neither by an operation nor by a mark.
-/
theorem start_iff_covers {Record Host : Type} :
    (∀ (collector : Collector Record Host) (heap : Heap Record) (host : Host),
      (∀ fault, collector.start heap host ≠ .error (.fault fault)) ∧
      (∀ refusal, collector.start heap host = .error (.refused (.settings refusal)) ↔
        collector.settings.validate = .error refusal) ∧
      ((∃ cause, collector.start heap host = .error (.refused (.mismatch cause))) ↔
        collector.settings.validate = .ok () ∧
          (heap.bitmap.granule ≠ granuleSize collector.settings.logGranule.toNat ∨
            ¬heap.bitmap.CoversHeap collector.settings)) ∧
      ∀ process, collector.start heap host = .ok process ↔
        collector.settings.validate = .ok () ∧
          heap.bitmap.granule = granuleSize collector.settings.logGranule.toNat ∧
          heap.bitmap.CoversHeap collector.settings ∧ process = { heap := heap, host := host }) ∧
    ∀ (collector : Collector Published Host) (heap : Heap Published) (host : Host)
      (first process : Process Published Host), collector.recorder = .publishing →
      collector.start heap host = .ok first → collector.Evolves first process →
        (∀ mutator operation fault after address,
          Operation.perform collector mutator operation process = .error fault after →
          fault.outside? = some address → ¬collector.settings.HasHeapAt address) ∧
        ∀ address, collector.settings.HasHeapAt address →
          ∃ fresh after, Process.onBitmap (Bitmap.markPublic address) process = .ok fresh after := by
  constructor
  · intro collector heap host
    have ends := collector.startEnd_start heap host
    generalize collector.start heap host = result at ends ⊢
    cases ends with
    | invalid invalid => simp [invalid]
    | granule valid granule_ne => simp [valid, granule_ne]
    | coverage valid granule_eq uncovered => simp [valid, granule_eq, uncovered]
    | started valid granule_eq covers => simp [valid, granule_eq, covers, eq_comm]
  · intro collector heap host first process publishing started evolves
    have ends := collector.startEnd_start heap host
    rw [started] at ends
    cases ends with
    | started valid granule_eq covers =>
        have same := evolves.sameRange publishing
        have contained (address : Address) (inside : collector.settings.HasHeapAt address) :
            process.heap.bitmap.contains address = true := by
          rw [same.contains_eq]
          exact covers.contains_heap address inside
        constructor
        · intro mutator operation fault after address ended outside inside
          have uncontained := Operation.outside?_of_perform publishing ended outside
          rw [contained address inside] at uncontained
          cases uncontained
        · intro address inside
          obtain ⟨fresh, bitmap, marks⟩ := Bitmap.exists_markPublic_ok (contained address inside)
          unfold Process.onBitmap Process.onHeap
          exact ⟨fresh, _, Action.onPart_ok (Action.onPart_ok marks)⟩

/-- A bitmap that would go on behind the last address. -/
private def topBitmap : Bitmap :=
  { Bitmap.ofByte 0 with
    base := 0xffffffffffffffd8
    base_aligned := by decide }

/-- A heap in which nothing has happened, under that bitmap. -/
private def topHeap : Heap Published :=
  { Heap.vacant {} with bitmap := topBitmap }

/-- A collector for the last 40 bytes of the address space, less the very last. -/
private def topCollector : Collector Published Unit :=
  { publishing with settings := { heapBase := 0xffffffffffffffd8, heapSize := 39, workers := 1 } }

/-- The same with a heap that starts a granule before the bitmap. -/
private def lowCollector : Collector Published Unit :=
  { topCollector with
    settings := { topCollector.settings with heapBase := 0xffffffffffffffd0, heapSize := 47 } }

/-- A heap up to the last byte but one starts, and that byte can be marked; a longer one does not. -/
theorem start_iff_covers_top :
    topCollector.start topHeap () = .ok { heap := topHeap, host := () } ∧
      (∃ fresh, ∃ after : Process Published Unit,
        Process.onBitmap (Bitmap.markPublic ⟨0xfffffffffffffffe⟩)
          { heap := topHeap, host := () } = .ok fresh after) ∧
      ∃ cause, lowCollector.start topHeap () = .error (.refused (.mismatch cause)) := by
  obtain ⟨starts, lives⟩ := @start_iff_covers Published Unit
  have last_eq : topCollector.settings.heapBase.toNat +
      (topCollector.settings.heapSize.toNat - 1) = (0xfffffffffffffffe : Word).toNat := by
    decide
  have low_last_eq : lowCollector.settings.heapBase.toNat +
      (lowCollector.settings.heapSize.toNat - 1) = (0xfffffffffffffffe : Word).toNat := by
    decide
  have covers : topHeap.bitmap.CoversHeap topCollector.settings :=
    (Bitmap.coversHeap_iff last_eq).mpr (by decide)
  have uncovered : ¬topHeap.bitmap.CoversHeap lowCollector.settings := fun covers_low =>
    absurd ((Bitmap.coversHeap_iff low_last_eq).mp covers_low) (by decide)
  have started : topCollector.start topHeap () = .ok { heap := topHeap, host := () } :=
    ((starts topCollector topHeap ()).2.2.2 _).mpr ⟨by decide, rfl, covers, rfl⟩
  have inside : topCollector.settings.HasHeapAt ⟨0xfffffffffffffffe⟩ := by
    unfold Settings.HasHeapAt
    decide
  exact ⟨started, (lives topCollector topHeap () _ _ rfl started .start).2 _ inside,
    (starts lowCollector topHeap ()).2.2.1.mpr ⟨by decide, Or.inr uncovered⟩⟩

end Collector

/-! ## Starting on a bitmap of one's own -/

namespace Publication.Bitmap

variable {settings : Settings} {bitmap : Bitmap}

/-- A bitmap for a valid heap can be made; it has the heap's range and no marks. -/
theorem exists_new_of_valid (valid : settings.validate = .ok ()) :
    ∃ bitmap, Bitmap.new settings.heapBase settings.heapSize settings.logGranule = .ok bitmap ∧
      bitmap.Spans settings ∧ bitmap.publicGranules = ∅ := by
  obtain ⟨⟨-, log_le⟩, aligned, -⟩ := Settings.validate_eq_ok_iff.mp valid
  change settings.logGranule.toNat ≤ 12 at log_le
  have log_lt : settings.logGranule.toNat + 3 < 64 := by omega
  obtain ⟨bitmap, accepted, spans⟩ : ∃ bitmap,
      Bitmap.new settings.heapBase settings.heapSize settings.logGranule = .ok bitmap ∧
        bitmap.Spans settings := by
    rw [Bitmap.new, dif_pos log_lt, dif_pos aligned]
    exact ⟨_, rfl, rfl, rfl, rfl⟩
  exact ⟨bitmap, accepted, spans, (Tracks.of_new accepted).publicGranules_eq⟩

/-- The bitmap over a heap covers it unless the heap is empty. -/
theorem Spans.coversHeap_iff (spans : bitmap.Spans settings) :
    bitmap.CoversHeap settings ↔ settings.heapSize ≠ 0 := by
  have contains_iff (address : Address) :
      bitmap.contains address = true ↔ settings.HasHeapAt address := by
    rw [contains_iff_covers, Covers, spans.base_eq, spans.size_eq]
    rfl
  constructor
  · intro covers is_empty
    have base_in := (contains_iff _).mp (covers.contains_base is_empty)
    rw [Settings.HasHeapAt, is_empty] at base_in
    exact absurd base_in.2 (Nat.lt_irrefl _)
  · intro nonempty
    exact ⟨fun address inside => (contains_iff address).mpr inside, fun is_empty =>
      absurd is_empty nonempty⟩

end Publication.Bitmap

namespace Collector

variable {Record Host : Type}

/--
A start on a bitmap of one's own succeeds exactly if the settings break no constraint and the heap
is not empty.  The bitmap can be made in either case, but over an empty heap it contains no address,
not even the base, so that the collector refuses its own bitmap.
-/
theorem startFresh_iff_nonempty (collector : Collector Record Host) (memory : Memory)
    (objects : ObjectModel) (record : Record) (host : Host) :
    (∀ fault, collector.startFresh memory objects record host ≠ .error (.fault fault)) ∧
    (∀ refusal, collector.startFresh memory objects record host =
        .error (.refused (.settings refusal)) ↔ collector.settings.validate = .error refusal) ∧
    (∀ cause, collector.startFresh memory objects record host =
        .error (.refused (.mismatch cause)) ↔
      collector.settings.validate = .ok () ∧ collector.settings.heapSize = 0 ∧
        cause = .coverage) ∧
    ((∃ process, collector.startFresh memory objects record host = .ok process) ↔
      collector.settings.validate = .ok () ∧ collector.settings.heapSize ≠ 0) ∧
    ∀ process, collector.startFresh memory objects record host = .ok process →
      ∃ bitmap : Bitmap, bitmap.Spans collector.settings ∧ bitmap.publicGranules = ∅ ∧
        process = { heap := ⟨bitmap, memory, objects, record⟩, host := host } := by
  cases valid : collector.settings.validate with
  | error refusal =>
      have refused : collector.startFresh memory objects record host =
          .error (.refused (.settings refusal)) := by
        simp only [startFresh, valid]
      simp [refused]
  | ok _ =>
      obtain ⟨bitmap, accepted, spans, unmarked⟩ := Bitmap.exists_new_of_valid valid
      have start_eq : collector.startFresh memory objects record host =
          collector.start ⟨bitmap, memory, objects, record⟩ host := by
        simp only [startFresh, valid, accepted]
      have granule_eq : bitmap.granule = granuleSize collector.settings.logGranule.toNat :=
        congrArg granuleSize spans.logGranule_eq
      have covers_iff := spans.coversHeap_iff
      have ends := collector.startEnd_start ⟨bitmap, memory, objects, record⟩ host
      rw [start_eq]
      generalize collector.start ⟨bitmap, memory, objects, record⟩ host = result at ends ⊢
      cases ends with
      | invalid invalid =>
          rw [valid] at invalid
          cases invalid
      | granule _ granule_ne => exact absurd granule_eq granule_ne
      | coverage _ _ uncovered =>
          have is_empty : collector.settings.heapSize = 0 := by
            by_contra nonempty
            exact uncovered (covers_iff.mpr nonempty)
          simp [is_empty, eq_comm]
      | started _ _ covers =>
          refine ⟨by simp, by simp, ?_, iff_of_true ⟨_, rfl⟩ ⟨rfl, covers_iff.mp covers⟩, ?_⟩
          · simp [covers_iff.mp covers]
          · rintro process ⟨⟩
            exact ⟨bitmap, spans, unmarked, rfl⟩

/-- Valid settings with an empty heap. -/
private def emptyHeap : Collector Published Unit :=
  { topCollector with settings := { heapSize := 0, workers := 1 } }

/-- An empty heap is refused for a bitmap that nobody handed in, although the settings are valid. -/
theorem startFresh_iff_nonempty_empty :
    emptyHeap.settings.validate = .ok () ∧
      emptyHeap.startFresh topHeap.memory topHeap.objects {} () =
        .error (.refused (.mismatch .coverage)) := by
  have valid : emptyHeap.settings.validate = .ok () := by decide
  obtain ⟨-, -, mismatch_iff, -⟩ :=
    startFresh_iff_nonempty emptyHeap topHeap.memory topHeap.objects {} ()
  exact ⟨valid, (mismatch_iff _).mpr ⟨valid, rfl, rfl⟩⟩

end Collector

end Safepoint
