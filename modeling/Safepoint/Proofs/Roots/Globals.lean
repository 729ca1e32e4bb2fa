import Safepoint.Proofs.Roots.Deliveries
import Safepoint.Proofs.Roots.Generations
import Safepoint.Proofs.Vacant

/-!
# The roots that belong to no mutator

A collector visits first the roots that the runtime knows of and then those in installed code, and
one batch runs through both.  `scanVmRoots_delivers` says what the sink has got in the end, and
what has become of the code, if neither the runtime nor the sink meets a fault: the runtime's roots,
the mature blobs if they are asked for and then the nursery, each blob as it was registered, in
batches that fill their buffers whichever part they come from; and every blob is mature.
-/

namespace Safepoint.Roots

namespace CodeBlobs

variable {State : Type} {blobs : CodeBlobs} {past : List (Address × List Address)}
  {entry : Address × List Address} {code : Address} {slots : List Address}

/-- All registered blobs with their slots. -/
def entries (blobs : CodeBlobs) : List (Address × List Address) :=
  blobs.mature.entries ++ blobs.nursery.entries

/-- The slots in the last of these calls that registered a blob at the address; latest first. -/
def lastSlots (past : List (Address × List Address)) (code : Address) : Option (List Address) :=
  (past.find? fun call => call.1 = code ∧ call.2 ≠ []).map Prod.snd

/-- The blobs after any calls and scans, with the calls that registered blobs, latest first. -/
inductive Installed : List (Address × List Address) → CodeBlobs → Prop where
  | start : Installed [] {}
  | register {past : List (Address × List Address)} {blobs : CodeBlobs} (code : Address)
      (slots : List Address) (installed : Installed past blobs) :
      Installed ((code, slots) :: past) (Action.left (register code slots blobs))
  | unregister {past : List (Address × List Address)} {blobs : CodeBlobs} (code : Address)
      (installed : Installed past blobs) : Installed past (Action.left (unregister code blobs))
  | scan {past : List (Address × List Address)} {blobs : CodeBlobs} {State : Type}
      (nurseryOnly : Bool) (visit : Address → Action State Unit) (state : State)
      (installed : Installed past blobs) :
      Installed past (Action.left (scan nurseryOnly visit (blobs, state))).1

theorem reachable_iff_installed : Reachable blobs ↔ ∃ past, Installed past blobs := by
  constructor
  · intro reachable
    induction reachable with
    | start => exact ⟨[], .start⟩
    | register code slots _ ih => exact ⟨_, ih.choose_spec.register code slots⟩
    | unregister code _ ih => exact ⟨_, ih.choose_spec.unregister code⟩
    | scan nurseryOnly visit state _ ih => exact ⟨_, ih.choose_spec.scan nurseryOnly visit state⟩
  · rintro ⟨past, installed⟩
    induction installed with
    | start => exact .start
    | register code slots _ ih => exact ih.register code slots
    | unregister code _ ih => exact ih.unregister code
    | scan nurseryOnly visit state _ ih => exact ih.scan nurseryOnly visit state

theorem mem_entries_without :
    entry ∈ (blobs.without code).entries ↔ entry ∈ blobs.entries ∧ entry.1 ≠ code := by
  simp only [entries, without, Table.erase, List.mem_append, List.mem_filter, decide_eq_true_eq]
  tauto

theorem mem_entries_of_register (slots_ne_nil : slots ≠ [])
    (member : entry ∈ (Action.left (register code slots blobs)).entries) :
    entry = (code, slots) ∨ entry ∈ blobs.entries ∧ entry.1 ≠ code := by
  have kept (member : entry ∈ (blobs.without code).entries) :
      entry ∈ blobs.entries ∧ entry.1 ≠ code := mem_entries_without.mp member
  rw [register, if_neg (by simpa using slots_ne_nil), take_countOff] at member
  by_cases covered : blobs.taken code ≤ blobs.slotCount
  · rw [if_pos covered] at member
    dsimp only at member
    split at member
    · rw [Action.left, entries, List.mem_append] at member
      rcases member with old | young
      · exact Or.inr (kept (List.mem_append_left _ old))
      · rcases List.mem_append.mp young with young | new
        · exact Or.inr (kept (List.mem_append_right _ (List.mem_of_mem_filter young)))
        · exact Or.inl (List.mem_singleton.mp new)
    · exact Or.inr (kept member)
  · rw [if_neg covered] at member
    exact Or.inr (kept member)

theorem mem_entries_of_unregister
    (member : entry ∈ (Action.left (unregister code blobs)).entries) :
    entry ∈ blobs.entries := by
  rw [unregister_eq] at member
  split at member
  · exact (mem_entries_without.mp member).1
  · exact (mem_entries_without.mp member).1

theorem Sound.mem_entries_of_promoted {done : List (Address × List Address)}
    (sound : blobs.Sound) (prefixed : done <+: blobs.nursery.entries)
    (member : entry ∈ (blobs.promoted done).entries) : entry ∈ blobs.entries := by
  rw [entries, sound.entries_promoted prefixed] at member
  have kept : entry ∈ blobs.mature.entries ++ done := by simpa [promoted, Table.empty] using member
  exact List.mem_append.mpr ((List.mem_append.mp kept).imp_right fun found => prefixed.subset found)

theorem Sound.mem_entries_of_scan (sound : blobs.Sound) {nurseryOnly : Bool}
    {visit : Address → Action State Unit} {state : State}
    (member : entry ∈ (Action.left (CodeBlobs.scan nurseryOnly visit (blobs, state))).1.entries) :
    entry ∈ blobs.entries := by
  have scan_end := scan_end nurseryOnly visit blobs state
  generalize CodeBlobs.scan nurseryOnly visit (blobs, state) = ending at scan_end member
  cases scan_end with
  | finished visited => exact sound.mem_entries_of_promoted List.prefix_rfl member
  | old visited => exact member
  | young passed split visited => exact sound.mem_entries_of_promoted ⟨_, split.symm⟩ member

/-- A blob that is registered has the slots of the last call that registered it, in their order. -/
theorem Installed.lastSlots_eq (installed : Installed past blobs) :
    ∀ entry ∈ blobs.entries, lastSlots past entry.1 = some entry.2 := by
  induction installed with
  | start => exact fun entry member => absurd member List.not_mem_nil
  | @register past blobs code slots _ ih =>
      intro entry member
      -- A call without slots neither changes the blobs nor counts as a registration.
      by_cases slots_nil : slots = []
      · have skipped : lastSlots ((code, slots) :: past) entry.1 = lastSlots past entry.1 := by
          simp [lastSlots, slots_nil]
        have same : Action.left (CodeBlobs.register code slots blobs) = blobs := by
          simp [CodeBlobs.register, slots_nil, Action.left]
        rw [skipped]
        rw [same] at member
        exact ih entry member
      · rcases mem_entries_of_register slots_nil member with rfl | ⟨present, code_ne⟩
        · simp [lastSlots, slots_nil]
        · have skipped : lastSlots ((code, slots) :: past) entry.1 = lastSlots past entry.1 := by
            simp [lastSlots, code_ne.symm]
          rw [skipped]
          exact ih entry present
  | unregister code _ ih => exact fun entry member => ih entry (mem_entries_of_unregister member)
  | @scan past blobs State nurseryOnly visit state installed ih =>
      have sound := Sound.of_reachable (reachable_iff_installed.mpr ⟨past, installed⟩)
      exact fun entry member => ih entry (sound.mem_entries_of_scan member)

theorem visitSlots_eq_forM (visit : Address → Action State Unit) (slots : List Address) :
    visitSlots visit slots = slots.forM visit := by
  induction slots with
  | nil => rfl
  | cons slot slots ih =>
      funext state
      change _ = EStateM.bind (visit slot) (fun _ => slots.forM visit) state
      simp only [visitSlots, EStateM.bind, ih]
      cases visit slot state <;> rfl

end CodeBlobs

namespace Traffic

variable {State Record Host : Type} {log : Log} {batch : Batch} {buffer : Buffer} {state : State}

namespace Obliging

variable {sink : RootSink State}

theorem Follows.append {middle after : Log} {middle_batch : Batch} {first rest : List Address}
    (follows : Follows log first middle_batch middle) (on : Follows middle rest batch after) :
    Follows log (first ++ rest) batch after where
  underway := on.underway
  log_prefix := follows.log_prefix.trans on.log_prefix
  visited_eq := by rw [on.visited_eq, follows.visited_eq, List.append_assoc]

theorem gentle (obliging : Obliging sink) (slot : Address) (state : Batch × Log × State) :
    ∃ after, Traffic.visit sink slot state = .ok () after := by
  obtain ⟨batch, log, state⟩ := state
  obtain ⟨fresh, after, taken⟩ := obliging.reports (batch.buffer.push slot) state
  rw [Traffic.visit, visit_eq]
  split
  · exact ⟨_, by simp only [Batch.flush, noting, note, grown, taken]; rfl⟩
  · exact ⟨_, rfl⟩

/-- Slots that were visited are handed over by the end, and counted. -/
theorem collects (obliging : Obliging sink) {visits : Action (Batch × Log × State) Unit}
    {slots : List Address} {started left : State}
    (acquired : sink.acquire state = .ok buffer started)
    (visits_eq : visits (begun buffer, [.acquired (some buffer)], started) =
      .ok () (batch, log, left))
    (follows : Follows [.acquired (some buffer)] slots batch log) :
    ∃ last whole after,
      Batch.finish (noting sink) (batch, log, left) = .ok () (last, whole, after) ∧
      (noting sink).collect visits ([], state) = .ok slots.length (whole, after) ∧
      Complete slots whole := by
  obtain ⟨last, whole, after, finish_eq, -, visited_eq, answered⟩ :=
    obliging.finish follows.underway left
  have slots_eq : visited whole = slots := by
    rw [visited_eq, follows.visited_eq]
    rfl
  have count_eq : batch.visited = slots.length := by
    rw [follows.underway.count_eq, ← visited_eq, slots_eq]
  have closed := closed_finish follows.underway sink left
  rw [finish_eq] at closed
  have delivery : Delivery whole := closed.delivery
  have received_eq := delivery.received_eq answered
  refine ⟨last, whole, after, finish_eq, ?_, received_eq.symm, ?_, ?_, delivery.released answered⟩
  · rw [collect_eq]
    simp only [noting, note, acquired, List.nil_append]
    rw [← noting, visits_eq]
    simp only [close, finish_eq, count_eq]
  · rw [received_eq, delivery.flatten_eq, slots_eq]
  · rw [received_eq]
    exact delivery.sized

end Obliging

/-- A sink that meets no fault, starts with an empty buffer and leaves installed code alone. -/
structure Aloof (sink : RootSink (Process Record Host)) : Prop extends Obliging sink where
  keeps : ∀ blobs, sink.Keeps fun process => process.blobs = blobs

/-- What a sink has received of the runtime's roots and of code, and what the code has become. -/
structure Delivered (nurseryOnly : Bool) (roots : List Address)
    (past : List (Address × List Address)) (before after : CodeBlobs) (log : Log) : Prop where
  /-- The parts come one after another, and each blob as a whole. -/
  complete : ∃ old young, old.Perm before.mature.entries ∧ young.Perm before.nursery.entries ∧
    Complete (roots ++ (if nurseryOnly then [] else CodeBlobs.slotsOf old) ++
      CodeBlobs.slotsOf young) log
  registered : ∀ entry ∈ before.entries, CodeBlobs.lastSlots past entry.1 = some entry.2
  mature_perm : after.mature.entries.Perm before.entries
  nursery_eq : after.nursery.entries = []
  slotCount_eq : after.slotCount = before.slotCount

section Globals

variable {collector : Collector Record Host} {sink : RootSink (Process Record Host)}
  {process : Process Record Host} {nurseryOnly : Bool} {roots : List Address}

theorem Aloof.run_globals (aloof : Aloof sink)
    (recites : collector.runtime.scanGlobals.Recites
      (fun before after => after.blobs = before.blobs) roots)
    (underway : Underway log batch) (process : Process Record Host) :
    ∃ batch' log' after,
      collector.runtime.scanGlobals.beside.beside.run (visit sink) (batch, log, process) =
        .ok () (batch', log', after) ∧
      Obliging.Follows log roots batch' log' ∧ after.blobs = process.blobs := by
  have begins : Obliging.Follows log [] batch log ∧ process.blobs = process.blobs :=
    ⟨⟨underway, List.prefix_rfl, (List.append_nil _).symm⟩, rfl⟩
  obtain ⟨⟨batch', log', after⟩, run_eq, follows, kept⟩ := recites.beside.beside.run
    (motive := fun heard (state : Batch × Log × Process Record Host) =>
      Obliging.Follows log heard state.1 state.2.1 ∧ state.2.2.blobs = process.blobs)
    (fun heard before after ⟨batch_eq, log_eq, blobs_eq⟩ ⟨follows, kept⟩ => by
      rw [batch_eq, log_eq]
      exact ⟨follows, blobs_eq.trans kept⟩)
    (fun heard slot ⟨batch, log, state⟩ ⟨follows, kept⟩ => by
      obtain ⟨batch', log', after, visited, on⟩ := aloof.visit follows.underway slot state
      have still := keeps_visit (aloof.keeps process.blobs) slot batch log kept
      rw [visited] at still
      exact ⟨_, visited, follows.append on, still⟩)
    (show Obliging.Follows log [] (batch, log, process).1 (batch, log, process).2.1 ∧ _ from begins)
  exact ⟨batch', log', after, run_eq, follows, kept⟩

theorem Aloof.scanBlobs_ending (aloof : Aloof sink) (nurseryOnly : Bool)
    (underway : Underway log batch) (process : Process Record Host) :
    ∃ batch' log' after,
      scanBlobs nurseryOnly (visit sink) (batch, log, process) =
        .ok (process.blobs.scannedSlots nurseryOnly).length (batch', log', after) ∧
      Obliging.Follows log (process.blobs.scannedSlots nurseryOnly) batch' log' ∧
      after.blobs = process.blobs.promoted process.blobs.nursery.entries := by
  obtain ⟨⟨batch', log', after⟩, visited, scan_eq⟩ := CodeBlobs.Exact.scan_ending nurseryOnly
    aloof.gentle process.blobs (batch, log, process)
  obtain ⟨_, _, _, visits_eq, follows⟩ :=
    aloof.visits underway (process.blobs.scannedSlots nurseryOnly) process
  rw [← CodeBlobs.visitSlots_eq_forM, visited] at visits_eq
  cases visits_eq
  refine ⟨batch', log',
    { after with blobs := process.blobs.promoted process.blobs.nursery.entries }, ?_, follows, rfl⟩
  rw [scanBlobs, scan_eq]
  rfl

/-- Both parts of a visit, one after the other in the same batch. -/
theorem Aloof.visits_ending (aloof : Aloof sink)
    (recites : collector.runtime.scanGlobals.Recites
      (fun before after => after.blobs = before.blobs) roots)
    (nurseryOnly : Bool) (underway : Underway log batch) (process : Process Record Host) :
    ∃ batch' log' after,
      (Scan.vmRoots nurseryOnly).visits collector sink (batch, log, process) =
        .ok () (batch', log', after) ∧
      Obliging.Follows log (roots ++ process.blobs.scannedSlots nurseryOnly) batch' log' ∧
      after.blobs = process.blobs.promoted process.blobs.nursery.entries := by
  obtain ⟨middle_batch, middle_log, middle, run_eq, told, kept⟩ :=
    aloof.run_globals recites underway process
  obtain ⟨batch', log', after, scan_eq, scanned, promoted⟩ :=
    aloof.scanBlobs_ending nurseryOnly told.underway middle
  rw [kept] at scanned promoted
  refine ⟨batch', log', after, ?_, told.append scanned, promoted⟩
  rw [Scan.visits, Action.bind_of_ok run_eq, Action.bind_of_ok scan_eq]
  rfl

/--
A sink that meets no fault receives the roots of the runtime, then the slots of the mature blobs if
they are asked for, then those of the nursery; afterwards the same blobs are registered, and mature.
-/
theorem scanVmRoots_delivers (aloof : Aloof sink)
    (recites : collector.runtime.scanGlobals.Recites
      (fun before after => after.blobs = before.blobs) roots)
    {past : List (Address × List Address)} (installed : CodeBlobs.Installed past process.blobs) :
    ∃ count log after,
      (Scan.vmRoots nurseryOnly).noted collector sink ([], process) = .ok count (log, after) ∧
      collector.scanVmRoots nurseryOnly sink process = .ok count after ∧
      count = (received log).flatten.length ∧
      Delivered nurseryOnly roots past process.blobs after.blobs log := by
  have sound := CodeBlobs.Sound.of_reachable (CodeBlobs.reachable_iff_installed.mpr ⟨_, installed⟩)
  obtain ⟨buffer, started, acquired, empty⟩ := aloof.acquires process
  have started_kept := (aloof.keeps process.blobs).acquire process rfl
  rw [acquired] at started_kept
  obtain ⟨batch, log, left, visits_eq, follows, promoted⟩ :=
    aloof.visits_ending recites nurseryOnly (underway_start empty) started
  rw [show started.blobs = process.blobs from started_kept] at follows promoted
  obtain ⟨last, whole, after, finish_eq, noted_eq, complete⟩ :=
    aloof.collects acquired visits_eq follows
  -- The sink has still to take the last batch, and leaves the promoted blobs as they are.
  have kept := keeps_finish (aloof.keeps _) batch log promoted
  rw [finish_eq] at kept
  have kept : after.blobs = process.blobs.promoted process.blobs.nursery.entries := kept
  have erased : Action.mapState Prod.snd
      ((Scan.vmRoots nurseryOnly).noted collector sink ([], process)) = _ :=
    (Scan.vmRoots nurseryOnly).erases_noted ([], process)
  rw [Scan.noted, noted_eq] at erased
  refine ⟨_, whole, after, noted_eq, erased.symm, ?_, ?_⟩
  · rw [complete.flatten_eq]
  · refine ⟨⟨_, _, .refl _, .refl _, ?_⟩, installed.lastSlots_eq, ?_, ?_, ?_⟩
    · rw [List.append_assoc]
      exact complete
    · rw [kept, sound.entries_promoted List.prefix_rfl, CodeBlobs.entries]
    · rw [kept]
      rfl
    · rw [kept]
      rfl

end Globals

/-- The runtime knows three roots. -/
private def threeRoots : Collector Unit Unit :=
  .withRuntime { Runtime.idle with scanGlobals := .ofList [⟨8⟩, ⟨16⟩, ⟨24⟩] }

/-- The first blob was scanned before the second came. -/
private def twoBlobs : CodeBlobs :=
  let scanned := Action.left (CodeBlobs.scan true CodeBlobs.noteDown (CodeBlobs.installed, []))
  Action.left (CodeBlobs.register ⟨0x200⟩ [⟨48⟩] scanned.1)

private theorem installed_twoBlobs :
    CodeBlobs.Installed [(⟨0x200⟩, [⟨48⟩]), (⟨0x100⟩, [⟨8⟩, ⟨16⟩])] twoBlobs :=
  .register _ _ (.scan true CodeBlobs.noteDown [] (.register _ _ .start))

theorem aloof_steady (capacity : Nat) :
    Aloof (.steady capacity : RootSink (Process Record Host)) where
  acquires process := ⟨_, process, rfl, by simp [Buffer.filled]⟩
  reports _ process := ⟨_, process, rfl⟩
  releases _ process := ⟨process, rfl⟩
  keeps _ := ⟨fun _ => id, fun _ _ => id, fun _ _ => id⟩

/-- The second batch begins with a slot of the blob that the first one ends with. -/
theorem scanVmRoots_delivers_twoBlobs :
    ∃ log after,
      threeRoots.scanVmRoots false (.steady 4) { Process.vacant () () with blobs := twoBlobs } =
        .ok 6 after ∧
      Delivered false [⟨8⟩, ⟨16⟩, ⟨24⟩] [(⟨0x200⟩, [⟨48⟩]), (⟨0x100⟩, [⟨8⟩, ⟨16⟩])] twoBlobs
        after.blobs log ∧
      received log = [[⟨8⟩, ⟨16⟩, ⟨24⟩, ⟨8⟩], [⟨16⟩, ⟨48⟩]] := by
  obtain ⟨count, log, after, noted_eq, performed, count_eq, delivered⟩ :=
    @scanVmRoots_delivers Unit Unit threeRoots (.steady 4)
      { Process.vacant () () with blobs := twoBlobs } false _ (aloof_steady 4)
      (Report.recites_ofList _) _ installed_twoBlobs
  have received_eq : received log = [[⟨8⟩, ⟨16⟩, ⟨24⟩, ⟨8⟩], [⟨16⟩, ⟨48⟩]] := by
    have same := congrArg (fun ending => received (Action.left ending).1) noted_eq
    rw [← show _ = received log from same]
    decide +kernel
  rw [received_eq] at count_eq
  subst count_eq
  exact ⟨log, after, performed, delivered, received_eq⟩

end Traffic

end Safepoint.Roots
