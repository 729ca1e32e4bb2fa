import Safepoint.Proofs.Requests.Order
import Safepoint.Proofs.Roots.Deliveries
import Safepoint.Proofs.Vacant

/-!
# Requests that are lost

A service takes its request from the queue before it asks anything of the runtime, and clears it
when the mutator is scanned.  If the runtime or the sink meets a fault in between, the mutator goes
on waiting and is not in the queue any more.  `accounted_of_fresh` says that this is the only way:
who waits is in the queue, or was parked for a service that came to no end.  Nothing that is asked
for or served later finds the latter again.
-/

namespace Safepoint.Requests

open Roots (RootSink)

variable {Record Host Value Item : Type}

/-- What the runtime was asked for, the latest first. -/
def World.demands (world : World Record Host) : List Event :=
  (world.host.log.map Moment.event).filter Event.isDemand

/-- Mutators that were parked and not freed since; events stand with the latest first. -/
def unfreed : List Event → List Mutator
  | [] => []
  | .parking mutator :: events => mutator :: unfreed events
  | .freed mutator :: events => (unfreed events).erase mutator
  | _ :: events => unfreed events

/-- Mutators that the runtime was asked to park and has not been asked to free since. -/
def World.stranded (world : World Record Host) : List Mutator := unfreed world.demands

theorem demands_note (world : World Record Host) (event : Event) :
    (world.note event).demands = [event].filter Event.isDemand ++ world.demands := by
  rw [World.demands, World.demands, ← List.filter_append]
  rfl

theorem Aside.demands_eq {before after : World Record Host} (aside : Aside before after) :
    after.demands = before.demands := by
  unfold World.demands
  rcases aside.journal_cases.2 with same | looked
  · rw [same]
  · rw [looked]
    rfl

theorem Aside.log_suffix {before after : World Record Host} (aside : Aside before after) :
    before.host.log <:+ after.host.log := by
  rcases aside.journal_cases.2 with same | looked
  · exact same ▸ List.suffix_rfl
  · rw [looked]
    exact List.suffix_cons _ _

/-- Code that a fault may stop, whatever happens meanwhile. -/
def Frail (action : Action (World Record Host) Value) : Prop :=
  ∀ world, Meanwhile world (Action.left (action world))

inductive FrailReport : Report (World Record Host) Item → Prop where
  | done : FrailReport .done
  | act {step : Action (World Record Host) Unit}
      {next : World Record Host → Report (World Record Host) Item} (frail : Frail step)
      (after : ∀ world, FrailReport (next world)) : FrailReport (.act step next)
  | item {item : Item} {next : World Record Host → Report (World Record Host) Item}
      (after : ∀ world, FrailReport (next world)) : FrailReport (.item item next)

/-- The collaborators of a service may meet a fault at any point. -/
structure Unreliable (collector : Collector Record (Watched Record Host))
    (sink : RootSink (World Record Host)) : Prop where
  suspendOne : ∀ mutator, FrailReport (collector.runtime.suspendOne mutator)
  scanMutator : ∀ mutator, FrailReport (collector.runtime.scanMutator mutator)
  resumeOne : ∀ mutator, Frail (collector.runtime.resumeOne mutator)
  acquire : Frail sink.acquire
  report : ∀ buffer, Frail (sink.report buffer)
  release : ∀ buffer, Frail (sink.release buffer)

def Turn.Frail : Turn Record Host → Prop
  | .request _ => True
  | .serve collector sink => Unreliable collector sink
  | .other action => Requests.Frail action

theorem FrailReport.keeps {report : Report (World Record Host) Item} (frail : FrailReport report)
    {motive : World Record Host → Prop}
    (stable : ∀ {world after}, Meanwhile world after → motive world → motive after) :
    report.Keeps motive := by
  induction frail with
  | done => exact .done
  | act step_frail _ ih => exact .act (fun world => stable (step_frail world)) ih
  | item _ ih => exact .item ih

/-- Whoever waits is in the queue, or was parked and not freed since. -/
abbrev World.Reckoned (world : World Record Host) : Prop := Waiting world.stranded world

/-- Since `before`, nothing was asked of the runtime and nobody stopped waiting. -/
structure Idles (before world : World Record Host) : Prop where
  waiting : Waiting before.stranded world
  demands_eq : world.demands = before.demands
  log_suffix : before.host.log <:+ world.host.log

namespace Idles

variable {before world after : World Record Host}

theorem refl (reckoned : world.Reckoned) : Idles world world := ⟨reckoned, rfl, List.suffix_rfl⟩

theorem reckoned (idles : Idles before world) : world.Reckoned := by
  rw [World.Reckoned, World.stranded, idles.demands_eq]
  exact idles.waiting

theorem aside (idles : Idles before world) (aside : Aside world after) : Idles before after where
  waiting := idles.waiting.aside aside
  demands_eq := aside.demands_eq.trans idles.demands_eq
  log_suffix := idles.log_suffix.trans aside.log_suffix

theorem meanwhile (meanwhile : Meanwhile world after) (idles : Idles before world) :
    Idles before after := by
  induction meanwhile with
  | refl => exact idles
  | tail _ aside ih => exact ih.aside aside

/-- What the sink is asked is no demand on the runtime. -/
theorem note (idles : Idles before world) {event : Event} (undemanding : event.isDemand = false) :
    Idles before (world.note event) where
  waiting := ⟨idles.waiting.active_iff, idles.waiting.ids_nodup⟩
  demands_eq := by
    rw [demands_note, List.filter_cons_of_neg (by simp [undemanding])]
    exact idles.demands_eq
  log_suffix := idles.log_suffix.trans (List.suffix_cons _ _)

end Idles

section Serve

variable {collector : Collector Record (Watched Record Host)} {sink : RootSink (World Record Host)}
  {before world parked : World Record Host} {first : Mutator} {rest : List Mutator}

theorem Unreliable.keeps_watchSink (unreliable : Unreliable collector sink) :
    (watchSink sink).Keeps (Idles before) where
  acquire world idles := by
    have kept := idles.meanwhile (unreliable.acquire world)
    cases ended : sink.acquire world with
    | ok buffer after =>
        rw [ended] at kept
        have acquired : (watchSink sink).acquire world =
            .ok buffer (after.note (.acquired buffer.slots.size)) := Action.bind_of_ok ended
        rw [acquired]
        exact kept.note rfl
    | error fault after =>
        rw [ended] at kept
        have refused : (watchSink sink).acquire world = .error fault after :=
          Action.bind_of_error ended
        rw [refused]
        exact kept
  report batch world idles :=
    (idles.note rfl).meanwhile
      (unreliable.report batch (world.note (.reported batch.slots.size)))
  release buffer world idles := idles.meanwhile (unreliable.release buffer world)

theorem Unreliable.idles_scanEach (unreliable : Unreliable collector sink) (item : Mutator)
    (roots : Nat) (idles : Idles before world) :
    Idles before (Action.left (scanEach collector sink item (roots, world))).2 := by
  have scan_keeps : ((watch collector).runtime.scanMutator item).Keeps (Idles before) :=
    (unreliable.scanMutator item).keeps Idles.meanwhile
  rw [scanEach, Action.left_beside_modifyLocal]
  exact Roots.Traffic.keeps_scanRoots unreliable.keeps_watchSink scan_keeps idles

/-- The world when the first in the queue was taken from there and is to be parked. -/
def World.calling (first : Mutator) (rest : List Mutator) (world : World Record Host) :
    World Record Host :=
  World.note (.parking first) { world with requests := rest }

/-- Whatever stops it, the mutator was taken from the queue and parked, and that was all. -/
theorem Unreliable.idles_parkAndScan (unreliable : Unreliable collector sink)
    (reckoned : world.Reckoned) (requests_eq : world.requests = first :: rest) :
    Idles (world.calling first rest)
      (Action.left (parkAndScan collector sink first { world with requests := rest })) := by
  have taken := reckoned.take requests_eq
  have called : Idles (world.calling first rest) (world.calling first rest) :=
    .refl ⟨taken.active_iff, taken.ids_nodup⟩
  have suspend_keeps : (collector.runtime.suspendOne first).Keeps
      (Idles (world.calling first rest)) :=
    (unreliable.suspendOne first).keeps Idles.meanwhile
  rw [parkAndScan, Action.left_withLocal]
  exact suspend_keeps.beside.run
    (fun item state idles => unreliable.idles_scanEach item state.1 idles)
    (show Idles _ (0, world.calling first rest).2 from called)

/-- The request of the mutator was cleared, and the runtime asked to free it. -/
structure Served (first : Mutator) (before after : World Record Host) : Prop where
  demands_eq : after.demands = .freed first :: .parking first :: before.demands
  /-- There was a moment in which the mutator, being freed, waited no more. -/
  released : ∃ later moment earlier, after.host.log = later ++ moment :: earlier ∧
    before.host.log <:+ earlier ∧ moment.event = .freed first ∧
    moment.status first.id = .inactive

/-- The runtime was asked to park the mutator and not to free it. -/
structure Lost (first : Mutator) (before after : World Record Host) : Prop where
  demands_eq : after.demands = .parking first :: before.demands

theorem Served.stranded_eq {after : World Record Host} (served : Served first world after) :
    after.stranded = world.stranded := by
  rw [World.stranded, served.demands_eq]
  exact List.erase_cons_head ..

theorem Lost.stranded_eq {after : World Record Host} (lost : Lost first world after) :
    after.stranded = first :: world.stranded := by
  rw [World.stranded, lost.demands_eq]
  rfl

/-- What a service of the first in the queue comes to. -/
inductive ServeEnd (collector : Collector Record (Watched Record Host))
    (sink : RootSink (World Record Host)) (first : Mutator) (taken : World Record Host) :
    Ending (World Record Host) (Option (Mutator × Nat)) → Prop where
  /-- A fault came while the mutator was parked and scanned. -/
  | lost {fault : Fault} {after : World Record Host}
      (faulted : parkAndScan collector sink first taken = .error fault after) :
      ServeEnd collector sink first taken (.error fault after)
  /-- The mutator was scanned, and the runtime asked to free it; a fault may have come then. -/
  | served {value : Unit × Nat} {parked : World Record Host}
      {ending : Ending (World Record Host) (Option (Mutator × Nat))}
      (scanned : parkAndScan collector sink first taken = .ok value parked)
      (left_eq : Action.left ending = Action.left (collector.runtime.resumeOne first
        (World.note (.freed first) (parked.clearRequest first)))) :
      ServeEnd collector sink first taken ending

theorem serve_end (collector : Collector Record (Watched Record Host))
    (sink : RootSink (World Record Host)) (requests_eq : world.requests = first :: rest)
    (active : world.status first.id = .active) :
    ServeEnd collector sink first { world with requests := rest }
      ((watch collector).serve (watchSink sink) world) := by
  have collect_eq : (watch collector).collectOne first (watchSink sink)
      { world with requests := rest } = _ := collectOne_bind collector sink active
  rw [serve_of_cons requests_eq]
  cases scanned : parkAndScan collector sink first { world with requests := rest } with
  | error fault after =>
      rw [Action.bind_of_error scanned] at collect_eq
      rw [Action.bind_of_error collect_eq]
      exact .lost scanned
  | ok value parked =>
      refine .served scanned ?_
      rw [Action.left_bind_return, collect_eq, Action.bind_of_ok scanned]
      exact Action.left_bind_return ((watch collector).runtime.resumeOne first) (fun _ => value.2)
        (parked.clearRequest first)

/-- That a service is noted as complete concerns neither the requests nor the journal. -/
theorem leave_serve (collector : Collector Record (Watched Record Host))
    (sink : RootSink (World Record Host)) (world : World Record Host) :
    ∃ services, (Turn.serve collector sink).leave world =
      let ended := Action.left ((watch collector).serve (watchSink sink) world)
      { ended with host := { ended.host with services := services } } := by
  rw [Turn.leave]
  rcases (watch collector).serve (watchSink sink) world with
    ⟨_ | ⟨mutator, roots⟩, after⟩ | ⟨_, after⟩
  · exact ⟨after.host.services, rfl⟩
  · exact ⟨_, rfl⟩
  · exact ⟨after.host.services, rfl⟩

/--
A service of the first in the queue loses its request, if a fault comes while the mutator is parked
and scanned, and otherwise clears it.
-/
theorem Unreliable.serve_cases (unreliable : Unreliable collector sink)
    (reckoned : world.Reckoned) (requests_eq : world.requests = first :: rest) :
    ((Turn.serve collector sink).leave world).Reckoned ∧
      ((∃ fault parked, parkAndScan collector sink first { world with requests := rest } =
            .error fault parked) ∧
          Lost first world ((Turn.serve collector sink).leave world) ∨
        (∃ value parked, parkAndScan collector sink first { world with requests := rest } =
            .ok value parked) ∧
          Served first world ((Turn.serve collector sink).leave world)) := by
  have idles := unreliable.idles_parkAndScan reckoned requests_eq
  have active : world.status first.id = .active :=
    (reckoned.active_iff first.id).mpr (by simp [requests_eq])
  have ends := serve_end collector sink requests_eq active
  obtain ⟨services, leave_eq⟩ := leave_serve collector sink world
  generalize (watch collector).serve (watchSink sink) world = ending at ends leave_eq
  rw [leave_eq]
  cases ends with
  | @lost fault parked faulted =>
      rw [faulted] at idles
      refine ⟨⟨idles.reckoned.active_iff, idles.reckoned.ids_nodup⟩, Or.inl ⟨⟨_, _, faulted⟩, ?_⟩⟩
      exact ⟨idles.demands_eq⟩
  | @served value parked _ scanned left_eq =>
      rw [scanned] at idles
      let freed : World Record Host :=
        World.note (.freed first) (parked.clearRequest first)
      have freed_demands : freed.demands = .freed first :: .parking first :: world.demands :=
        congrArg (Event.freed first :: ·) idles.demands_eq
      have freed_stranded : freed.stranded = world.stranded := by
        rw [World.stranded, freed_demands]
        exact List.erase_cons_head ..
      have waiting : Waiting world.stranded (parked.clearRequest first) :=
        Waiting.clear idles.waiting
      have reckoned_freed : freed.Reckoned := by
        rw [World.Reckoned, freed_stranded]
        exact ⟨waiting.active_iff, waiting.ids_nodup⟩
      -- The request is settled now: what the runtime does from here on, others do as well.
      have after := (Idles.refl reckoned_freed).meanwhile (unreliable.resumeOne first freed)
      rw [← left_eq] at after
      refine ⟨⟨after.reckoned.active_iff, after.reckoned.ids_nodup⟩,
        Or.inr ⟨⟨_, _, scanned⟩, after.demands_eq.trans freed_demands, ?_⟩⟩
      obtain ⟨later, log_eq⟩ := after.log_suffix
      refine ⟨later, _, parked.host.log, log_eq.symm, ?_, rfl, ?_⟩
      · exact (List.suffix_cons _ _).trans idles.log_suffix
      · exact parked.status_clearRequest_self first

end Serve

/-- Nobody who is stranded is found again. -/
structure Forgets (before after : World Record Host) : Prop where
  stranded_suffix : before.stranded <:+ after.stranded
  unfreed : ∃ news, after.demands = news ++ before.demands ∧
    ∀ mutator ∈ before.stranded, Event.freed mutator ∉ news

namespace Forgets

variable {before world after : World Record Host}

theorem of_demands_eq (demands_eq : after.demands = world.demands) : Forgets world after where
  stranded_suffix := by
    have same : after.stranded = world.stranded := congrArg Requests.unfreed demands_eq
    exact same ▸ List.suffix_rfl
  unfreed := ⟨[], demands_eq, fun _ _ => List.not_mem_nil⟩

theorem trans (first : Forgets before world) (second : Forgets world after) :
    Forgets before after := by
  obtain ⟨news, demands_eq, unfreed⟩ := first.unfreed
  obtain ⟨later, later_eq, later_unfreed⟩ := second.unfreed
  refine ⟨first.stranded_suffix.trans second.stranded_suffix, later ++ news, ?_, ?_⟩
  · rw [later_eq, demands_eq, List.append_assoc]
  · intro mutator member
    rw [List.mem_append, not_or]
    exact ⟨later_unfreed mutator (first.stranded_suffix.subset member), unfreed mutator member⟩

end Forgets

namespace World.Reckoned

variable {world : World Record Host} {first : Mutator} {rest : List Mutator}

theorem not_mem_stranded (reckoned : world.Reckoned)
    (requests_eq : world.requests = first :: rest) :
    first ∉ world.stranded := by
  intro member
  have ids_nodup := reckoned.ids_nodup
  rw [requests_eq, List.map_append, List.nodup_append] at ids_nodup
  exact ids_nodup.2.2 first.id (List.mem_map_of_mem member) first.id (by simp) rfl

theorem meanwhile {after : World Record Host} (reckoned : world.Reckoned)
    (meanwhile : Meanwhile world after) : after.Reckoned ∧ Forgets world after := by
  have idles := (Idles.refl reckoned).meanwhile meanwhile
  exact ⟨idles.reckoned, .of_demands_eq idles.demands_eq⟩

theorem step (reckoned : world.Reckoned) {turn : Turn Record Host} (frail : turn.Frail) :
    (turn.leave world).Reckoned ∧ Forgets world (turn.leave world) := by
  cases turn with
  | request mutator => exact reckoned.meanwhile (.single (.ask mutator world))
  | other action => exact reckoned.meanwhile (frail world)
  | serve collector sink =>
      cases requests_eq : world.requests with
      | nil =>
          rw [leave_serve_of_nil collector sink requests_eq]
          exact ⟨reckoned, .of_demands_eq rfl⟩
      | cons first rest =>
          obtain ⟨reckoned_after, ⟨-, lost⟩ | ⟨-, served⟩⟩ :=
            Unreliable.serve_cases frail reckoned requests_eq
          · refine ⟨reckoned_after, ?_, [.parking first], lost.demands_eq, by simp⟩
            rw [lost.stranded_eq]
            exact List.suffix_cons _ _
          · refine ⟨reckoned_after, ?_, [.freed first, .parking first], served.demands_eq, ?_⟩
            · exact served.stranded_eq ▸ List.suffix_rfl
            · rintro mutator member freed
              obtain rfl : mutator = first := by simpa using freed
              exact reckoned.not_mem_stranded requests_eq member

theorem run (reckoned : world.Reckoned) {turns : List (Turn Record Host)}
    (frail : ∀ turn ∈ turns, turn.Frail) :
    (world.run turns).Reckoned ∧ Forgets world (world.run turns) := by
  induction turns generalizing world with
  | nil => exact ⟨reckoned, .of_demands_eq rfl⟩
  | cons turn turns ih =>
      obtain ⟨turn_frail, turns_frail⟩ := List.forall_mem_cons.mp frail
      obtain ⟨reckoned_after, forgets⟩ := reckoned.step turn_frail
      obtain ⟨reckoned_end, rest_forgets⟩ := ih reckoned_after turns_frail
      exact ⟨reckoned_end, forgets.trans rest_forgets⟩

end World.Reckoned

/-- What is certain between two calls, whoever met a fault before. -/
structure Accounted (world : World Record Host) : Prop where
  /-- Whoever waits is in the queue or stranded. -/
  active_iff : ∀ id, world.status id = .active ↔
    id ∈ (world.stranded ++ world.requests).map Mutator.id
  ids_nodup : ((world.stranded ++ world.requests).map Mutator.id).Nodup
  queued_iff : (∀ id, world.status id = .active → id ∈ world.requests.map Mutator.id) ↔
    world.stranded = []
  /-- A request is refused iff the mutator waits already, even if it is stranded. -/
  request_eq : ∀ mutator : Mutator, Collector.request mutator world =
    if mutator.id ∈ (world.stranded ++ world.requests).map Mutator.id then
      .error (.alreadyRequested mutator.id) world
    else
      .ok () { world.setStatus mutator.id .active with requests := world.requests ++ [mutator] }
  /-- A service that meets a fault while the mutator is parked and scanned strands it. -/
  lost : ∀ {collector : Collector Record (Watched Record Host)}
    {sink : RootSink (World Record Host)} {first : Mutator} {rest : List Mutator} {fault : Fault}
    {parked : World Record Host}, Unreliable collector sink → world.requests = first :: rest →
    parkAndScan collector sink first { world with requests := rest } = .error fault parked →
      Lost first world ((Turn.serve collector sink).leave world)
  /-- Any other service clears the request, even if it meets a fault later. -/
  served : ∀ {collector : Collector Record (Watched Record Host)}
    {sink : RootSink (World Record Host)} {first : Mutator} {rest : List Mutator}
    {value : Unit × Nat} {parked : World Record Host}, Unreliable collector sink →
    world.requests = first :: rest →
    parkAndScan collector sink first { world with requests := rest } = .ok value parked →
      Served first world ((Turn.serve collector sink).leave world)
  /-- Whatever comes later, a thread that waits for a stranded mutator waits on. -/
  forever : ∀ {turns : List (Turn Record Host)}, (∀ turn ∈ turns, turn.Frail) →
    Forgets world (world.run turns) ∧ ∀ mutator ∈ world.stranded,
      (Waiter.forCollection mutator).isReleased (world.run turns) = false

theorem World.Reckoned.accounted {world : World Record Host} (reckoned : world.Reckoned) :
    Accounted world where
  active_iff := reckoned.active_iff
  ids_nodup := reckoned.ids_nodup
  queued_iff := by
    constructor
    · intro queued
      rw [List.eq_nil_iff_forall_not_mem]
      intro mutator member
      have waits : mutator.id ∈ (world.stranded ++ world.requests).map Mutator.id :=
        List.mem_map_of_mem (List.mem_append_left _ member)
      have ids_nodup := reckoned.ids_nodup
      rw [List.map_append, List.nodup_append] at ids_nodup
      exact ids_nodup.2.2 mutator.id (List.mem_map_of_mem member) mutator.id
        (queued mutator.id ((reckoned.active_iff mutator.id).mpr waits)) rfl
    · intro nobody id active
      have waits := (reckoned.active_iff id).mp active
      rwa [nobody] at waits
  request_eq := reckoned.request_eq
  lost unreliable requests_eq faulted := by
    obtain ⟨-, ⟨-, lost⟩ | ⟨⟨_, _, scanned⟩, -⟩⟩ := unreliable.serve_cases reckoned requests_eq
    · exact lost
    · rw [faulted] at scanned
      cases scanned
  served unreliable requests_eq scanned := by
    obtain ⟨-, ⟨⟨_, _, faulted⟩, -⟩ | ⟨-, served⟩⟩ := unreliable.serve_cases reckoned requests_eq
    · rw [faulted] at scanned
      cases scanned
    · exact served
  forever frail := by
    obtain ⟨reckoned_after, forgets⟩ := reckoned.run frail
    refine ⟨forgets, fun mutator member => ?_⟩
    have still := (reckoned_after.active_iff mutator.id).mpr
      (List.mem_map_of_mem (List.mem_append_left _ (forgets.stranded_suffix.subset member)))
    simpa [Waiter.isReleased] using still

/-- Whoever waits is in the queue unless a fault came while it was parked and scanned. -/
theorem accounted_of_fresh {world : World Record Host} (fresh : world.Fresh)
    {turns : List (Turn Record Host)} (frail : ∀ turn ∈ turns, turn.Frail) :
    Accounted (world.run turns) := by
  have reckoned : world.Reckoned := by
    have nobody : world.stranded = [] := by
      rw [World.stranded, World.demands, fresh.log_eq]
      rfl
    rw [World.Reckoned, nobody]
    exact .fresh fresh
  exact (reckoned.run frail).1.accounted

private def askingMutator : Mutator := ⟨⟨1⟩, ⟨11⟩⟩

/-- A collector whose runtime cannot park anybody, or can. -/
private def parking (parks : Bool) : Collector Unit (Watched Unit Unit) :=
  .withRuntime
    { Runtime.idle with
      suspendOne := fun mutator =>
        if parks then .ofList [mutator] else .fail (.collaborator "suspend_one") }

theorem frail_pure (value : Value) : Frail (pure value : Action (World Record Host) Value) :=
  fun _ => .refl

theorem unreliable_parking (parks : Bool) : Unreliable (parking parks) (.steady 4) where
  suspendOne mutator := by
    cases parks with
    | true => exact .item fun _ => .done
    | false => exact .act (fun _ => .refl) fun _ => .done
  scanMutator _ := .done
  resumeOne _ := frail_pure ()
  acquire := frail_pure _
  report _ := frail_pure _
  release _ := frail_pure ()

/-- The mutator asks again and is refused, and a runtime that can park it is not asked to. -/
theorem accounted_of_fresh_stranded :
    let world := vacantWorld.run [.request askingMutator, .serve (parking false) (.steady 4)]
    Accounted world ∧ world.stranded = [askingMutator] ∧ world.requests = [] ∧
      (Waiter.forCollection askingMutator).isReleased
        (world.run [.request askingMutator, .serve (parking true) (.steady 4)]) = false := by
  intro world
  have frail (parks : Bool) :
      ∀ turn ∈ [Turn.request askingMutator, .serve (parking parks) (.steady 4)], turn.Frail := by
    simp only [List.forall_mem_cons]
    exact ⟨trivial, unreliable_parking parks, by simp⟩
  have accounted : Accounted world :=
    accounted_of_fresh ⟨fun _ => rfl, rfl, rfl, rfl, rfl⟩ (frail false)
  have stranded_eq : world.stranded = [askingMutator] := by decide +kernel
  refine ⟨accounted, stranded_eq, by decide +kernel, ?_⟩
  exact (accounted.forever (frail true)).2 askingMutator (by simp [stranded_eq])

end Safepoint.Requests
