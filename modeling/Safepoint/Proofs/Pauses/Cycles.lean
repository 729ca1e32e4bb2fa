import Safepoint.Proofs.Pauses.Drift
import Safepoint.Proofs.Vacant
import Mathlib.Data.List.Chain

/-!
# The cycle of a pause

Stops and resumptions come in any order, ask a runtime that may call the collector back or stop with
a fault, and are refused in the wrong phase.  `Paced` says how epoch, phase, time and demands go
together at every moment of such a run, and `lawful_of_fresh` that they do, that between calls
the phase tells whether a pause lasts, and that a broken pause stays as it is.
-/

namespace Safepoint.Pauses

open Rendezvous (Phase State Ticket)

variable {Record Host : Type} {world before after : World Record Host} {state : State}
  {tally : Tally}

/-- What the runtime was asked, the latest first. -/
def Tally.asked (tally : Tally) : List Demand := tally.demands.map Prod.fst

/-- Rendezvous and tally go together. -/
structure Paced (state : State) (tally : Tally) : Prop where
  /-- The epoch counts the resumptions that returned. -/
  epoch_eq : state.epoch.toNat = tally.resumed
  timed_eq : state.timed = state.epoch
  timing_of_ne : state.phase ≠ .running → state.timing = true
  stopped_eq : tally.stopped =
    tally.resumed + if state.phase = .suspended ∨ state.phase = .resuming then 1 else 0
  /-- Nothing is asked of the runtime but in the phase for it. -/
  issued : ∀ entry ∈ tally.demands, entry.2 = entry.1.phase
  /-- To suspend and to resume are asked in turn. -/
  alternate : tally.asked.IsChain (· ≠ ·)
  first_ne : tally.asked.getLast? ≠ some .resume
  latest_iff : tally.asked.head? = some .suspend ↔
    state.phase = .requestingSuspend ∨ state.phase = .suspended

namespace Paced

theorem fresh : Paced {} {} where
  epoch_eq := rfl
  timed_eq := rfl
  timing_of_ne phase_ne := absurd rfl phase_ne
  stopped_eq := rfl
  issued := by simp
  alternate := .nil
  first_ne := by simp [Tally.asked]
  latest_iff := by simp [Tally.asked]

theorem latest_ne (paced : Paced state tally) {demand : Demand}
    (phase_eq : state.phase = demand.opens) : tally.asked.head? ≠ some demand := by
  have latest_iff := paced.latest_iff
  rw [phase_eq] at latest_iff
  cases demand with
  | suspend =>
      intro latest
      simp [Demand.opens, latest] at latest_iff
  | resume =>
      intro latest
      simp [Demand.opens, latest] at latest_iff

theorem first_getD_ne (paced : Paced state tally) {demand : Demand}
    (phase_eq : state.phase = demand.opens) : tally.asked.getLast?.getD demand ≠ .resume := by
  have first_ne := paced.first_ne
  cases first : tally.asked.getLast? with
  | some earliest =>
      rw [first] at first_ne
      exact fun earliest_eq => first_ne (congrArg some earliest_eq)
  | none =>
      have nothing := List.getLast?_eq_none_iff.mp first
      have latest_iff := paced.latest_iff
      rw [phase_eq, nothing] at latest_iff
      cases demand with
      | suspend => decide
      | resume => simp [Demand.opens] at latest_iff

theorem start (paced : Paced state tally) {demand : Demand}
    (phase_eq : state.phase = demand.opens) :
    Paced (demand.start state) (tally.demanding demand) where
  epoch_eq := by
    cases demand <;> exact paced.epoch_eq
  timed_eq := by
    cases demand <;> exact paced.timed_eq
  timing_of_ne _ := by
    cases demand with
    | suspend => rfl
    | resume => exact paced.timing_of_ne (by rw [phase_eq]; decide)
  stopped_eq := by
    have stopped_eq := paced.stopped_eq
    rw [phase_eq] at stopped_eq
    cases demand <;> exact stopped_eq
  issued := List.forall_mem_cons.mpr ⟨rfl, paced.issued⟩
  alternate := by
    refine List.isChain_cons.mpr ⟨?_, paced.alternate⟩
    rintro latest latest_mem rfl
    exact paced.latest_ne phase_eq latest_mem
  first_ne := by
    change (demand :: tally.asked).getLast? ≠ some .resume
    rw [List.getLast?_cons]
    exact fun first_eq => paced.first_getD_ne phase_eq (Option.some.inj first_eq)
  latest_iff := by
    cases demand <;> simp [Tally.asked, Tally.demanding, Demand.start]

theorem finish_stop (paced : Paced state tally) (phase_eq : state.phase = .requestingSuspend) :
    Paced (Demand.suspend.finish state) { tally with stopped := tally.stopped + 1 } where
  epoch_eq := paced.epoch_eq
  timed_eq := paced.timed_eq
  timing_of_ne _ := paced.timing_of_ne (by rw [phase_eq]; decide)
  stopped_eq := by
    have stopped_eq := paced.stopped_eq
    rw [phase_eq] at stopped_eq
    exact congrArg (· + 1) stopped_eq
  issued := paced.issued
  alternate := paced.alternate
  first_ne := paced.first_ne
  latest_iff := by
    have latest_iff := paced.latest_iff
    rw [phase_eq] at latest_iff
    simpa [Tally.asked, Demand.finish] using latest_iff

theorem finish_resume (paced : Paced state tally) (phase_eq : state.phase = .resuming)
    (room : tally.resumed + 1 < Word.count) :
    Paced (Demand.resume.finish state) { tally with resumed := tally.resumed + 1 } where
  epoch_eq := by
    have epoch_eq := paced.epoch_eq
    have sum_eq := Word.add?_eq_some_iff.mp
      (show Word.add? state.epoch 1 = some (state.epoch + 1) from if_pos (epoch_eq ▸ room))
    exact sum_eq.symm.trans (congrArg (· + 1) epoch_eq)
  timed_eq := congrArg (· + 1) paced.timed_eq
  timing_of_ne phase_ne := absurd rfl phase_ne
  stopped_eq := by
    have stopped_eq := paced.stopped_eq
    rw [phase_eq] at stopped_eq
    exact stopped_eq
  issued := paced.issued
  alternate := paced.alternate
  first_ne := paced.first_ne
  latest_iff := by
    have latest_iff := paced.latest_iff
    rw [phase_eq] at latest_iff
    simpa [Tally.asked, Demand.finish] using latest_iff

end Paced

/-- Between calls the phase tells whether a pause lasts, or which half of a pause is broken. -/
structure Settled (state : State) (tally : Tally) : Prop where
  whole : tally.broken = none →
    state.phase = if tally.stopped = tally.resumed + 1 then .suspended else .running
  torn : ∀ demand, tally.broken = some demand → state.phase = demand.phase

theorem Settled.unbroken (settled : Settled state tally) {demand : Demand}
    (phase_eq : state.phase = demand.opens) : tally.broken = none := by
  cases broken_eq : tally.broken with
  | none => rfl
  | some broken =>
      have torn := settled.torn broken broken_eq
      rw [phase_eq] at torn
      cases demand <;> cases broken <;> cases torn

theorem Paced.settled (paced : Paced state tally) (demand : Demand)
    (phase_eq : state.phase = demand.closes) (unbroken : tally.broken = none) :
    Settled state tally where
  whole _ := by
    have stopped_eq := paced.stopped_eq
    rw [phase_eq] at stopped_eq ⊢
    cases demand <;> simp [Demand.closes] at stopped_eq ⊢ <;> omega
  torn broken broken_eq := by
    rw [unbroken] at broken_eq
    cases broken_eq

/-- Everything that is seen is paced, and the pause is settled now. -/
structure Kept (world : World Record Host) : Prop where
  paced : ∀ scene ∈ world.scenes, Paced scene.process.rendezvous scene.tally
  settled : Settled world.rendezvous world.host.tally

namespace Kept

theorem now (kept : Kept world) : Paced world.rendezvous world.host.tally :=
  kept.paced _ List.mem_cons_self

theorem fresh (fresh : world.Fresh) : Kept world := by
  have paced : Paced world.rendezvous world.host.tally := by
    rw [fresh.rendezvous_eq, fresh.tally_eq]
    exact .fresh
  refine ⟨List.forall_mem_cons.mpr ⟨paced, ?_⟩, paced.settled .resume ?_ ?_⟩
  · simp [fresh.seen_eq]
  · rw [fresh.rendezvous_eq]
    rfl
  · rw [fresh.tally_eq]

end Kept

theorem Drift.paced (drift : Drift before after)
    (paced : ∀ scene ∈ before.scenes, Paced scene.process.rendezvous scene.tally) :
    ∀ scene ∈ after.scenes, Paced scene.process.rendezvous scene.tally := by
  refine drift.always ?_ paced
  intro before after idle paced
  change Paced after.rendezvous after.host.tally
  rw [idle.rendezvous_eq, idle.tally_eq]
  exact paced

namespace Kept

theorem asked (kept : Kept before) {demand : Demand}
    (phase_eq : before.rendezvous.phase = demand.opens)
    (drift : Drift (before.opened demand) after) :
    ∀ scene ∈ after.scenes, Paced scene.process.rendezvous scene.tally :=
  drift.paced (List.forall_mem_cons.mpr
    ⟨kept.now.start phase_eq, (List.forall_mem_cons.mp kept.paced).2⟩)

theorem drift (kept : Kept before) (drift : Drift before after) : Kept after where
  paced := drift.paced kept.paced
  settled := by
    rw [drift.rendezvous_eq, drift.tally_eq]
    exact kept.settled

theorem stop {parked : World Record Host} (kept : Kept before)
    (running : before.rendezvous.phase = Demand.suspend.opens)
    (drift : Drift (before.opened .suspend) parked) (ticket : Ticket) (stage : Stage)
    (since : Nat) :
    Kept (World.noteSince since ((parked.closed .suspend).addPauseWaiter ticket stage)) := by
  obtain ⟨now, seen⟩ := List.forall_mem_cons.mp (kept.asked running drift)
  have closed := now.finish_stop drift.phase_of_opened
  refine ⟨List.forall_mem_cons.mpr ⟨closed, seen⟩, closed.settled .suspend rfl ?_⟩
  exact drift.broken_of_opened.trans (kept.settled.unbroken running)

theorem resume {freed : World Record Host} (kept : Kept before)
    (suspended : before.rendezvous.phase = Demand.resume.opens)
    (drift : Drift (before.opened .resume) freed)
    (room : before.host.tally.resumed + 1 < Word.count) : Kept (freed.closed .resume) := by
  obtain ⟨now, seen⟩ := List.forall_mem_cons.mp (kept.asked suspended drift)
  have closed := now.finish_resume drift.phase_of_opened (drift.resumed_of_opened ▸ room)
  refine ⟨List.forall_mem_cons.mpr ⟨closed, seen⟩, closed.settled .resume rfl ?_⟩
  exact drift.broken_of_opened.trans (kept.settled.unbroken suspended)

theorem fault {left : World Record Host} {demand : Demand} (kept : Kept before)
    (phase_eq : before.rendezvous.phase = demand.opens)
    (drift : Drift (before.opened demand) left) : Kept (left.broken demand) := by
  obtain ⟨now, seen⟩ := List.forall_mem_cons.mp (kept.asked phase_eq drift)
  refine ⟨List.forall_mem_cons.mpr ⟨{ now with }, seen⟩, ?_, ?_⟩
  · rintro ⟨⟩
  · rintro torn ⟨rfl⟩
    exact drift.phase_of_opened

theorem step (kept : Kept before) (step : Step before after)
    (room : before.host.tally.resumed + 1 < Word.count) : Kept after := by
  cases step with
  | idle drift => exact kept.drift drift
  | stop running drift => exact kept.stop running drift _ _ _
  | resume suspended drift => exact kept.resume suspended drift room
  | fault demand phase_eq drift => exact kept.fault phase_eq drift

end Kept

theorem Step.resumed_le (step : Step before after) :
    after.host.tally.resumed ≤ before.host.tally.resumed + 1 := by
  cases step with
  | idle drift => exact (congrArg Tally.resumed drift.tally_eq).le.trans (Nat.le_succ _)
  | stop running drift => exact drift.resumed_of_opened.le.trans (Nat.le_succ _)
  | resume suspended drift => exact (congrArg (· + 1) drift.resumed_of_opened).le
  | fault demand phase_eq drift => exact drift.resumed_of_opened.le.trans (Nat.le_succ _)

theorem Kept.ready (kept : Kept world) (room : world.host.tally.resumed + 1 < Word.count) :
    world.Ready := by
  intro suspended
  refine ⟨kept.now.timing_of_ne (by rw [suspended]; decide), ?_⟩
  rw [kept.now.timed_eq, kept.now.epoch_eq]
  exact room

theorem World.run_concat (world : World Record Host) (turns : List (Turn Record Host))
    (turn : Turn Record Host) : world.run (turns ++ [turn]) = turn.leave (world.run turns) :=
  List.foldl_append

/--
A run keeps the pauses as they should be, and so whatever drift keeps and steps keep that can be
counted.
-/
theorem run_induction (fresh : world.Fresh) {motive : World Record Host → Prop}
    (start : motive world)
    (drift : ∀ {before after}, Drift before after → motive before → motive after)
    (step : ∀ {before after}, Kept before → before.host.tally.resumed + 1 < Word.count →
      Step before after → motive before → motive after)
    {turns : List (Turn Record Host)} (proper : ∀ turn ∈ turns, turn.Proper)
    (few : turns.countP Turn.isCall < Word.count) :
    Kept (world.run turns) ∧ (world.run turns).host.tally.resumed ≤ turns.countP Turn.isCall ∧
      motive (world.run turns) := by
  induction turns using List.reverseRecOn with
  | nil =>
      refine ⟨.fresh fresh, ?_, start⟩
      change world.host.tally.resumed ≤ 0
      rw [fresh.tally_eq]
  | append_singleton turns turn ih =>
      rw [List.countP_append, List.countP_singleton] at few ⊢
      rw [List.forall_mem_append, List.forall_mem_singleton] at proper
      obtain ⟨kept, resumed_le, now⟩ := ih proper.1 (Nat.lt_of_le_of_lt (Nat.le_add_right _ _) few)
      rw [World.run_concat]
      -- only a call needs room in the epoch; a full count of calls may be followed by other turns
      cases calls : turn.isCall with
      | false =>
          have drifts : Drift (world.run turns) _ := Turn.drift proper.2 calls
          refine ⟨kept.drift drifts, ?_, drift drifts now⟩
          rw [drifts.tally_eq]
          exact resumed_le.trans (Nat.le_add_right _ _)
      | true =>
          rw [calls] at few
          have room := Nat.lt_of_le_of_lt (Nat.add_le_add_right resumed_le 1) few
          have steps := Turn.step proper.2 (kept.ready room)
          exact ⟨kept.step steps room,
            steps.resumed_le.trans (Nat.add_le_add_right resumed_le 1), step kept room steps now⟩

/-- A broken pause stays as it is. -/
theorem drift_run_of_busy (busy : world.Busy) {turns : List (Turn Record Host)}
    (proper : ∀ turn ∈ turns, turn.Proper) : Drift world (world.run turns) := by
  induction turns generalizing world with
  | nil => exact .refl
  | cons turn turns ih =>
      obtain ⟨turn_proper, turns_proper⟩ := List.forall_mem_cons.mp proper
      have first : Drift world (turn.leave world) := by
        cases turn with
        | call made =>
            rw [Turn.leave, made.run_of_phase_ne (busy.phase_ne _)]
            exact .refl
        | move next => exact Turn.drift turn_proper rfl
        | other action => exact Turn.drift turn_proper rfl
      exact first.trans (ih (first.busy busy) turns_proper)

/-- What is certain of the pauses of a process. -/
structure Lawful (world : World Record Host) : Prop where
  /-- At every moment epoch, phase, time and demands go together. -/
  paced : ∀ scene ∈ world.scenes, Paced scene.process.rendezvous scene.tally
  settled : Settled world.rendezvous world.host.tally
  /-- At any moment, also within a call, a call in the wrong phase changes nothing. -/
  refused : ∀ (moment : World Record Host) (call : Call Record Host),
    moment.rendezvous.phase ≠ call.demand.opens →
      call.run moment =
        .error (.phaseMismatch call.demand.opens call.demand.phase moment.rendezvous.phase) moment
  /-- Whatever comes after a pause is broken, no phase changes and nothing is asked. -/
  stuck : ∀ demand, world.host.tally.broken = some demand →
    ∀ later : List (Turn Record Host), (∀ turn ∈ later, turn.Proper) →
      (world.run later).rendezvous = world.rendezvous ∧
        (world.run later).host.tally.demands = world.host.tally.demands

theorem lawful_of_fresh (fresh : world.Fresh) {turns : List (Turn Record Host)}
    (proper : ∀ turn ∈ turns, turn.Proper) (few : turns.countP Turn.isCall < Word.count) :
    Lawful (world.run turns) := by
  obtain ⟨kept, -⟩ := run_induction fresh (motive := fun _ => True) trivial (fun _ _ => trivial)
    (fun _ _ _ _ => trivial) proper few
  refine ⟨kept.paced, kept.settled, fun _ _ => Call.run_of_phase_ne, ?_⟩
  intro demand broken_eq later later_proper
  have drift := drift_run_of_busy ⟨demand, kept.settled.torn demand broken_eq⟩ later_proper
  exact ⟨drift.rendezvous_eq, congrArg Tally.demands drift.tally_eq⟩

/-- A process without a pause so far. -/
def idleWorld : World Unit Unit := .vacant () { inner := () }

/-- A collector whose runtime parks mutators as it is told. -/
def parkingBy (visitsWhileParking : Bool) (park : Report (World Unit Unit) Mutator) :
    Collector Unit (Watched Unit Unit) :=
  { Collector.withRuntime { Runtime.idle with suspendAll := fun _ => park } with
    settings.visitsWhileParking := visitsWhileParking }

/-- A collector whose runtime has nobody to park. -/
def parkingNobody : Collector Unit (Watched Unit Unit) := parkingBy true .done

theorem foreignReport_ofList {Item : Type} (items : List Item) :
    ForeignReport (.ofList items : Report (World Record Host) Item) := by
  induction items with
  | nil => exact .done
  | cons item items ih => exact .item fun _ => ih

theorem foreignReport_fail {Item : Type} (fault : Fault) :
    ForeignReport (.fail fault : Report (World Record Host) Item) :=
  .act (.apart fun world => ⟨rfl, rfl, world.host.inner, rfl⟩) fun _ => .done

/-- Calls the collector back in the midst of a pause, recovers from the fault and looks around. -/
def resumeEarly (_ : Mutator) : Action (World Unit Unit) Unit :=
  carryOn (Call.resume parkingNobody).run fun _ world => .ok () (Move.look.apply world)

theorem foreign_resumeEarly (mutator : Mutator) : Foreign (resumeEarly mutator) :=
  .carryOn (.call _) fun _ => .move .look

/-- A pause whose visitor resumes early, with a call too many at both ends, and one that breaks. -/
def brokenPause : List (Turn Unit Unit) :=
  [.call (.resume parkingNobody),
    .call (.stop (parkingBy true (.ofList [⟨⟨1⟩, ⟨11⟩⟩])) resumeEarly),
    .call (.stop parkingNobody resumeEarly),
    .call (.resume parkingNobody),
    .call (.stop (parkingBy false (.fail (.collaborator "stuck thread"))) resumeEarly),
    .call (.resume parkingNobody)]

theorem brokenPause_proper : ∀ turn ∈ brokenPause, turn.Proper := by
  simp only [brokenPause, List.forall_mem_cons]
  refine ⟨foreign_pure, ⟨fun _ => foreignReport_ofList _, foreign_resumeEarly⟩,
    ⟨fun _ => .done, foreign_resumeEarly⟩, foreign_pure,
    ⟨fun _ => foreignReport_fail _, foreign_resumeEarly⟩, foreign_pure, ?_⟩
  simp

theorem lawful_of_fresh_brokenPause :
    Lawful (idleWorld.run brokenPause) ∧
      (idleWorld.run brokenPause).rendezvous =
        { epoch := 1, phase := .requestingSuspend, timing := true, timed := 1 } ∧
      (idleWorld.run brokenPause).host.tally =
        { demands := [(.suspend, .requestingSuspend), (.resume, .resuming),
            (.suspend, .requestingSuspend)]
          stopped := 1
          resumed := 1
          broken := some .suspend } ∧
      (idleWorld.run brokenPause).host.seen.map (fun scene => scene.process.rendezvous.phase) =
        [.requestingSuspend] :=
  ⟨lawful_of_fresh ⟨rfl, rfl, rfl, rfl, rfl⟩ brokenPause_proper (by decide), rfl, rfl, rfl⟩

end Safepoint.Pauses
