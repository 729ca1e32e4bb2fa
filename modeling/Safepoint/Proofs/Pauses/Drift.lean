import Safepoint.Proofs.Pauses.Watching
import Mathlib.Logic.Relation

/-!
# What a turn can do

While a pause begins or ends every other call is refused, so collaborators can do no more meanwhile
than let the rest of the world drift.  `Call.step` and `Turn.step` list what a call and a turn can
make of the world; statements about runs go by cases on that list.
-/

namespace Safepoint.Pauses

open Rendezvous (Phase State Ticket)

variable {Record Host Value Other : Type}

/-- What a call does to the rendezvous before it asks the runtime. -/
def Demand.start (demand : Demand) (state : State) : State :=
  match demand with
  | suspend => { state with phase := .requestingSuspend, timing := true }
  | resume => { state with phase := .resuming }

/-- What a call does to the rendezvous after the runtime has done as asked. -/
def Demand.finish (demand : Demand) (state : State) : State :=
  match demand with
  | suspend => { state with phase := .suspended }
  | resume =>
      { state with
        epoch := state.epoch + 1
        phase := .running
        timing := false
        timed := state.timed + 1 }

/-- What happens between the two changes of phase of a stop. -/
def park (collector : Collector Record Host)
    (visit : Mutator → Action (Process Record Host) Unit) : Action (Process Record Host) Unit :=
  if collector.settings.visitsWhileParking then
    (collector.runtime.suspendAll true).run visit
  else do
    (collector.runtime.suspendAll false).run fun _ => pure ()
    Process.onRoster Roster.resetPass
    Collector.visitPass visit (Collector.visitLimit (← get))

theorem stopAll_eq (collector : Collector Record Host)
    (visit : Mutator → Action (Process Record Host) Unit) :
    collector.stopAll visit = (do
      let ticket := (← get).rendezvous.ticket
      Process.onRendezvous (State.shift .running .requestingSuspend)
      Process.onRendezvous State.startTiming
      park collector visit
      Process.onRendezvous (State.shift .requestingSuspend .suspended)
      return ticket) := by
  unfold Collector.stopAll park
  cases parking : collector.settings.visitsWhileParking <;> simp

theorem stopAll_of_running {process : Process Record Host} (collector : Collector Record Host)
    (visit : Mutator → Action (Process Record Host) Unit)
    (running : process.rendezvous.phase = .running) :
    collector.stopAll visit process =
      (do
        park collector visit
        Process.onRendezvous (State.shift .requestingSuspend .suspended)
        return process.rendezvous.ticket)
      { process with rendezvous := Demand.suspend.start process.rendezvous } := by
  rw [stopAll_eq]
  obtain ⟨heap, roster, counts, status, requests, blobs, ⟨epoch, phase, timing, timed⟩,
    pauseWaiters, collectionWaiters, host⟩ := process
  cases running
  rfl

/-- What happens when the runtime has let all mutators run again. -/
def finishAll : Action (Process Record Host) Unit := do
  Process.onRendezvous do
    State.advance
    State.shift .resuming .running
  modify Process.wakePauseWaiters
  Process.onRendezvous State.stopTiming

theorem resumeAll_of_suspended {process : Process Record Host} (collector : Collector Record Host)
    (suspended : process.rendezvous.phase = .suspended) :
    collector.resumeAll process =
      (do
        collector.runtime.resumeAll
        finishAll)
      { process with rendezvous := Demand.resume.start process.rendezvous } := by
  obtain ⟨heap, roster, counts, status, requests, blobs, ⟨epoch, phase, timing, timed⟩,
    pauseWaiters, collectionWaiters, host⟩ := process
  cases suspended
  rfl

theorem finishAll_of_room {process : Process Record Host} {state : State}
    (rendezvous_eq : process.rendezvous = Demand.resume.start state)
    (timing : state.timing = true) (room : state.timed.toNat + 1 < Word.count) :
    finishAll process =
      .ok ()
        { process.wakePauseWaiters with
          rendezvous := Demand.resume.finish process.rendezvous } := by
  have timed_eq : Word.add? state.timed 1 = some (state.timed + 1) := if_pos room
  have ended : Process.onRendezvous (do State.advance; State.shift .resuming .running) process =
      .ok () { process with
        rendezvous := { process.rendezvous with
          epoch := process.rendezvous.epoch + 1
          phase := .running } } := by
    refine Action.onPart_ok ?_
    rw [rendezvous_eq]
    rfl
  refine (Action.bind_of_ok ended).trans ((Action.bind_of_ok rfl).trans (Action.onPart_ok ?_))
  simp only [rendezvous_eq, Demand.start, Demand.finish, State.stopTiming, timing, timed_eq,
    if_true, Process.wakePauseWaiters]

/-- A call in the wrong phase asks nothing and changes nothing. -/
theorem Call.run_of_phase_ne {world : World Record Host} {call : Call Record Host}
    (phase_ne : world.rendezvous.phase ≠ call.demand.opens) :
    call.run world =
      .error (.phaseMismatch call.demand.opens call.demand.phase world.rendezvous.phase) world := by
  have refused : Process.onRendezvous (State.shift call.demand.opens call.demand.phase) world =
      .error (.phaseMismatch call.demand.opens call.demand.phase world.rendezvous.phase) world :=
    Action.onPart_error (show State.shift _ _ world.rendezvous = .error _ _ from if_neg phase_ne)
  have performed : call.perform world =
      .error (.phaseMismatch call.demand.opens call.demand.phase world.rendezvous.phase) world := by
    cases call with
    | stop collector visit =>
        refine Action.bind_of_error ?_
        rw [stopAll_eq]
        exact (Action.bind_of_ok rfl).trans (Action.bind_of_error refused)
    | resume collector => exact Action.bind_of_error (Action.bind_of_error refused)
  simp only [run, performed, Nat.lt_irrefl, if_false]

/-- The world with nothing changed that calls or moves change, or after one move. -/
inductive Idle : World Record Host → World Record Host → Prop where
  | apart {before after : World Record Host} (apart : Apart before after) : Idle before after
  | move (world : World Record Host) (move : Move) : Idle world (move.apply world)

/-- The world after any time without a change of phase. -/
abbrev Drift : World Record Host → World Record Host → Prop := Relation.ReflTransGen Idle

/-- A pause begins or ends. -/
def World.Busy (world : World Record Host) : Prop :=
  ∃ demand : Demand, world.rendezvous.phase = demand.phase

variable {world before after : World Record Host}

theorem World.Busy.phase_ne (busy : world.Busy) (demand : Demand) :
    world.rendezvous.phase ≠ demand.opens := by
  obtain ⟨made, phase_eq⟩ := busy
  rw [phase_eq]
  cases made <;> cases demand <;> decide

theorem Idle.rendezvous_eq (idle : Idle before after) : after.rendezvous = before.rendezvous := by
  cases idle with
  | apart apart => exact apart.rendezvous_eq
  | move move => cases move <;> rfl

theorem Idle.tally_eq (idle : Idle before after) : after.host.tally = before.host.tally := by
  cases idle with
  | apart apart =>
      obtain ⟨inner, host_eq⟩ := apart.host_eq
      rw [host_eq]
  | move move => cases move <;> rfl

theorem Idle.seen_subset (idle : Idle before after) : after.host.seen ⊆ before.scenes := by
  cases idle with
  | apart apart =>
      obtain ⟨inner, host_eq⟩ := apart.host_eq
      rw [host_eq]
      exact List.subset_cons_self _ _
  | move move =>
      cases move with
      | look => exact List.Subset.refl _
      | _ => exact List.subset_cons_self _ _

namespace Drift

theorem rendezvous_eq (drift : Drift before after) : after.rendezvous = before.rendezvous := by
  induction drift with
  | refl => rfl
  | tail _ idle ih => exact idle.rendezvous_eq.trans ih

theorem tally_eq (drift : Drift before after) : after.host.tally = before.host.tally := by
  induction drift with
  | refl => rfl
  | tail _ idle ih => exact idle.tally_eq.trans ih

theorem busy (drift : Drift before after) (before_busy : before.Busy) : after.Busy := by
  obtain ⟨demand, phase_eq⟩ := before_busy
  exact ⟨demand, drift.rendezvous_eq ▸ phase_eq⟩

/-- What no single change breaks holds of everything that is seen. -/
theorem always {property : Scene Record Host → Prop}
    (kept : ∀ {before after : World Record Host}, Idle before after → property before.scene →
      property after.scene)
    (drift : Drift before after) (always_before : ∀ scene ∈ before.scenes, property scene) :
    ∀ scene ∈ after.scenes, property scene := by
  induction drift with
  | refl => exact always_before
  | tail _ idle ih =>
      refine List.forall_mem_cons.mpr ⟨kept idle (ih _ List.mem_cons_self), ?_⟩
      intro scene scene_mem
      exact ih scene (idle.seen_subset scene_mem)

theorem bind {first : Action (World Record Host) Value}
    {next : Value → Action (World Record Host) Other}
    (first_drift : Drift world (Action.left (first world)))
    (rest_drift : ∀ value, Drift (Action.left (first world))
      (Action.left (next value (Action.left (first world))))) :
    Drift world (Action.left ((first >>= next) world)) := by
  change Drift world (Action.left (EStateM.bind first next world))
  unfold EStateM.bind
  cases ending : first world with
  | ok value middle =>
      rw [ending] at first_drift rest_drift
      exact first_drift.trans (rest_drift value)
  | error fault middle =>
      rw [ending] at first_drift
      exact first_drift

end Drift

theorem foreign_pure : Foreign (pure () : Action (World Record Host) Unit) :=
  .apart fun world => ⟨rfl, rfl, world.host.inner, rfl⟩

theorem Foreign.drift {action : Action (World Record Host) Unit} (foreign : Foreign action)
    (busy : world.Busy) : Drift world (Action.left (action world)) := by
  induction foreign generalizing world with
  | apart keeps => exact .single (.apart (keeps world))
  | move move => exact .single (.move world move)
  | call call =>
      rw [call.run_of_phase_ne (busy.phase_ne _)]
      exact .refl
  | carryOn _ _ before_ih after_ih =>
      have first_drift := before_ih busy
      exact first_drift.trans (after_ih _ (first_drift.busy busy))

theorem ForeignReport.drift {Item : Type} {report : Report (World Record Host) Item}
    {listen : Item → Action (World Record Host) Unit} (foreign : ForeignReport report)
    (listen_foreign : ∀ item, Foreign (listen item)) (busy : world.Busy) :
    Drift world (Action.left (report.run listen world)) := by
  induction foreign generalizing world with
  | done => exact .refl
  | @act step next before _ ih =>
      have step_drift := before.drift busy
      unfold Report.run
      cases ending : step world with
      | ok value middle =>
          rw [ending] at step_drift
          exact step_drift.trans (ih middle (step_drift.busy busy))
      | error fault middle =>
          rw [ending] at step_drift
          exact step_drift
  | @item item next _ ih =>
      have item_drift := (listen_foreign item).drift busy
      unfold Report.run
      cases ending : listen item world with
      | ok value middle =>
          rw [ending] at item_drift
          exact item_drift.trans (ih middle (item_drift.busy busy))
      | error fault middle =>
          rw [ending] at item_drift
          exact item_drift

theorem drift_onRoster (action : Action Roster Value) (world : World Record Host) :
    Drift world (Action.left (Process.onRoster action world)) := by
  refine .single (.apart ?_)
  unfold Process.onRoster Action.onPart Action.mapState
  cases action world.roster <;> exact ⟨rfl, rfl, world.host.inner, rfl⟩

-- A pass may be rearmed by its visitor, so the induction is on the visits left, not on the roster.
theorem drift_visitPass {visit : Mutator → Action (World Record Host) Unit}
    (visit_foreign : ∀ mutator, Foreign (visit mutator)) (visits : Nat) (busy : world.Busy) :
    Drift world (Action.left (Collector.visitPass visit visits world)) := by
  induction visits generalizing world with
  | zero =>
      refine .bind (drift_onRoster _ world) fun mutator? => ?_
      cases mutator? <;> exact .refl
  | succ visits ih =>
      refine .bind (drift_onRoster _ world) fun mutator? => ?_
      have handed_busy := (drift_onRoster Roster.next world).busy busy
      cases mutator? with
      | none => exact .refl
      | some mutator =>
          have visited := (visit_foreign mutator).drift handed_busy
          exact .bind visited fun _ => ih (visited.busy handed_busy)

theorem drift_park {collector : Collector Record (Watched Record Host)}
    {visit : Mutator → Action (World Record Host) Unit}
    (proper : (Call.stop collector visit).Proper) (busy : world.Busy) :
    Drift world (Action.left (park collector visit world)) := by
  obtain ⟨suspend_foreign, visit_foreign⟩ := proper
  unfold park
  split
  · exact (suspend_foreign true).drift visit_foreign busy
  · have suspended := (suspend_foreign false).drift (fun _ : Mutator => foreign_pure) busy
    have reset := drift_onRoster Roster.resetPass
      (Action.left ((collector.runtime.suspendAll false).run (fun _ => pure ()) world))
    refine .bind suspended fun _ => .bind reset fun _ => .bind .refl fun process => ?_
    exact drift_visitPass visit_foreign (Collector.visitLimit process)
      (reset.busy (suspended.busy busy))

/-! ## The steps of a run -/

/-- The tally once the runtime is asked in the phase for it. -/
def Tally.demanding (tally : Tally) (demand : Demand) : Tally :=
  { tally with demands := (demand, demand.phase) :: tally.demands }

namespace World

/-- The world in which a call has asked the runtime. -/
def opened (demand : Demand) (world : World Record Host) : World Record Host :=
  setTally (world.host.tally.demanding demand)
    { world with rendezvous := demand.start world.rendezvous }

/-- The world in which a call has returned; the end of a resumption wakes whoever sleeps. -/
def closed (demand : Demand) (world : World Record Host) : World Record Host :=
  returned demand
    { world with
      rendezvous := demand.finish world.rendezvous
      pauseWaiters :=
        match demand with
        | .suspend => world.pauseWaiters
        | .resume => world.pauseWaiters.map .wake }

end World

theorem World.busy_opened (world : World Record Host) (demand : Demand) :
    (world.opened demand).Busy := by
  refine ⟨demand, ?_⟩
  cases demand <;> rfl

namespace Drift

variable {demand : Demand}

theorem phase_of_opened (drift : Drift (before.opened demand) after) :
    after.rendezvous.phase = demand.phase := by
  rw [drift.rendezvous_eq]
  cases demand <;> rfl

theorem resumed_of_opened (drift : Drift (before.opened demand) after) :
    after.host.tally.resumed = before.host.tally.resumed := by
  rw [drift.tally_eq]
  rfl

theorem broken_of_opened (drift : Drift (before.opened demand) after) :
    after.host.tally.broken = before.host.tally.broken := by
  rw [drift.tally_eq]
  rfl

end Drift

/-- What a turn can make of the world. -/
inductive Step (world : World Record Host) : World Record Host → Prop where
  | idle {after : World Record Host} (drift : Drift world after) : Step world after
  | stop {parked : World Record Host} (running : world.rendezvous.phase = Demand.suspend.opens)
      (drift : Drift (world.opened .suspend) parked) :
      Step world (World.noteSince world.host.tally.resumed
        ((parked.closed .suspend).addPauseWaiter world.rendezvous.ticket .ahead))
  | resume {freed : World Record Host} (suspended : world.rendezvous.phase = Demand.resume.opens)
      (drift : Drift (world.opened .resume) freed) : Step world (freed.closed .resume)
  | fault {left : World Record Host} (demand : Demand)
      (phase_eq : world.rendezvous.phase = demand.opens)
      (drift : Drift (world.opened demand) left) : Step world (left.broken demand)

section

variable {collector : Collector Record (Watched Record Host)}
  {visit : Mutator → Action (World Record Host) Unit}

/-- What the watched collector does after its first step is what the collector itself does. -/
theorem park_watch (world : World Record Host) :
    park (watch collector) visit
        { world with rendezvous := Demand.suspend.start world.rendezvous } =
      park collector visit (world.opened .suspend) := by
  unfold park
  by_cases parking : collector.settings.visitsWhileParking
  · rw [if_pos parking, if_pos (show (watch collector).settings.visitsWhileParking from parking)]
    rfl
  · rw [if_neg parking, if_neg (show ¬(watch collector).settings.visitsWhileParking from parking)]
    rfl

/-- A call that has asked the runtime and meets a fault leaves the pause broken. -/
theorem Call.step_of_fault {call : Call Record Host} {fault : Fault} {left : World Record Host}
    (phase_eq : world.rendezvous.phase = call.demand.opens)
    (drift : Drift (world.opened call.demand) left)
    (ends : call.perform world = .error fault left) :
    Step world (Action.left (call.run world)) := by
  have grown : world.host.tally.demands.length < left.host.tally.demands.length := by
    rw [drift.tally_eq]
    exact Nat.lt_succ_self _
  simp only [Call.run, ends, grown, if_true]
  exact .fault call.demand phase_eq drift

theorem Call.step_stop (proper : (Call.stop collector visit).Proper)
    (running : world.rendezvous.phase = Demand.suspend.opens) :
    Step world (Action.left ((Call.stop collector visit).run world)) := by
  have drift := drift_park proper (world.busy_opened .suspend)
  have stopped := stopAll_of_running (watch collector) visit running
  rw [← park_watch] at drift
  cases ending : park (watch collector) visit
      { world with rendezvous := Demand.suspend.start world.rendezvous } with
  | ok value parked =>
      rw [ending] at drift
      have shifted : Process.onRendezvous (State.shift .requestingSuspend .suspended) parked =
          .ok () { parked with rendezvous := Demand.suspend.finish parked.rendezvous } :=
        Action.onPart_ok (if_pos (congrArg State.phase drift.rendezvous_eq))
      rw [Action.bind_of_ok ending] at stopped
      have performed : (Call.stop collector visit).perform world =
          .ok (some world.rendezvous.ticket)
            { parked with rendezvous := Demand.suspend.finish parked.rendezvous } :=
        Action.bind_of_ok (stopped.trans (Action.bind_of_ok shifted))
      simp only [Call.run, performed]
      exact .stop running drift
  | error fault left =>
      rw [ending] at drift
      rw [Action.bind_of_error ending] at stopped
      exact Call.step_of_fault running drift (Action.bind_of_error stopped)

/-- The call is made in the wrong phase, or its end can be counted. -/
def World.Ready (world : World Record Host) : Prop :=
  world.rendezvous.phase = .suspended →
    world.rendezvous.timing = true ∧ world.rendezvous.timed.toNat + 1 < Word.count

theorem Call.step_resume (proper : (Call.resume collector).Proper)
    (suspended : world.rendezvous.phase = Demand.resume.opens) (ready : world.Ready) :
    Step world (Action.left ((Call.resume collector).run world)) := by
  obtain ⟨timing, room⟩ := ready suspended
  have drift := Foreign.drift proper (world.busy_opened .resume)
  have resumed := resumeAll_of_suspended (watch collector) suspended
  have asked : (watch collector).runtime.resumeAll
      { world with rendezvous := Demand.resume.start world.rendezvous } =
        collector.runtime.resumeAll (world.opened .resume) := rfl
  cases ending : collector.runtime.resumeAll (world.opened .resume) with
  | ok value freed =>
      rw [ending] at drift
      have finished : finishAll freed = _ := finishAll_of_room drift.rendezvous_eq timing room
      rw [Action.bind_of_ok (asked.trans ending)] at resumed
      have performed : (Call.resume collector).perform world =
          .ok none
            { freed.wakePauseWaiters with
              rendezvous := Demand.resume.finish freed.rendezvous } :=
        Action.bind_of_ok (resumed.trans finished)
      simp only [Call.run, performed]
      exact .resume suspended drift
  | error fault left =>
      rw [ending] at drift
      rw [Action.bind_of_error (asked.trans ending)] at resumed
      exact Call.step_of_fault suspended drift (Action.bind_of_error resumed)

end

theorem Call.step {call : Call Record Host} (proper : call.Proper) (ready : world.Ready) :
    Step world (Action.left (call.run world)) := by
  by_cases phase_eq : world.rendezvous.phase = call.demand.opens
  · cases call with
    | stop collector visit => exact Call.step_stop proper phase_eq
    | resume collector => exact Call.step_resume proper phase_eq ready
  · rw [call.run_of_phase_ne phase_eq]
    exact .idle .refl

theorem Turn.drift {turn : Turn Record Host} (proper : turn.Proper) (silent : turn.isCall = false) :
    Drift world (turn.leave world) := by
  cases turn with
  | call made => cases silent
  | move next => exact .single (.move world next)
  | other action => exact .single (.apart (proper world))

theorem Turn.step {turn : Turn Record Host} (proper : turn.Proper) (ready : world.Ready) :
    Step world (turn.leave world) := by
  cases turn with
  | call made => exact Call.step proper ready
  | move next => exact .idle (Turn.drift proper rfl)
  | other action => exact .idle (Turn.drift proper rfl)

end Safepoint.Pauses
