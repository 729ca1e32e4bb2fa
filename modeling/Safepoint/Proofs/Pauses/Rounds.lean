import Safepoint.Proofs.Mutators.Lifetimes
import Safepoint.Proofs.Pauses.Drift
import Safepoint.Proofs.Vacant

/-!
# The round of visits in a pause

A stop hands every mutator to a visitor.  Either the runtime calls the visitor while it parks them,
or the collector goes over the roster when all are parked.  The second way uses the one pass that
the roster has, which somebody may have left half-way, and the visitor may attach and detach
mutators all the while.  `stopAll_visits` says that none of this matters: both ways visit the same
mutators, in the same order, and leave the pause in the same state.
-/

namespace Safepoint.Rounds

open Rendezvous (State)

/-- The outside world, beside a list of the visits. -/
structure Attended (Host : Type) where
  inner : Host
  /-- The mutators that the visitor was called with, the first one first. -/
  visited : List Mutator := []

/-- A process whose visits are listed. -/
abbrev World (Record Host : Type) : Type := Process Record (Attended Host)

variable {Record Host : Type}

/-- The world once a visit is on the list. -/
def World.attend (mutator : Mutator) (world : World Record Host) : World Record Host :=
  { world with host := { world.host with visited := world.host.visited ++ [mutator] } }

/-- The visitor, with each call put on the list. -/
def noting (visit : Mutator → Action (World Record Host) Unit) (mutator : Mutator) :
    Action (World Record Host) Unit := fun world =>
  visit mutator (world.attend mutator)

/--
What others may do while a pause begins: anything but visit.  The rendezvous needs no protection in
any other phase; in this one every call that would change it is refused.
-/
structure Beside (before after : World Record Host) : Prop where
  visited_eq : after.host.visited = before.host.visited
  rendezvous_eq : before.rendezvous.phase = .requestingSuspend →
    after.rendezvous = before.rendezvous

theorem Beside.trans {before middle after : World Record Host} (first : Beside before middle)
    (second : Beside middle after) : Beside before after where
  visited_eq := second.visited_eq.trans first.visited_eq
  rendezvous_eq begins := by
    have first_eq := first.rendezvous_eq begins
    exact (second.rendezvous_eq (first_eq ▸ begins)).trans first_eq

/-- A visitor that meets no fault while a pause begins, and takes nobody from the roster's pass. -/
def Polite (visit : Mutator → Action (World Record Host) Unit) : Prop :=
  ∀ mutator (world : World Record Host), world.rendezvous.phase = .requestingSuspend →
    ∃ after, visit mutator world = .ok () after ∧ Beside world after ∧
      after.roster.pass = world.roster.pass

/-- Makes calls that attach and detach, and recovers from every fault of them. -/
def arrange (world : World Record Host) (calls : List Lifetimes.Call) : World Record Host :=
  calls.foldl (fun world call => (Lifetimes.State.after ⟨world, []⟩ call).process) world

theorem beside_call (world : World Record Host) (call : Lifetimes.Call) :
    Beside world (Lifetimes.State.after ⟨world, []⟩ call).process ∧
      (Lifetimes.State.after ⟨world, []⟩ call).process.roster.pass = world.roster.pass := by
  cases call with
  | bind thread =>
      cases bound : world.roster.isMutator thread with
      | true =>
          rw [@Lifetimes.State.after_bind_of_bound _ _ ⟨world, []⟩ thread bound]
          exact ⟨⟨rfl, fun _ => rfl⟩, rfl⟩
      | false =>
          rw [@Lifetimes.State.after_bind_of_free _ _ ⟨world, []⟩ thread bound]
          exact ⟨⟨rfl, fun _ => rfl⟩, rfl⟩
  | destroy mutator =>
      rw [Lifetimes.State.after_destroy]
      exact ⟨⟨rfl, fun _ => rfl⟩, rfl⟩

theorem beside_arrange (world : World Record Host) (calls : List Lifetimes.Call) :
    Beside world (arrange world calls) ∧ (arrange world calls).roster.pass = world.roster.pass := by
  induction calls generalizing world with
  | nil => exact ⟨⟨rfl, fun _ => rfl⟩, rfl⟩
  | cons call calls ih =>
      obtain ⟨first, first_pass⟩ := beside_call world call
      obtain ⟨rest, rest_pass⟩ := ih (Lifetimes.State.after ⟨world, []⟩ call).process
      exact ⟨first.trans rest, rest_pass.trans first_pass⟩

theorem polite_arrange (calls : Mutator → List Lifetimes.Call) :
    Polite fun mutator (world : World Record Host) => .ok () (arrange world (calls mutator)) :=
  fun mutator world _ => ⟨_, rfl, beside_arrange world (calls mutator)⟩

/-- These mutators were visited since, and the pause still begins as it did. -/
structure Round (before : World Record Host) (mutators : List Mutator)
    (after : World Record Host) : Prop where
  visited_eq : after.host.visited = before.host.visited ++ mutators
  rendezvous_eq : after.rendezvous = before.rendezvous
  begins : after.rendezvous.phase = .requestingSuspend

namespace Round

variable {before world after : World Record Host} {mutators : List Mutator}

theorem start (phase_eq : before.rendezvous.phase = .requestingSuspend) :
    Round before [] before where
  visited_eq := (List.append_nil _).symm
  rendezvous_eq := rfl
  begins := phase_eq

theorem beside (round : Round before mutators world) (beside : Beside world after) :
    Round before mutators after := by
  have rendezvous_eq := beside.rendezvous_eq round.begins
  exact ⟨beside.visited_eq.trans round.visited_eq, rendezvous_eq.trans round.rendezvous_eq,
    rendezvous_eq ▸ round.begins⟩

theorem visit (round : Round before mutators world)
    {visit : Mutator → Action (World Record Host) Unit} (polite : Polite visit)
    (mutator : Mutator) :
    ∃ after, noting visit mutator world = .ok () after ∧
      Round before (mutators ++ [mutator]) after ∧
      after.roster.pass = world.roster.pass := by
  have attended : Round before (mutators ++ [mutator]) (world.attend mutator) :=
    ⟨(congrArg (· ++ [mutator]) round.visited_eq).trans (List.append_assoc _ _ _),
      round.rendezvous_eq, round.begins⟩
  obtain ⟨after, ended, beside, pass_eq⟩ := polite mutator (world.attend mutator) round.begins
  exact ⟨after, ended, attended.beside beside, pass_eq⟩

/-- A pass that only the collector drives visits what it has still to hand out. -/
theorem pass (round : Round before mutators world)
    {visit : Mutator → Action (World Record Host) Unit} (polite : Polite visit)
    {rest : List Mutator} (left : world.roster.pass.getD world.roster.attached = rest)
    {visits : Nat} (enough : rest.length ≤ visits) :
    ∃ after, Collector.visitPass (noting visit) visits world = .ok () after ∧
      Round before (mutators ++ rest) after ∧ after.roster.pass = none := by
  induction rest generalizing visits mutators world with
  | nil =>
      have spent : Process.onRoster Roster.next world = _ := Action.onPart_ok (Roster.next_nil left)
      let ended : World Record Host := { world with roster := { world.roster with pass := none } }
      have round_ended : Round before mutators ended := round.beside ⟨rfl, fun _ => rfl⟩
      rw [List.append_nil]
      refine ⟨ended, ?_, round_ended, rfl⟩
      cases visits with
      | zero => exact Action.bind_of_ok spent
      | succ visits => exact Action.bind_of_ok spent
  | cons mutator rest ih =>
      obtain ⟨visits, rfl⟩ := Nat.exists_eq_succ_of_ne_zero
        (Nat.ne_of_gt (Nat.lt_of_lt_of_le (Nat.succ_pos _) enough))
      have handed : Process.onRoster Roster.next world = _ :=
        Action.onPart_ok (Roster.next_cons left)
      let going : World Record Host :=
        { world with roster := { world.roster with pass := some rest } }
      have round_going : Round before mutators going := round.beside ⟨rfl, fun _ => rfl⟩
      obtain ⟨middle, visited, round_middle, pass_eq⟩ := round_going.visit polite mutator
      obtain ⟨after, rest_ended, round_after, pass_none⟩ :=
        ih round_middle (by rw [pass_eq, Option.getD_some]) (Nat.le_of_succ_le_succ enough)
      refine ⟨after, ?_, ?_, pass_none⟩
      · exact (Action.bind_of_ok handed).trans ((Action.bind_of_ok visited).trans rest_ended)
      · rwa [List.append_assoc, List.singleton_append] at round_after

end Round

/-- The world in which the runtime is asked to park all mutators. -/
def asked (world : World Record Host) : World Record Host :=
  { world with
    rendezvous := { world.rendezvous with phase := .requestingSuspend, timing := true } }

/-- A stop has visited these mutators, and the pause lasts. -/
structure Paused (before : World Record Host) (mutators : List Mutator)
    (after : World Record Host) : Prop where
  visited_eq : after.host.visited = before.host.visited ++ mutators
  rendezvous_eq : after.rendezvous = { before.rendezvous with phase := .suspended, timing := true }

section Stops

variable {collector : Collector Record (Attended Host)}
variable {visit : Mutator → Action (World Record Host) Unit}
variable {world parked after : World Record Host} {mutators : List Mutator}

/-- Once the round is made nothing can go wrong with a stop. -/
theorem stopAll_of_round (running : world.rendezvous.phase = .running)
    (ended : Pauses.park collector (noting visit) (asked world) = .ok () after)
    (round : Round (asked world) mutators after) :
    collector.stopAll (noting visit) world =
        .ok world.rendezvous.ticket
          { after with rendezvous := { after.rendezvous with phase := .suspended } } ∧
      Paused world mutators
        { after with rendezvous := { after.rendezvous with phase := .suspended } } := by
  have shifted : Process.onRendezvous (State.shift .requestingSuspend .suspended) after = _ :=
    Action.onPart_ok (if_pos round.begins)
  refine ⟨?_, round.visited_eq, ?_⟩
  · rw [Pauses.stopAll_of_running collector _ running]
    exact (Action.bind_of_ok ended).trans (Action.bind_of_ok shifted)
  · rw [round.rendezvous_eq]
    rfl

/--
A stop in a process with any roster, and any pass left half-way, visits each mutator once that is
attached when all are parked, in the order in which they were attached, and the next pass begins
anew.  A runtime that reports those mutators has the same visited, for the same ticket.
-/
theorem stopAll_visits (polite : Polite visit) (running : world.rendezvous.phase = .running)
    (walks : collector.settings.visitsWhileParking = false)
    (parks : (collector.runtime.suspendAll false).run (fun _ => pure ()) (asked world) =
      .ok () parked)
    (beside : Beside (asked world) parked) :
    ∃ after, collector.stopAll (noting visit) world = .ok world.rendezvous.ticket after ∧
      Paused world parked.roster.attached after ∧ after.roster.pass = none ∧
      ∀ reporter : Collector Record (Attended Host),
        reporter.settings.visitsWhileParking = true →
        (reporter.runtime.suspendAll true).Recites Beside parked.roster.attached →
          ∃ other, reporter.stopAll (noting visit) world = .ok world.rendezvous.ticket other ∧
            Paused world parked.roster.attached other := by
  have begins : Round (asked world) [] (asked world) := .start rfl
  have reset : Process.onRoster Roster.resetPass parked = _ := Action.onPart_ok rfl
  let rearmed : World Record Host := { parked with roster := { parked.roster with pass := none } }
  have round_rearmed : Round (asked world) [] rearmed :=
    (begins.beside beside).beside ⟨rfl, fun _ => rfl⟩
  obtain ⟨visited, walk_eq, round, pass_eq⟩ :=
    round_rearmed.pass polite rfl (Nat.le_add_right _ Word.count)
  have park_eq : Pauses.park collector (noting visit) (asked world) = .ok () visited := by
    unfold Pauses.park
    rw [if_neg (by simp [walks])]
    refine (Action.bind_of_ok parks).trans ((Action.bind_of_ok reset).trans ?_)
    exact (Action.bind_of_ok rfl).trans walk_eq
  obtain ⟨stopped, paused⟩ := stopAll_of_round running park_eq round
  refine ⟨_, stopped, paused, pass_eq, fun reporter reports recites => ?_⟩
  obtain ⟨heard, run_eq, other_round⟩ := recites.run (motive := Round (asked world))
    (fun _ _ _ aside round => round.beside aside)
    (fun _ mutator _ round => by
      obtain ⟨after, ended, round_after, -⟩ := round.visit polite mutator
      exact ⟨after, ended, round_after⟩)
    begins
  have other_eq : Pauses.park reporter (noting visit) (asked world) = .ok () heard := by
    unfold Pauses.park
    rw [if_pos reports]
    exact run_eq
  exact ⟨_, stopAll_of_round running other_eq other_round⟩

end Stops

/-- Three threads are bound, and somebody has taken the first of them from a pass. -/
private def passBegun : World Unit Unit :=
  Action.left (Process.onRoster Roster.next
    (arrange (.vacant () { inner := () }) [.bind ⟨11⟩, .bind ⟨12⟩, .bind ⟨13⟩]))

/-- On the first visit, the second mutator is detached and a new one attached. -/
private def replaceSecond (mutator : Mutator) : Action (World Unit Unit) Unit := fun world =>
  .ok () (arrange world (if mutator.thread = ⟨11⟩ then [.destroy ⟨⟨1⟩, ⟨12⟩⟩, .bind ⟨14⟩] else []))

/-- A collector whose runtime reports the three, if it is asked to. -/
private def reportingThree (visitsWhileParking : Bool) : Collector Unit (Attended Unit) :=
  { Collector.withRuntime
      { Runtime.idle with
        suspendAll := fun reporting =>
          if reporting then .ofList [⟨⟨0⟩, ⟨11⟩⟩, ⟨⟨1⟩, ⟨12⟩⟩, ⟨⟨2⟩, ⟨13⟩⟩] else .done } with
    settings.visitsWhileParking := visitsWhileParking }

/-- Who is detached in the course of a round is visited, and who is attached is not. -/
theorem stopAll_visits_replacing :
    passBegun.roster.pass = some [⟨⟨1⟩, ⟨12⟩⟩, ⟨⟨2⟩, ⟨13⟩⟩] ∧
      ∃ after other,
        (reportingThree false).stopAll (noting replaceSecond) passBegun = .ok ⟨0⟩ after ∧
        (reportingThree true).stopAll (noting replaceSecond) passBegun = .ok ⟨0⟩ other ∧
        after.host.visited = [⟨⟨0⟩, ⟨11⟩⟩, ⟨⟨1⟩, ⟨12⟩⟩, ⟨⟨2⟩, ⟨13⟩⟩] ∧
        other.host.visited = [⟨⟨0⟩, ⟨11⟩⟩, ⟨⟨1⟩, ⟨12⟩⟩, ⟨⟨2⟩, ⟨13⟩⟩] ∧
        after.roster.pass = none := by
  obtain ⟨after, stopped, paused, pass_eq, others⟩ :=
    @stopAll_visits Unit Unit (reportingThree false) _ passBegun _
      (polite_arrange _) rfl rfl rfl ⟨rfl, fun _ => rfl⟩
  obtain ⟨other, reported, other_paused⟩ :=
    others (reportingThree true) rfl (Report.recites_ofList _)
  exact ⟨rfl, after, other, stopped, reported, paused.visited_eq, other_paused.visited_eq, pass_eq⟩

end Safepoint.Rounds
