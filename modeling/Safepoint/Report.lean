import Safepoint.Action

/-!
# Reports

Several collaborators answer by reporting items one after another: the runtime reports mutators
while it parks them and root slots while it scans.  Between two items it may act on the world,
also by calling back into the collector, and what it does next may depend on the state it finds.
A report is such a behaviour as a tree, so that statements about every collaborator go by
induction.  The central definition runs a report for a listener; a fault of either side ends it.
`Recites.run` says what a listener hears who is told a known list of items.
-/

namespace Safepoint

/-- What a collaborator does while it reports items of type `Item`. -/
inductive Report (State Item : Type) : Type where
  | done
  /-- Acts on the state, then goes on from the state it finds. -/
  | act (step : Action State Unit) (next : State → Report State Item)
  /-- Hands an item to the listener, then goes on from the state that the listener left. -/
  | item (item : Item) (next : State → Report State Item)

namespace Report

variable {State Item Local : Type}

/-- Reports the members of a list in order, then goes on as `rest`. -/
def ofList (items : List Item) (rest : Report State Item := done) : Report State Item :=
  items.foldr (fun head tail => item head fun _ => tail) rest

/-- A report that stops with a fault. -/
def fail (fault : Fault) : Report State Item :=
  act (throw fault) fun _ => done

/-- Runs a report: `listen` is called for each item, and the first fault ends the run. -/
def run (listen : Item → Action State Unit) : Report State Item → Action State Unit
  | done => fun state => .ok () state
  | act step next => fun state =>
      match step state with
      | .ok _ after => run listen (next after) after
      | .error fault after => .error fault after
  | item head next => fun state =>
      match listen head state with
      | .ok _ after => run listen (next after) after
      | .error fault after => .error fault after

/-- The same report for a listener that keeps a local variable beside the state. -/
def beside : Report State Item → Report (Local × State) Item
  | done => done
  | act step next => act (Action.beside step) fun state => beside (next state.2)
  | item head next => item head fun state => beside (next state.2)

theorem run_ofList (listen : Item → Action State Unit) (items : List Item) :
    run listen (ofList items) = items.forM listen := by
  induction items with
  | nil => rfl
  | cons head tail ih =>
      funext state
      simp only [ofList, List.foldr_cons, run]
      change _ = EStateM.bind (listen head) (fun _ => tail.forM listen) state
      simp only [EStateM.bind]
      cases listen head state with
      | ok value after => exact congrFun ih after
      | error fault after => rfl

/--
The report is of these items in this order.  What it does between them meets no fault, and changes
the state only as `frame` allows.
-/
inductive Recites (frame : State → State → Prop) : List Item → Report State Item → Prop where
  | done : Recites frame [] done
  | act {items : List Item} {step : Action State Unit} {next : State → Report State Item}
      (ends : ∀ state, ∃ after, step state = .ok () after ∧ frame state after)
      (recites : ∀ state, Recites frame items (next state)) : Recites frame items (act step next)
  | item {head : Item} {items : List Item} {next : State → Report State Item}
      (recites : ∀ state, Recites frame items (next state)) :
      Recites frame (head :: items) (Report.item head next)

section Recites

variable {frame : State → State → Prop} {items : List Item} {report : Report State Item}

theorem recites_ofList (items : List Item) : Recites frame items (ofList items) := by
  induction items with
  | nil => exact .done
  | cons head tail ih => exact .item fun _ => ih

theorem Recites.beside (recites : Recites frame items report) :
    Recites (fun before after : Local × State => after.1 = before.1 ∧ frame before.2 after.2) items
      report.beside := by
  induction recites with
  | done => exact .done
  | @act items step next ends _ ih =>
      refine .act (fun state => ?_) fun state => ih state.2
      obtain ⟨after, ended, kept⟩ := ends state.2
      refine ⟨(state.1, after), ?_, rfl, kept⟩
      simp only [Action.beside, Action.mapState, ended]
  | item _ ih => exact .item fun state => ih state.2

/-- A listener who meets no fault is told every item, and then the report is over. -/
theorem Recites.run (recites : Recites frame items report) {listen : Item → Action State Unit}
    {motive : List Item → State → Prop}
    (stable : ∀ heard {before after}, frame before after → motive heard before →
      motive heard after)
    (hears : ∀ heard item {state}, motive heard state →
      ∃ after, listen item state = .ok () after ∧ motive (heard ++ [item]) after)
    {heard : List Item} {state : State} (holds : motive heard state) :
    ∃ after, report.run listen state = .ok () after ∧ motive (heard ++ items) after := by
  induction recites generalizing heard state with
  | done => exact ⟨state, rfl, by rwa [List.append_nil]⟩
  | act ends _ ih =>
      obtain ⟨middle, ended, kept⟩ := ends state
      obtain ⟨after, rest_ended, holds_after⟩ := ih middle (stable heard kept holds)
      refine ⟨after, ?_, holds_after⟩
      simp only [Report.run, ended]
      exact rest_ended
  | @item head items _ _ ih =>
      obtain ⟨middle, told, holds_middle⟩ := hears heard head holds
      obtain ⟨after, rest_ended, holds_after⟩ := ih middle holds_middle
      refine ⟨after, ?_, ?_⟩
      · simp only [Report.run, told]
        exact rest_ended
      · rwa [List.append_assoc, List.singleton_append] at holds_after

end Recites

end Report

end Safepoint
