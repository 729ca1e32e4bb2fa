import Safepoint.Fault

/-!
# Actions

An action changes a state and either returns a value or meets a fault; after a fault the state
keeps every change made before it.  This file gives actions on a part of a larger state and
actions with a local variable beside the state.  The central statements say what such an action
does to the part and that it leaves the rest alone.
-/

namespace Safepoint

/-- An operation on a state that a fault may stop half-way. -/
abbrev Action (State Value : Type) : Type := EStateM Fault State Value

/-- How an action ended, with the state it left. -/
abbrev Ending (State Value : Type) : Type := EStateM.Result Fault State Value

namespace Action

variable {State Part Local Value : Type}

/-- Changes the state of an ending. -/
def mapState {Other : Type} (change : State → Other) : Ending State Value → Ending Other Value
  | .ok value state => .ok value (change state)
  | .error fault state => .error fault (change state)

/-- Runs an action on the part of the state that `get` reads and `put` writes. -/
def onPart (get : State → Part) (put : Part → State → State) (action : Action Part Value) :
    Action State Value := fun state =>
  mapState (fun part => put part state) (action (get state))

/-- Runs an action of the state beside a local variable. -/
def beside (action : Action State Value) : Action (Local × State) Value := fun state =>
  mapState (fun inner => (state.1, inner)) (action state.2)

/-- Changes the local variable beside a state. -/
def modifyLocal (change : Local → Local) : Action (Local × State) Unit := fun state =>
  .ok () (change state.1, state.2)

/--
Runs an action with a local variable, which starts at `start`; a value returns with what is left in
the variable, and a fault forgets it.
-/
def withLocal (start : Local) (action : Action (Local × State) Value) :
    Action State (Value × Local) := fun state =>
  match action (start, state) with
  | .ok value (left, inner) => .ok (value, left) inner
  | .error fault (_, inner) => .error fault inner

/-- The value, or the fault that stands for its absence. -/
def orFault (value : Option Value) (fault : Fault) : Action State Value := fun state =>
  match value with
  | some found => .ok found state
  | none => .error fault state

/-- The state that an action left, with or without a fault. -/
def left : Ending State Value → State
  | .ok _ state => state
  | .error _ state => state

/-- The value that an action returned, if it came to its end. -/
def value? : Ending State Value → Option Value
  | .ok value _ => some value
  | .error _ _ => none

/-- The fault that ended an action, if one did. -/
def stop? : Ending State Value → Option Fault
  | .ok _ _ => none
  | .error fault _ => some fault

theorem left_mapState {Other : Type} (change : State → Other) (ending : Ending State Value) :
    left (mapState change ending) = change (left ending) := by
  cases ending <;> rfl

theorem exists_of_mapState_error {Other : Type} {change : State → Other}
    {ending : Ending State Value} {fault : Fault} {after : Other}
    (mapped : mapState change ending = .error fault after) :
    ∃ state, ending = .error fault state ∧ change state = after := by
  cases ending with
  | ok value state => cases mapped
  | error found state =>
      cases mapped
      exact ⟨state, rfl, rfl⟩

theorem left_withLocal (start : Local) (action : Action (Local × State) Value) (state : State) :
    left (withLocal start action state) = (left (action (start, state))).2 := by
  rw [withLocal]
  cases action (start, state) <;> rfl

theorem left_beside_modifyLocal (action : Action State Value) (change : Value → Local → Local)
    (start : Local) (state : State) :
    (left ((do let value ← beside action; modifyLocal (change value) :
      Action (Local × State) Unit) (start, state))).2 = left (action state) := by
  cases ended : action state <;>
    simp [bind, EStateM.bind, beside, mapState, modifyLocal, left, ended]

theorem left_bind_kept {motive : State → Prop} {first : Action State Local}
    {next : Local → Action State Value} {state : State} (first_kept : motive (left (first state)))
    (next_keeps : ∀ value after, motive after → motive (left (next value after))) :
    motive (left ((first >>= next) state)) := by
  change motive (left (EStateM.bind first next state))
  unfold EStateM.bind
  cases ended : first state with
  | ok value after =>
      rw [ended] at first_kept
      exact next_keeps value after first_kept
  | error fault after => rwa [ended] at first_kept

theorem eq_ok_of_value? {ending : Ending State Value} {value : Value}
    (answered : value? ending = some value) : ending = .ok value (left ending) := by
  cases ending with
  | ok found =>
      rw [value?, Option.some.injEq] at answered
      rw [answered, left]
  | error => cases answered

theorem eq_error_of_stop? {ending : Ending State Value} {fault : Fault}
    (stopped : stop? ending = some fault) : ending = .error fault (left ending) := by
  cases ending with
  | ok => cases stopped
  | error found =>
      rw [stop?, Option.some.injEq] at stopped
      rw [stopped, left]

theorem get_bind (next : State → Action State Value) (state : State) :
    (MonadStateOf.get >>= next) state = next state state := rfl

theorem bind_of_ok {first : Action State Local} {next : Local → Action State Value}
    {state after : State} {value : Local} (ends : first state = .ok value after) :
    (first >>= next) state = next value after := by
  simp only [bind, EStateM.bind, ends]

theorem bind_of_error {first : Action State Local} {next : Local → Action State Value}
    {state after : State} {fault : Fault} (ends : first state = .error fault after) :
    (first >>= next) state = .error fault after := by
  simp only [bind, EStateM.bind, ends]

theorem left_bind_return {Other : Type} (action : Action State Value) (result : Value → Other)
    (state : State) :
    left ((do let value ← action; return result value : Action State Other) state) =
      left (action state) := by
  cases ended : action state with
  | ok value after => rw [bind_of_ok ended]; rfl
  | error fault after => rw [bind_of_error ended]; rfl

theorem orFault_some_bind {Found : Type} (found : Found) (fault : Fault)
    (next : Found → Action State Value) (state : State) :
    (orFault (some found) fault >>= next) state = next found state := rfl

theorem onPart_ok {get : State → Part} {put : Part → State → State} {action : Action Part Value}
    {state : State} {value : Value} {part : Part} (ends : action (get state) = .ok value part) :
    onPart get put action state = .ok value (put part state) := by
  simp [onPart, mapState, ends]

theorem onPart_error {get : State → Part} {put : Part → State → State}
    {action : Action Part Value} {state : State} {fault : Fault} {part : Part}
    (ends : action (get state) = .error fault part) :
    onPart get put action state = .error fault (put part state) := by
  simp [onPart, mapState, ends]

end Action

end Safepoint
