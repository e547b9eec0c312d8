import GuardedMachine.Guard.Trace
import GuardedMachine.MachineState
import GuardedMachine.Table

/-!
# Definitions

A definition is the static table of a machine: the initial value and context, for each state its
transitions and the names of its entry effects, and root transitions for events that the current
state has no row for.  A row of a state hides the root row of the same event.
-/

namespace GuardedMachine

/-- Where an event leads. -/
inductive Target (S : Type) where
  /-- A transition without a guard. -/
  | to (target : S)
  /-- A transition taken when the guard, if there is one, holds. -/
  | guarded (target : S) (guard : Option Guard)
deriving DecidableEq

namespace Target

variable {S : Type}

/-- The value a row leads to. -/
def target : Target S → S
  | .to target => target
  | .guarded target _ => target

/-- The guard of a row. -/
def guard : Target S → Option Guard
  | .to _ => none
  | .guarded _ guard => guard

end Target

/-- The rows of a state or of the root: one target for each kind of event. -/
abbrev Transitions (S : Type) := Table String (Target S)

/-- The transitions and entry effects of a state. -/
structure StateDef (S : Type) where
  on : Transitions S
  /-- The names of the effects run, in this order, on entry. -/
  effects : List String

/-- The state without rows and effects. -/
def StateDef.empty {S : Type} : StateDef S :=
  { on := Table.empty, effects := [] }

/-- The definition of a machine. -/
structure Definition (S C : Type) where
  initial : S
  states : Table S (StateDef S)
  /-- The rows for events that the current state has no row for. -/
  on : Transitions S
  context : C

namespace Definition

variable {S C : Type} [DecidableEq S]

/-- The definition of a state value. -/
def state? (definition : Definition S C) (value : S) : Option (StateDef S) :=
  definition.states.get? value

/-- The row for events of a kind at a state value: its own row or else the root row. -/
def transition? (definition : Definition S C) (value : S) (kind : String) : Option (Target S) :=
  match (definition.state? value).bind fun state => state.on.get? kind with
  | some target => some target
  | none => definition.on.get? kind

/-- The kinds of events that a state value listens to: those of its own rows, then those of the
root rows that are not among them. -/
def nextEvents (definition : Definition S C) (value : S) : List String :=
  let own := match definition.state? value with
    | some state => state.on.keys
    | none => []
  own ++ definition.on.keys.filter fun kind => !own.contains kind

/-- The state in which a machine starts. -/
def initialState (definition : Definition S C) : MachineState S C where
  value := definition.initial
  context := definition.context
  event := Event.init
  nextEvents := definition.nextEvents definition.initial

end Definition

end GuardedMachine
