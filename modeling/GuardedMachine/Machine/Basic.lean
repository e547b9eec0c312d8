import GuardedMachine.Definition.Inspect
import GuardedMachine.Machine.Validation

/-!
# Machines

A machine is a definition with a configuration that resolves all its references.
-/

namespace GuardedMachine

/-- A definition and a configuration that agree. -/
structure Machine (S C K : Type) [DecidableEq S] [StateValue S] where
  definition : Definition S C
  config : Config K
  resolved : definition.validate config = []

namespace Machine

variable {S C K : Type} [DecidableEq S] [StateValue S]

/-- Pair a definition with a configuration, or list the references that are not resolved. -/
def build (definition : Definition S C) (config : Config K) :
    Except (List Unresolved) (Machine S C K) :=
  match h : definition.validate config with
  | [] => .ok { definition, config, resolved := h }
  | error :: rest => .error (error :: rest)

/-- The state in which a machine starts. -/
def initialState (machine : Machine S C K) : MachineState S C :=
  machine.definition.initialState

/-- The inspected form of a machine. -/
def inspect [Context C] (machine : Machine S C K) : String :=
  Text.inspectRecord "Machine"
    [("definition", machine.definition.inspect), ("config", machine.config.inspect)]

end Machine

end GuardedMachine
