import GuardedMachine.Dispatch.Step
import GuardedMachine.Machine.Basic

/-!
# Steps with a memory

Predicates and reducers that keep a memory of type `σ` and may fail with an `ε`, and whose reports
are collected in order.  `Definition.step` and `Definition.transition` apply one action to a state
of a definition, `Machine.step` and `Machine.transition` do so for a machine.
-/

namespace GuardedMachine

/-- A memory together with the reports written so far. -/
structure Recorded (σ : Type) where
  memory : σ
  reports : List Report

/-- Programs that keep a memory, write reports and may fail. -/
abbrev Recording (σ ε : Type) := StateT (Recorded σ) (Except ε)

/-- What the callbacks of guards and reducers do. -/
structure StepClient (σ ε C K : Type) where
  guard : K → Event → C → StateT σ (Except ε) Bool
  reduce : K → C → StateT σ (Except ε) C

namespace StepClient

variable {σ ε C K : Type}

/-- A program on the memory alone, which writes no reports. -/
def onMemory {α : Type} (program : StateT σ (Except ε) α) : Recording σ ε α := fun recorded => do
  let (a, memory) ← program.run recorded.memory
  return (a, { recorded with memory })

/-- The surroundings of a step that collect its reports. -/
def host (client : StepClient σ ε C K) : StepHost (Recording σ ε) C K where
  guard token event context := onMemory (client.guard token event context)
  reduce token context := onMemory (client.reduce token context)
  report report := modify fun recorded =>
    { recorded with reports := recorded.reports ++ [report] }

end StepClient

variable {σ ε S C K : Type} [DecidableEq S] [StateValue S] [Context C]

/-- Apply an action to a state of a definition, and tell what it did. -/
def Definition.step (definition : Definition S C) (config : Config K)
    (client : StepClient σ ε C K) (state : MachineState S C) (action : Action K) :
    Recording σ ε (Outcome S C) :=
  client.host.step definition config state action

/-- Apply an action to a state of a definition. -/
def Definition.transition (definition : Definition S C) (config : Config K)
    (client : StepClient σ ε C K) (state : MachineState S C) (action : Action K) :
    Recording σ ε (MachineState S C) := do
  let outcome ← definition.step config client state action
  return outcome.stateFrom state

/-- Apply an action to a state of a machine, and tell what it did. -/
def Machine.step (machine : Machine S C K) (client : StepClient σ ε C K)
    (state : MachineState S C) (action : Action K) : Recording σ ε (Outcome S C) :=
  machine.definition.step machine.config client state action

/-- Apply an action to a state of a machine. -/
def Machine.transition (machine : Machine S C K) (client : StepClient σ ε C K)
    (state : MachineState S C) (action : Action K) : Recording σ ε (MachineState S C) :=
  machine.definition.transition machine.config client state action

end GuardedMachine
