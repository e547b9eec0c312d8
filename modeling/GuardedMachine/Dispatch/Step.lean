import GuardedMachine.Config
import GuardedMachine.Definition.Basic
import GuardedMachine.Guard.Evaluate
import GuardedMachine.Guard.Explanation

/-!
# Steps

A step applies one action to a machine state.  An event is accepted when the current state is
defined, the event has a row, and the guard of the row, if there is one, holds; the machine then
enters the row's target.  A context update replaces the context and nothing else.  What is
rejected changes nothing and is reported.

A guard is decided by its evaluation alone.  In development mode it is traced afterwards, which
asks the same predicates once more: a denial is explained by the trace, and a trace that does
not come to the same answer is reported.

Predicates, reducers and the writing of reports are callbacks in a monad.
-/

namespace GuardedMachine

/-- An action on a machine. -/
inductive Action (K : Type) where
  /-- Deliver an event. -/
  | send (event : Event)
  /-- Replace the context by what the reducer makes of it. -/
  | setContext (reducer : K)

/-- The inspected form of an action. -/
def Action.inspect {K : Type} : Action K → String
  | .send event => Text.inspectApplied "Send" [event.inspect]
  | .setContext _ => "SetContext(..)"

/-- What a step did. -/
inductive Outcome (S C : Type) where
  /-- The action was rejected. -/
  | unchanged
  /-- Only the context changed. -/
  | contextUpdated (state : MachineState S C)
  /-- An event was accepted. -/
  | transitioned (state : MachineState S C)
deriving DecidableEq

namespace Outcome

variable {S C : Type}

/-- Whether the action was rejected. -/
def isUnchanged : Outcome S C → Bool
  | .unchanged => true
  | _ => false

/-- The new state, if there is one. -/
def state? : Outcome S C → Option (MachineState S C)
  | .unchanged => none
  | .contextUpdated state => some state
  | .transitioned state => some state

/-- The new state, or the current one if the action was rejected. -/
def stateFrom (outcome : Outcome S C) (current : MachineState S C) : MachineState S C :=
  outcome.state?.getD current

end Outcome

/-- What a step asks of its surroundings. -/
structure StepHost (m : Type → Type) (C K : Type) where
  /-- Ask the predicate of a guard. -/
  guard : K → Event → C → m Bool
  /-- Run a reducer. -/
  reduce : K → C → m C
  /-- Write a report. -/
  report : Report → m Unit

namespace StepHost

variable {m : Type → Type} [Monad m] {S C K : Type}

/-- Ask the predicate of a name, which fails for a name that is not configured. -/
def check (host : StepHost m C K) (config : Config K) (event : Event) (context : C)
    (name : String) : ExceptT GuardError m Bool :=
  match config.guard? name with
  | some token => ExceptT.lift (host.guard token event context)
  | none => throw (.undefined name)

/-- Trace a guard in development mode.  A trace that fails is no trace. -/
def traced? (host : StepHost m C K) (config : Config K) (guard : Guard) (event : Event)
    (context : C) : m (Option Trace) := do
  if config.development then
    match ← (guard.trace (host.check config event context)).run with
    | .ok trace => return some trace
    | .error _ => return none
  else return none

/-- The inspected form of an answer that may be missing. -/
private def inspectAllow (allow : Option Bool) : String :=
  Text.inspectOption (allow.map Text.inspectBool)

variable [StateValue S] [Context C]

/-- Decide the guard of a row from `state` to `target`. -/
def allows (host : StepHost m C K) (config : Config K) (guard : Guard)
    (state : MachineState S C) (target : S) (event : Event) : m Bool := do
  match ← (guard.evaluate (host.check config event state.context)).run with
  | .error (.undefined name) =>
    host.report
      { diagnostic := .undefinedGuard name
        details := [("Guard", guard.render), ("Event", event.text)] }
    return false
  | .ok allow =>
    let traced ← host.traced? config guard event state.context
    if let some trace := traced then
      if trace.allow ≠ some allow then
        host.report
          { diagnostic := .tracerDivergence
            details := [("Event", event.text), ("Guard", guard.render),
              ("Traced", inspectAllow trace.allow), ("Production", Text.inspectBool allow)] }
    if !allow then
      let explanation := match traced with
        | some trace => trace.explanation
        | none => guard.render
      host.report
        { diagnostic := .guardDenied (StateValue.name state.value) (StateValue.name target)
          details := [("Guard", explanation), ("Event", event.text),
            ("Context", Context.inspect state.context)] }
    return allow

variable [DecidableEq S]

/-- Deliver an event. -/
def send (host : StepHost m C K) (definition : Definition S C) (config : Config K)
    (state : MachineState S C) (event : Event) : m (Outcome S C) := do
  let details := [("State", state.inspect), ("Event", event.text)]
  if (definition.state? state.value).isNone then
    host.report { diagnostic := .undefinedState (StateValue.name state.value), details }
    return .unchanged
  match definition.transition? state.value event.kind with
  | none =>
    host.report { diagnostic := .unknownEvent (StateValue.name state.value) event.kind, details }
    return .unchanged
  | some row =>
    let allow ← match row.guard with
      | some guard => host.allows config guard state row.target event
      | none => pure true
    if allow then
      return .transitioned
        { value := row.target
          context := state.context
          event
          nextEvents := definition.nextEvents row.target }
    else return .unchanged

/-- Replace the context. -/
def setContext (host : StepHost m C K) (state : MachineState S C) (reducer : K) :
    m (Outcome S C) := do
  let context ← host.reduce reducer state.context
  host.report
    { diagnostic := .contextUpdated
      details := [("Prev Context", Context.inspect state.context),
        ("Next Context", Context.inspect context)] }
  return .contextUpdated { state with context }

/-- Apply an action. -/
def step (host : StepHost m C K) (definition : Definition S C) (config : Config K)
    (state : MachineState S C) : Action K → m (Outcome S C)
  | .send event => host.send definition config state event
  | .setContext reducer => host.setContext state reducer

end StepHost

end GuardedMachine
