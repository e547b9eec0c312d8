import GuardedMachine.Script.Run

/-!
# Scripted callbacks

What a scripted token does in the place of a guard, a reducer, an effect, a cleanup, an observer,
or the callback of an `act`.  Each writes to the log that it was called.  A token in a place that
is not its own does nothing.
-/

namespace GuardedMachine.Script

variable {m : Type → Type} [Monad m] {S C : Type} [StateValue S] [Scriptable C]

/-- Ask a guard. -/
def onGuard (host : Host m) (token : Token) (event : Event) (context : C) : m Bool := do
  match token with
  | .guard name predicate => do
    let number := (← host.memory).nextCall name
    host.update fun memory => memory.countCall name
    let answer ← decide host { event, context, state := none } number predicate
    host.log [.str "guard", .str name, .bool answer]
    return answer
  | _ => return false

/-- Make a context. -/
def onReduce (host : Host m) (token : Token) (context : C) : m C :=
  match token with
  | .reducer reducer => reduce host context reducer
  | _ => pure context

/-- Run an effect. -/
def onEffect (host : Host m) (token : Token) (params : EffectParams C) : m (Option Token) := do
  match token with
  | .effect name code => do
    host.log [.str "run", .str name]
    let view := { event := params.event, context := params.context, state := none }
    let cleanup ← runCode host view (some params.handle) code
    return cleanup.map (.cleanup name)
  | _ => return none

/-- Run a cleanup. -/
def onCleanup (host : Host m) (token : Token) (params : EffectParams C) : m Unit := do
  match token with
  | .cleanup name code => do
    host.log [.str "exit", .str name]
    let view := { event := params.event, context := params.context, state := none }
    let _ ← runCode host view (some params.handle) code
    return ()
  | _ => return ()

/-- Notify an observer. -/
def onObserve (host : Host m) (token : Token) (state : MachineState S C) : m Unit := do
  match token with
  | .observer key code => do
    host.log [.str "notify", .str key, state.toJson]
    let view :=
      { event := state.event
        context := state.context
        state := some (StateValue.name state.value) }
    let _ ← runCode host view none code
    return ()
  | _ => return ()

/-- Carry out operations in order. -/
def operateAll (host : Host m) (outside : View C) : List Operation → m (List Json)
  | [] => pure []
  | operation :: rest => do
    let answer ← operate host outside operation
    let answers ← operateAll host outside rest
    return answer :: answers

/-- Run the callback of an `act`, and remember the answers of its operations. -/
def onAct (host : Host m) (outside : View C) (token : Token) : m Unit := do
  match token with
  | .operations operations => do
    let answers ← operateAll host outside operations
    host.update fun memory => { memory with answers := answers :: memory.answers }
  | _ => return ()

/-- The action of a command. -/
def Command.action (host : Host m) : Command → m (Action Token)
  | .send event => do
    let event ← host.get event
    return .send event
  | .set reducer => pure (.setContext (.reducer reducer))
  | .faulty fault => host.fail fault

/-- The answer of an operation where there is no machine. -/
def gone : Json := .str "gone"

end GuardedMachine.Script
