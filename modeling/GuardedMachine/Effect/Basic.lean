import GuardedMachine.Dispatch.Step

/-!
# Entry effects

When a state is entered, its entry effects run in order.  Each is given the event and the context
of the state and a handle, and may return a cleanup to be run when the state is left.  The handles
of one entry share a lock.  While the effects run the lock is open; afterwards it is closed if the
entry is synchronous, and opened again for as long as the cleanups run.  A call through a handle
whose lock is closed is rejected and reported.
-/

namespace GuardedMachine

/-- The access to the machine that the effects and cleanups of one entry share. -/
structure Handle where
  /-- The number of the lock. -/
  lock : Nat
  /-- The name of the state that was entered. -/
  state : String
deriving DecidableEq

/-- What an effect or a cleanup is given. -/
structure EffectParams (C : Type) where
  event : Event
  context : C
  handle : Handle
deriving DecidableEq

/-- The cleanups that the effects of one entry returned. -/
structure EffectCleanup (K : Type) where
  handle : Handle
  exits : List K
  /-- Whether the lock is closed between the effects and the cleanups, and after these. -/
  sync : Bool

/-- What effects, cleanups and handles ask of their surroundings. -/
structure EffectHost (m : Type → Type) (C K : Type) where
  /-- Run an effect. -/
  effect : K → EffectParams C → m (Option K)
  /-- Run a cleanup. -/
  cleanup : K → EffectParams C → m Unit
  /-- Make a new lock, which is open. -/
  newLock : m Nat
  /-- Whether a lock is closed. -/
  isLocked : Nat → m Bool
  /-- Close or open a lock. -/
  setLocked : Nat → Bool → m Unit
  /-- Pass an action on to the machine. -/
  dispatch : Action K → m Unit
  /-- Write a report. -/
  report : Report → m Unit

namespace EffectHost

variable {m : Type → Type} [Monad m] {S C K : Type}

/-- Send an event through a handle. -/
def send (host : EffectHost m C K) (handle : Handle) (event : Event) : m Unit := do
  if ← host.isLocked handle.lock then
    host.report
      { diagnostic := .sendLocked
        details := [("State", handle.state), ("Event", event.text)] }
  else host.dispatch (.send event)

/-- Update the context through a handle. -/
def setContext (host : EffectHost m C K) (handle : Handle) (reducer : K) : m Unit := do
  if ← host.isLocked handle.lock then
    host.report { diagnostic := .setContextLocked, details := [("State", handle.state)] }
  else host.dispatch (.setContext reducer)

/-- Run the cleanups in order. -/
def runExits (host : EffectHost m C K) (params : EffectParams C) : List K → m Unit
  | [] => pure ()
  | exit :: rest => do
    host.cleanup exit params
    host.runExits params rest

/-- Run the cleanups of an entry with the event and context that the state is left with. -/
def leave (host : EffectHost m C K) (cleanup : EffectCleanup K) (event : Event) (context : C) :
    m Unit := do
  host.setLocked cleanup.handle.lock false
  host.runExits { event, context, handle := cleanup.handle } cleanup.exits
  host.setLocked cleanup.handle.lock cleanup.sync

variable [StateValue S] [Context C]

/-- Run the effects of the given names in order and collect the cleanups they return.  A name that
is not configured is reported and passed over. -/
def runEffects (host : EffectHost m C K) (config : Config K) (state : MachineState S C)
    (handle : Handle) : List String → m (List K)
  | [] => pure []
  | name :: rest => do
    match config.effect? name with
    | none =>
      host.report
        { diagnostic := .undefinedEffect name (StateValue.name state.value)
          details := [("Event", state.event.text), ("Context", Context.inspect state.context)] }
      host.runEffects config state handle rest
    | some token =>
      let exit ← host.effect token { event := state.event, context := state.context, handle }
      let exits ← host.runEffects config state handle rest
      return exit.toList ++ exits

/-- Run the entry effects of a state, if its value has any. -/
def enter [DecidableEq S] (host : EffectHost m C K) (definition : Definition S C)
    (config : Config K) (state : MachineState S C) (sync : Bool) :
    m (Option (EffectCleanup K)) := do
  match definition.state? state.value with
  | none => return none
  | some { effects := [], .. } => return none
  | some { effects, .. } =>
    let lock ← host.newLock
    let handle := { lock, state := StateValue.name state.value }
    let exits ← host.runEffects config state handle effects
    host.setLocked lock sync
    return some { handle, exits, sync }

end EffectHost

end GuardedMachine
