import GuardedMachine.Shared.Basic

/-!
# Running shared machines

The bodies of the calls of a shared machine.  A change of the state is passed on to the observers
that are subscribed when it is made, in the order of their subscriptions.  Each is given the state
as it is at its turn, and those that have left by then are passed over.
-/

namespace GuardedMachine.Shared

variable {S C K M ε α : Type}

/-- Programs on the world of a machine. -/
abbrev Engine (S C K M ε α : Type) := Program (Call S C K) Call.Answer (World S C K M) ε α

/-- The memory of the callbacks and their requests inside a run. -/
def place : Program.Embedding (Request K) (Request.Answer S C) M
    (Call S C K) Call.Answer (World S C K M) where
  get := World.memory
  put memory world := { world with memory }
  call := .request
  answer _ answer := answer

/-- A program of a client inside a run. -/
def ofCode (code : Code S C K M ε α) : Engine S C K M ε α :=
  code.embed place

/-- Make a call. -/
def ask (call : Call S C K) : Engine S C K M ε call.Answer :=
  Program.ask call

/-- What a step asks of its surroundings. -/
def stepHost : StepHost (Program (Call S C K) Call.Answer (World S C K M) ε) C K where
  guard token event context := ask (.guard token event context)
  reduce token context := ask (.reduce token context)
  report report := ask (.report report)

/-- Give the current state to those of the given observers that are subscribed at their turn. -/
def notify : List Nat → Engine S C K M ε Unit
  | [] => pure ()
  | id :: rest => do
    let world ← Program.world
    match world.observer? id with
    | none => notify rest
    | some token => do
      ask (.observe id token world.state)
      notify rest

/-- Subscribe an observer under the next number. -/
def subscribe (observer : K) : Engine S C K M ε Nat := do
  let world ← Program.world
  Program.update fun world =>
    { world with
      observers := world.observers ++ [(world.nextId, observer)]
      nextId := world.nextId + 1 }
  return world.nextId

/-- Remove an observer of a machine that is alive. -/
def unsubscribe (id : Nat) : Engine S C K M ε Bool := do
  let world ← Program.world
  if world.alive then
    Program.update fun world =>
      { world with observers := world.observers.filter fun observer => observer.1 ≠ id }
    return (world.observer? id).isSome
  else return false

/-- How a request is carried out. -/
def serveRequest : (request : Request K) → Engine S C K M ε (request.Answer S C)
  | .send event => do
    let _ ← ask (.perform (.send event))
    return ()
  | .setContext reducer => do
    let _ ← ask (.perform (.setContext reducer))
    return ()
  | .dispatch action => ask (.perform action)
  | .subscribe observer => subscribe observer
  | .unsubscribe id => unsubscribe id
  | .release => Program.update fun world => { world with released := true }
  | .observerCount => do return (← Program.world).observers.length
  | .state => do return (← Program.world).state

variable [DecidableEq S] [StateValue S] [Context C]

/-- Apply an action to the state as it is now, and pass a change on to the observers. -/
def perform (machine : Machine S C K) (action : Action K) : Engine S C K M ε Bool := do
  let world ← Program.world
  Program.update fun world => { world with running := world.running + 1 }
  let outcome ← stepHost.step machine.definition machine.config world.state action
  match outcome.state? with
  | none =>
    Program.update fun world => { world with running := world.running - 1 }
    return false
  | some state =>
    Program.update fun world => { world with state }
    let world ← Program.world
    notify (world.observers.map fun observer => observer.1)
    Program.update fun world => { world with running := world.running - 1 }
    return true

/-- The body of a call. -/
def body (machine : Machine S C K) (client : Client S C K M ε) :
    (call : Call S C K) → Engine S C K M ε call.Answer
  | .request asked => serveRequest asked
  | .perform action => perform machine action
  | .guard token event context => ofCode (client.guard token event context)
  | .reduce token context => ofCode (client.reduce token context)
  | .observe _ token state => ofCode (client.observe token state)
  | .report _ => pure ()

/-- Run a program of the owner, following calls to the given depth. -/
def run (machine : Machine S C K) (client : Client S C K M ε) (depth : Nat)
    (code : Code S C K M ε α) (world : World S C K M) :
    Run (Call S C K) Call.Answer (World S C K M) ε α :=
  (ofCode code).run (body machine client) depth world

end GuardedMachine.Shared
