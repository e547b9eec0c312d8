import GuardedMachine.Synced.Basic

/-!
# Running synchronous machines

The bodies of the calls of a synchronous machine.  Whatever an outermost call queues is applied
before it returns: `settle` applies the queued actions in order and then runs the effects of the
state they led to, until nothing is queued.  A call made while another is running only queues.

Effects are due when an event was accepted since effects were last run.  The cleanups of the state
that is left run first, with the event and context of the state that is entered.
-/

namespace GuardedMachine.Synced

variable {S C K M ε α : Type}

/-- Programs on the world of a machine. -/
abbrev Engine (S C K M ε α : Type) := Program (Call S C K) Call.Answer (World S C K M) ε α

/-- The memory of the callbacks and their requests inside a run. -/
def place : Program.Embedding (Request K) (Request.Answer S C) M
    (Call S C K) Call.Answer (World S C K M) where
  get := World.memory
  put memory world := { world with memory }
  call := .request
  answer _ answer := answer

/-- A program of a client inside a run. -/
def ofCode (code : Code S C K M ε α) : Engine S C K M ε α :=
  code.embed place

/-- Make a call. -/
def ask (call : Call S C K) : Engine S C K M ε call.Answer :=
  Program.ask call

/-- Queue an action, or report it when the machine is unmounted. -/
def dispatch (action : Action K) : Engine S C K M ε Unit := do
  let world ← Program.world
  if world.mounted then ask (.push action)
  else ask (.report { diagnostic := .unmounted, details := [("Action", action.inspect)] })

/-- What a step asks of its surroundings. -/
def stepHost : StepHost (Program (Call S C K) Call.Answer (World S C K M) ε) C K where
  guard token event context := ask (.guard token event context)
  reduce token context := ask (.reduce token context)
  report report := ask (.report report)

/-- What effects, cleanups and handles ask of their surroundings. -/
def effectHost : EffectHost (Program (Call S C K) Call.Answer (World S C K M) ε) C K where
  effect token params := ask (.effect token params)
  cleanup token params := ask (.cleanup token params)
  newLock := do
    let world ← Program.world
    Program.update fun world => { world with locks := world.locks.add }
    return world.locks.next
  isLocked lock := do
    let world ← Program.world
    return world.locks.isLocked lock
  setLocked lock closed :=
    Program.update fun world => { world with locks := world.locks.setLocked lock closed }
  dispatch := dispatch
  report report := ask (.report report)

/-- Run the stored cleanups, if there are any, with the current event and context. -/
def runExit : Engine S C K M ε Unit := do
  let world ← Program.world
  match world.exit with
  | none => return ()
  | some cleanup =>
    Program.update fun world => { world with exit := none }
    ask (.leave cleanup world.state.event world.state.context)

/-- Run a program as an outermost call, which settles, or as a part of the one that is running. -/
def act (program : Engine S C K M ε Unit) : Engine S C K M ε Unit := do
  let world ← Program.world
  if world.acting then program
  else do
    Program.update fun world => { world with acting := true }
    program
    ask .settle
    Program.update fun world => { world with acting := false }

/-- Apply the queued actions and count them. -/
def drain : Engine S C K M ε Nat := do
  let world ← Program.world
  match world.queue with
  | [] => return 0
  | action :: queue =>
    Program.update fun world => { world with queue }
    ask (.apply action)
    let applied ← ask .drain
    return applied + 1

/-- Unmount, run the cleanups and empty the queue. -/
def stop : Engine S C K M ε Unit := do
  Program.update fun world => { world with mounted := false }
  runExit
  Program.update fun world => { world with queue := [] }

variable [DecidableEq S]

/-- Run the effects of the current state, unless they were the last to run. -/
def flush : Engine S C K M ε Unit := do
  let world ← Program.world
  if world.entered = some world.key then return ()
  Program.update fun world => { world with entered := some world.key }
  ask (.renew world.state)

/-- Apply actions and run effects until nothing is queued. -/
def settle : Engine S C K M ε Unit := do
  let world ← Program.world
  if world.queue.isEmpty then return ()
  let _ ← ask .drain
  flush
  ask .settle

/-- How a request is carried out. -/
def serveRequest : (request : Request K) → Engine S C K M ε (request.Answer S C)
  | .start => act flush
  | .send event => act (dispatch (.send event))
  | .setContext reducer => act (dispatch (.setContext reducer))
  | .dispatch action => dispatch action
  | .enqueue action => ask (.push action)
  | .act token => act (ask (.callback token))
  | .drain => ask .drain
  | .flush => flush
  | .stop => stop
  | .setMounted mounted => Program.update fun world => { world with mounted }
  | .isMounted => do return (← Program.world).mounted
  | .pending => do return (← Program.world).queue.length
  | .state => do return (← Program.world).state
  | .handleSend handle event => effectHost.send handle event
  | .handleSetContext handle reducer => effectHost.setContext handle reducer
  | .isLocked handle => effectHost.isLocked handle.lock

variable [StateValue S] [Context C]

/-- Apply an action to the state as it is now, and keep the outcome. -/
def apply (machine : Machine S C K) (action : Action K) : Engine S C K M ε Unit := do
  let world ← Program.world
  match ← stepHost.step machine.definition machine.config world.state action with
  | .unchanged => return ()
  | .contextUpdated state => Program.update fun world => { world with state }
  | .transitioned state =>
    Program.update fun world => { world with state, epoch := world.epoch + 1 }

/-- Run the stored cleanups and then the effects of a state, whose cleanups are stored. -/
def renew (state : MachineState S C) : Engine S C K M ε Unit := do
  runExit
  let exit ← ask (.enter state)
  Program.update fun world => { world with exit }

/-- The body of a call. -/
def body (machine : Machine S C K) (client : Client S C K M ε) :
    (call : Call S C K) → Engine S C K M ε call.Answer
  | .request asked => serveRequest asked
  | .settle => settle
  | .drain => drain
  | .push action => Program.update fun world => { world with queue := world.queue ++ [action] }
  | .apply action => apply machine action
  | .renew state => renew state
  | .leave cleanup event context => effectHost.leave cleanup event context
  | .enter state => effectHost.enter machine.definition machine.config state true
  | .guard token event context => ofCode (client.guard token event context)
  | .reduce token context => ofCode (client.reduce token context)
  | .effect token params => ofCode (client.effect token params)
  | .cleanup token params => ofCode (client.cleanup token params)
  | .callback token => ofCode (client.callback token)
  | .report _ => pure ()

/-- Run a program of the owner, following calls to the given depth. -/
def run (machine : Machine S C K) (client : Client S C K M ε) (depth : Nat)
    (code : Code S C K M ε α) (world : World S C K M) :
    Run (Call S C K) Call.Answer (World S C K M) ε α :=
  (ofCode code).run (body machine client) depth world

end GuardedMachine.Synced
