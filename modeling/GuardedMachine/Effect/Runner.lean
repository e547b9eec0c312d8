import GuardedMachine.Effect.Basic
import GuardedMachine.Effect.Locks
import GuardedMachine.Program.Run

/-!
# Running entry effects without a machine

The owner of a definition may run the entry effects of its states itself.  It gives a callback
that receives what is sent through the handles and a flag that tells whether it is still mounted.
`Runner.run` runs any program of the owner, with any callbacks, which may in turn make the same
requests.
-/

namespace GuardedMachine.Runner

/-- What the owner and the callbacks can ask for. -/
inductive Request (S C K : Type) where
  /-- Run the entry effects of a state. -/
  | enter (state : MachineState S C) (sync : Bool)
  /-- Run cleanups. -/
  | leave (cleanup : EffectCleanup K) (event : Event) (context : C)
  | setMounted (mounted : Bool)
  | isMounted
  /-- Send an event through a handle. -/
  | send (handle : Handle) (event : Event)
  /-- Update the context through a handle. -/
  | setContext (handle : Handle) (reducer : K)
  | isLocked (handle : Handle)

/-- What a request is answered by. -/
@[reducible]
def Request.Answer {S C K : Type} : Request S C K → Type
  | .enter _ _ => Option (EffectCleanup K)
  | .isMounted => Bool
  | .isLocked _ => Bool
  | _ => Unit

/-- The calls of a run. -/
inductive Call (S C K : Type) where
  | request (request : Request S C K)
  /-- An effect is run. -/
  | effect (token : K) (params : EffectParams C)
  /-- A cleanup is run. -/
  | cleanup (token : K) (params : EffectParams C)
  /-- The owner receives an action. -/
  | dispatch (action : Action K)
  | report (report : Report)

/-- What a call is answered by. -/
@[reducible]
def Call.Answer {S C K : Type} : Call S C K → Type
  | .request asked => asked.Answer
  | .effect _ _ => Option K
  | _ => Unit

/-- The state of a run. -/
structure World (M : Type) where
  locks : Locks
  mounted : Bool
  /-- The memory of the callbacks. -/
  memory : M

/-- The world in which nothing has been run. -/
def World.initial {M : Type} (memory : M) : World M :=
  { locks := Locks.empty, mounted := true, memory }

/-- The programs of the owner and of the callbacks. -/
abbrev Code (S C K M ε α : Type) := Program (Request S C K) Request.Answer M ε α

/-- What the callbacks do. -/
structure Client (S C K M ε : Type) where
  effect : K → EffectParams C → Code S C K M ε (Option K)
  cleanup : K → EffectParams C → Code S C K M ε Unit
  dispatch : Action K → Code S C K M ε Unit

variable {S C K M ε α : Type}

/-- Programs on the state of a run. -/
abbrev Engine (S C K M ε α : Type) := Program (Call S C K) Call.Answer (World M) ε α

/-- The memory of the callbacks and their requests inside a run. -/
def place : Program.Embedding (Request S C K) Request.Answer M
    (Call S C K) Call.Answer (World M) where
  get := World.memory
  put memory world := { world with memory }
  call := .request
  answer _ answer := answer

/-- A program of a client inside a run. -/
def ofCode (code : Code S C K M ε α) : Engine S C K M ε α :=
  code.embed place

/-- Make a call. -/
def ask (call : Call S C K) : Engine S C K M ε call.Answer :=
  Program.ask call

/-- The surroundings of effects and handles. -/
def host : EffectHost (Program (Call S C K) Call.Answer (World M) ε) C K where
  effect token params := ask (.effect token params)
  cleanup token params := ask (.cleanup token params)
  newLock := do
    let world ← Program.world
    Program.update fun world => { world with locks := world.locks.add }
    return world.locks.next
  isLocked lock := do
    let world ← Program.world
    return world.locks.isLocked lock
  setLocked lock closed :=
    Program.update fun world => { world with locks := world.locks.setLocked lock closed }
  dispatch action := ask (.dispatch action)
  report report := ask (.report report)

variable [DecidableEq S] [StateValue S] [Context C]

/-- How a request is carried out. -/
def serveRequest (definition : Definition S C) (config : Config K) :
    (request : Request S C K) → Engine S C K M ε request.Answer
  | .enter state sync => host.enter definition config state sync
  | .leave cleanup event context => host.leave cleanup event context
  | .setMounted mounted => Program.update fun world => { world with mounted }
  | .isMounted => do return (← Program.world).mounted
  | .send handle event => host.send handle event
  | .setContext handle reducer => host.setContext handle reducer
  | .isLocked handle => host.isLocked handle.lock

/-- The body of a call. -/
def body (definition : Definition S C) (config : Config K) (client : Client S C K M ε) :
    (call : Call S C K) → Engine S C K M ε call.Answer
  | .request asked => serveRequest definition config asked
  | .effect token params => ofCode (client.effect token params)
  | .cleanup token params => ofCode (client.cleanup token params)
  | .dispatch action => ofCode (client.dispatch action)
  | .report _ => pure ()

/-- Run a program of the owner. -/
def run (definition : Definition S C) (config : Config K) (client : Client S C K M ε)
    (depth : Nat) (code : Code S C K M ε α) (world : World M) :
    Run (Call S C K) Call.Answer (World M) ε α :=
  (ofCode code).run (body definition config client) depth world

/-- The reports of a history, in the order in which they were written. -/
def reports (history : List (Moment (Call S C K) Call.Answer (World M))) : List Report :=
  history.reverse.filterMap fun moment =>
    match moment.made? with
    | some (.report report) => some report
    | _ => none

end GuardedMachine.Runner
