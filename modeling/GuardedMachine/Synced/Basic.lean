import GuardedMachine.Effect.Basic
import GuardedMachine.Effect.Locks
import GuardedMachine.Machine.Basic
import GuardedMachine.Program.Run

/-!
# Synchronous machines

A synchronous machine settles every transition, those that its effects cause included, before a
call returns.  It owns the current state, a queue of actions that are still to be applied, and the
key of the state whose effects were last run.  This module holds its world, the requests that its
owner and its callbacks may make, and the calls of a run.
-/

namespace GuardedMachine.Synced

/-- What tells two entries of a state apart: its value and the number of events accepted before. -/
structure EntryKey (S : Type) where
  value : S
  epoch : Nat
deriving DecidableEq

/-- The world of a synchronous machine. -/
structure World (S C K M : Type) where
  state : MachineState S C
  /-- The actions still to be applied, the next one first. -/
  queue : List (Action K)
  /-- The number of events accepted so far.  A counter of 64 bits agrees with it below 2^64. -/
  epoch : Nat
  /-- The key of the state whose effects were last run. -/
  entered : Option (EntryKey S)
  /-- The cleanups to be run when that state is left. -/
  exit : Option (EffectCleanup K)
  mounted : Bool
  /-- Whether an outermost call is running. -/
  acting : Bool
  locks : Locks
  /-- The memory of the callbacks. -/
  memory : M

namespace World

variable {S C K M : Type}

/-- The world of a machine in a state, with nothing queued and no effects run. -/
def initial (state : MachineState S C) (memory : M) : World S C K M where
  state
  queue := []
  epoch := 0
  entered := none
  exit := none
  mounted := true
  acting := false
  locks := Locks.empty
  memory

/-- The key of the current state. -/
def key (world : World S C K M) : EntryKey S :=
  { value := world.state.value, epoch := world.epoch }

end World

/-- The inspected form of a synchronous machine. -/
def inspect {S C : Type} [StateValue S] [Context C] (state : MachineState S C) (pending : Nat)
    (mounted : Bool) : String :=
  Text.inspectRecord "SyncedMachine"
    [("state", state.inspect), ("pending", toString pending),
      ("mounted", Text.inspectBool mounted)]

/-- What the owner and the callbacks can ask of a machine. -/
inductive Request (K : Type) where
  /-- Run the effects of the initial state. -/
  | start
  /-- Send an event and settle. -/
  | send (event : Event)
  /-- Update the context and settle. -/
  | setContext (reducer : K)
  /-- Queue an action, unless the machine is unmounted. -/
  | dispatch (action : Action K)
  /-- Queue an action. -/
  | enqueue (action : Action K)
  /-- Run a callback and settle. -/
  | act (callback : K)
  /-- Apply the queued actions. -/
  | drain
  /-- Run the effects of the current state, unless they were the last to run. -/
  | flush
  /-- Unmount and run the cleanups. -/
  | stop
  | setMounted (mounted : Bool)
  | isMounted
  | pending
  | state
  /-- Send an event through a handle. -/
  | handleSend (handle : Handle) (event : Event)
  /-- Update the context through a handle. -/
  | handleSetContext (handle : Handle) (reducer : K)
  | isLocked (handle : Handle)

/-- What a request is answered by. -/
@[reducible]
def Request.Answer (S C : Type) {K : Type} : Request K → Type
  | .drain => Nat
  | .isMounted => Bool
  | .pending => Nat
  | .state => MachineState S C
  | .isLocked _ => Bool
  | _ => Unit

/-- The calls of a run. -/
inductive Call (S C K : Type) where
  | request (request : Request K)
  /-- Apply actions and run effects until nothing is queued. -/
  | settle
  /-- Apply the queued actions, and count them. -/
  | drain
  /-- An action is queued. -/
  | push (action : Action K)
  /-- An action is applied. -/
  | apply (action : Action K)
  /-- The effects of a state are due: run the stored cleanups, then the effects. -/
  | renew (state : MachineState S C)
  /-- Cleanups are run. -/
  | leave (cleanup : EffectCleanup K) (event : Event) (context : C)
  /-- The effects of a state are run. -/
  | enter (state : MachineState S C)
  | guard (token : K) (event : Event) (context : C)
  | reduce (token : K) (context : C)
  | effect (token : K) (params : EffectParams C)
  | cleanup (token : K) (params : EffectParams C)
  /-- The callback of an `act` is run. -/
  | callback (token : K)
  | report (report : Report)

/-- What a call is answered by. -/
@[reducible]
def Call.Answer {S C K : Type} : Call S C K → Type
  | .request asked => asked.Answer S C
  | .drain => Nat
  | .enter _ => Option (EffectCleanup K)
  | .guard _ _ _ => Bool
  | .reduce _ _ => C
  | .effect _ _ => Option K
  | _ => Unit

/-- The programs of the owner and of the callbacks. -/
abbrev Code (S C K M ε α : Type) := Program (Request K) (Request.Answer S C) M ε α

/-- What the callbacks do. -/
structure Client (S C K M ε : Type) where
  guard : K → Event → C → Code S C K M ε Bool
  reduce : K → C → Code S C K M ε C
  effect : K → EffectParams C → Code S C K M ε (Option K)
  cleanup : K → EffectParams C → Code S C K M ε Unit
  /-- The callback of an `act`. -/
  callback : K → Code S C K M ε Unit

/-- The history of a run, with the latest moment first. -/
abbrev History (S C K M : Type) := List (Moment (Call S C K) Call.Answer (World S C K M))

/-- The reports of a history, in the order in which they were written. -/
def History.reports {S C K M : Type} (history : History S C K M) : List Report :=
  history.reverse.filterMap fun moment =>
    match moment.made? with
    | some (.report report) => some report
    | _ => none

end GuardedMachine.Synced
