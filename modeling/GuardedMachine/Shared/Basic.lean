import GuardedMachine.Dispatch.Step
import GuardedMachine.Machine.Basic
import GuardedMachine.Program.Run

/-!
# Shared machines

A shared machine applies every action at once and notifies its observers of each change.  This
module holds its world, the requests that its owner and its callbacks may make, and the calls of a
run.  Observers are numbered in the order of their subscriptions, and no number is used twice.

A machine lives until its owner has released it and no call on it is running.
-/

namespace GuardedMachine.Shared

/-- The world of a shared machine. -/
structure World (S C K M : Type) where
  state : MachineState S C
  /-- The observers with their numbers, in the order of their subscriptions. -/
  observers : List (Nat × K)
  /-- The number of the next observer.  A counter of 64 bits agrees with it below 2^64. -/
  nextId : Nat
  /-- Whether the owner has released the machine. -/
  released : Bool
  /-- The number of actions that are being performed. -/
  running : Nat
  /-- The memory of the callbacks. -/
  memory : M

namespace World

variable {S C K M : Type}

/-- The world of a machine in a state, without observers. -/
def initial (state : MachineState S C) (memory : M) : World S C K M :=
  { state, observers := [], nextId := 0, released := false, running := 0, memory }

/-- Whether the machine is alive. -/
def alive (world : World S C K M) : Bool :=
  !world.released || 0 < world.running

/-- The callback of an observer, if it is subscribed. -/
def observer? (world : World S C K M) (id : Nat) : Option K :=
  Table.find? id world.observers

end World

/-- The inspected form of a shared machine. -/
def inspect {S C : Type} [StateValue S] [Context C] (state : MachineState S C)
    (observerCount : Nat) : String :=
  Text.inspectRecord "SharedMachine"
    [("state", state.inspect), ("observers", toString observerCount)]

/-- The inspected form of a subscription. -/
def inspectSubscription (id : Nat) : String :=
  Text.inspectRecord "Subscription" [("id", toString id)]

/-- What the owner and the callbacks can ask of a machine. -/
inductive Request (K : Type) where
  | send (event : Event)
  | setContext (reducer : K)
  /-- Apply an action, and tell whether the state changed. -/
  | dispatch (action : Action K)
  | subscribe (observer : K)
  /-- Remove an observer, and tell whether it was there. -/
  | unsubscribe (id : Nat)
  /-- Give the machine up. -/
  | release
  | observerCount
  | state

/-- What a request is answered by. -/
@[reducible]
def Request.Answer (S C : Type) {K : Type} : Request K → Type
  | .dispatch _ => Bool
  | .subscribe _ => Nat
  | .unsubscribe _ => Bool
  | .observerCount => Nat
  | .state => MachineState S C
  | _ => Unit

/-- The calls of a run. -/
inductive Call (S C K : Type) where
  | request (request : Request K)
  /-- An action is performed: it is applied, and a change is passed on to the observers. -/
  | perform (action : Action K)
  | guard (token : K) (event : Event) (context : C)
  | reduce (token : K) (context : C)
  /-- An observer is notified. -/
  | observe (id : Nat) (token : K) (state : MachineState S C)
  | report (report : Report)

/-- What a call is answered by. -/
@[reducible]
def Call.Answer {S C K : Type} : Call S C K → Type
  | .request asked => asked.Answer S C
  | .perform _ => Bool
  | .guard _ _ _ => Bool
  | .reduce _ _ => C
  | _ => Unit

/-- The programs of the owner and of the callbacks. -/
abbrev Code (S C K M ε α : Type) := Program (Request K) (Request.Answer S C) M ε α

/-- What the callbacks do. -/
structure Client (S C K M ε : Type) where
  guard : K → Event → C → Code S C K M ε Bool
  reduce : K → C → Code S C K M ε C
  observe : K → MachineState S C → Code S C K M ε Unit

/-- The history of a run, with the latest moment first. -/
abbrev History (S C K M : Type) := List (Moment (Call S C K) Call.Answer (World S C K M))

/-- The reports of a history, in the order in which they were written. -/
def History.reports {S C K M : Type} (history : History S C K M) : List Report :=
  history.reverse.filterMap fun moment =>
    match moment.made? with
    | some (.report report) => some report
    | _ => none

end GuardedMachine.Shared
