import GuardedMachine.Script.Callbacks
import GuardedMachine.Shared.Run

/-!
# Scripts for shared machines

Scripted callbacks of a shared machine, and the operations on such a machine.  Only the owner can
release the machine; afterwards only its subscriptions can still be used.
-/

namespace GuardedMachine.Script.Shared

open GuardedMachine.Shared (Request Client)

variable {S C : Type}

/-- Scripted programs of the owner and the callbacks. -/
abbrev Code (S C α : Type) := GuardedMachine.Shared.Code S C Token Memory Fault α

/-- Make a request. -/
def ask (request : Request Token) : Code S C (request.Answer S C) :=
  Program.ask request

/-- The surroundings of scripts with a given way to carry out operations. -/
def hostWith (operate : Operation → Code S C Json) :
    Host (Program (Request Token) (Request.Answer S C) Memory Fault) where
  memory := Program.world
  setMemory memory := Program.update fun _ => memory
  fail := .fail
  isMounted := .fail .badInput
  isLocked _ := .fail .badInput
  send _ _ := .fail .badInput
  setContext _ _ := .fail .badInput
  ownsHandles := false
  operate

variable [StateValue S] [Scriptable C]

/-- What is done with the observer that was last subscribed under a key, if there is one. -/
def withSubscription (key : String) (act : Nat → Code S C Json) : Code S C Json := do
  match (← Program.world).subscriptions.get? key with
  | some id => act id
  | none => return .null

/-- Carry out an operation on a machine that starts in `initial`. -/
def operation (initial : MachineState S C) : Operation → Code S C Json
  | .send event => do
    ask (.send (← script.get event))
    return .null
  | .set reducer => do
    ask (.setContext (.reducer reducer))
    return .null
  | .setSend reducer event => do
    ask (.setContext (.reducer reducer))
    ask (.send (← script.get event))
    return .null
  | .dispatch command => do return .bool (← ask (.dispatch (← command.action script)))
  | .subscribe key code => do
    let id ← ask (.subscribe (.observer key code))
    Program.update fun memory => { memory with subscriptions := memory.subscriptions.put key id }
    return .null
  | .unsubscribe key => withSubscription key fun id => do return .bool (← ask (.unsubscribe id))
  | .inspectSubscription key =>
    withSubscription key fun id => return .str (GuardedMachine.Shared.inspectSubscription id)
  | .count => do return .int (← ask .observerCount)
  | .state => do return (← ask .state).toJson
  | .initial => pure initial.toJson
  | .can kind => do return .bool ((← ask .state).can kind)
  | .inspect => do
    return .str (GuardedMachine.Shared.inspect (← ask .state) (← ask .observerCount))
  | .faulty fault => .fail fault
  | _ => .fail .badInput
where
  /-- The surroundings of scripts that operate no machine. -/
  script := hostWith fun _ => (return gone : Code S C Json)

/-- Whether an operation is on a subscription. -/
def isOnSubscription : Operation → Bool
  | .unsubscribe _ => true
  | .inspectSubscription _ => true
  | _ => false

/-- Carry out an operation of the owner, who may release the machine. -/
def ownerOperation (initial : MachineState S C) : Operation → Code S C Json
  | .release => do
    ask .release
    Program.update fun memory => { memory with released := true }
    return .null
  | other => do
    if (← Program.world).released && !isOnSubscription other then return gone
    else operation initial other

/-- The surroundings of the scripts of a machine that starts in `initial`. -/
def host (initial : MachineState S C) :
    Host (Program (Request Token) (Request.Answer S C) Memory Fault) :=
  hostWith (operation initial)

/-- The scripted callbacks of a machine that starts in `initial`. -/
def client (initial : MachineState S C) : Client S C Token Memory Fault where
  guard := onGuard (host initial)
  reduce := onReduce (host initial)
  observe := onObserve (host initial)

end GuardedMachine.Script.Shared
