import GuardedMachine.Script.Callbacks
import GuardedMachine.Synced.Run

/-!
# Scripts for synchronous machines

Scripted callbacks of a synchronous machine, and the operations on such a machine.
-/

namespace GuardedMachine.Script.Synced

open GuardedMachine.Synced (Request Client)

variable {S C : Type}

/-- Scripted programs of the owner and the callbacks. -/
abbrev Code (S C α : Type) := GuardedMachine.Synced.Code S C Token Memory Fault α

/-- Make a request. -/
def ask (request : Request Token) : Code S C (request.Answer S C) :=
  Program.ask request

/-- The surroundings of scripts with a given way to carry out operations. -/
def hostWith (operate : Operation → Code S C Json) :
    Host (Program (Request Token) (Request.Answer S C) Memory Fault) where
  memory := Program.world
  setMemory memory := Program.update fun _ => memory
  fail := .fail
  isMounted := ask .isMounted
  isLocked handle := ask (.isLocked handle)
  send handle event := ask (.handleSend handle event)
  setContext handle token := ask (.handleSetContext handle token)
  ownsHandles := true
  operate

/-- The answers of the operations that were last run as one call. -/
def takeAnswers : Code S C Json := do
  let memory ← Program.world
  match memory.answers with
  | [] => return .arr []
  | answers :: rest => do
    Program.update fun memory => { memory with answers := rest }
    return .arr answers

variable [StateValue S] [Scriptable C]

/-- Carry out an operation on a machine that starts in `initial`. -/
def operation (initial : MachineState S C) : Operation → Code S C Json
  | .start => do
    ask .start
    return .null
  | .send event => do
    ask (.send (← script.get event))
    return .null
  | .set reducer => do
    ask (.setContext (.reducer reducer))
    return .null
  | .setSend reducer event => do
    ask (.setContext (.reducer reducer))
    ask (.send (← script.get event))
    return .null
  | .dispatch command => do
    ask (.dispatch (← command.action script))
    return .null
  | .enqueue command => do
    ask (.enqueue (← command.action script))
    return .null
  | .flush => do
    ask .flush
    return .null
  | .drain => do return .int (← ask .drain)
  | .stop => do
    ask .stop
    return .null
  | .setMounted mounted => do
    ask (.setMounted mounted)
    return .null
  | .unmount => do
    ask (.setMounted false)
    return .null
  | .mounted => do
    let mounted ← ask .isMounted
    return .arr [.bool mounted, .bool mounted]
  | .pending => do return .int (← ask .pending)
  | .act operations => do
    ask (.act (.operations operations))
    takeAnswers
  | .state => do return (← ask .state).toJson
  | .initial => pure initial.toJson
  | .can kind => do return .bool ((← ask .state).can kind)
  | .inspect => do
    return .str (GuardedMachine.Synced.inspect (← ask .state) (← ask .pending) (← ask .isMounted))
  | .faulty fault => .fail fault
  | _ => .fail .badInput
where
  /-- The surroundings of scripts that operate no machine. -/
  script := hostWith fun _ => (return gone : Code S C Json)

/-- The surroundings of the scripts of a machine that starts in `initial`. -/
def host (initial : MachineState S C) :
    Host (Program (Request Token) (Request.Answer S C) Memory Fault) :=
  hostWith (operation initial)

/-- The scripted callbacks of a machine that starts in `initial`. -/
def client (initial : MachineState S C) : Client S C Token Memory Fault where
  guard := onGuard (host initial)
  reduce := onReduce (host initial)
  effect := onEffect (host initial)
  cleanup := onCleanup (host initial)
  callback := onAct (host initial) (View.outside : View C)

end GuardedMachine.Script.Synced
