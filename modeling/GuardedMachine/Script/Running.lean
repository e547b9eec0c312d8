import GuardedMachine.Effect.Runner
import GuardedMachine.Script.Callbacks

/-!
# Scripts for entry effects

Scripted effects and cleanups that are run without a machine.  The owner writes every action that
it receives to the log, an event as its JSON value and a reducer by what it makes of a given
context.
-/

namespace GuardedMachine.Script.Running

variable {S C : Type}

/-- Scripted programs of the owner and the callbacks. -/
abbrev Code (S C α : Type) := Runner.Code S C Token Memory Fault α

/-- The surroundings of scripts that have handles and no machine. -/
def host : Host (Program (Runner.Request S C Token) Runner.Request.Answer Memory Fault) where
  memory := Program.world
  setMemory memory := Program.update fun _ => memory
  fail := .fail
  isMounted := Program.ask Runner.Request.isMounted
  isLocked handle := Program.ask (Runner.Request.isLocked handle)
  send handle event := Program.ask (Runner.Request.send handle event)
  setContext handle token := Program.ask (Runner.Request.setContext handle token)
  ownsHandles := false
  operate _ := return gone

/-- Receive an action. -/
def onDispatch [Scriptable C] (context : C) (action : Action Token) : Code S C Unit := do
  let value ← match action with
    | .send event => pure event.toJson
    | .setContext reducer => Context.toJson <$> onReduce host reducer context
  host.log [.str "dispatch", .str action.inspect, value]

/-- Scripted effects and cleanups, and an owner that tries reducers on `context`. -/
def client [Scriptable C] (context : C) : Runner.Client S C Token Memory Fault where
  effect := onEffect host
  cleanup := onCleanup host
  dispatch := onDispatch context

/-- Run code with the handle kept in a slot. -/
def use [Scriptable C] (slot : String) (code : List Instruction) : Code S C Unit := do
  let _ ← runInstruction host (View.outside : View C) none (.use slot code)
  return ()

end GuardedMachine.Script.Running
