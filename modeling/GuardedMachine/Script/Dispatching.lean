import GuardedMachine.Dispatch.Recorded
import GuardedMachine.Script.Callbacks

/-!
# Scripts for steps

Scripted guards and reducers of a definition whose actions are applied one by one.  There is no
machine to operate and no handle.
-/

namespace GuardedMachine.Script.Dispatching

/-- The surroundings of scripts that have a memory and nothing else. -/
def host : Host (StateT Memory (Except Fault)) where
  memory := get
  setMemory := set
  fail fault := throw fault
  isMounted := throw .badInput
  isLocked _ := throw .badInput
  send _ _ := throw .badInput
  setContext _ _ := throw .badInput
  ownsHandles := false
  operate _ := return gone

/-- Scripted guards and reducers. -/
def client (C : Type) [Scriptable C] : StepClient Memory Fault C Token where
  guard := onGuard host
  reduce := onReduce host

end GuardedMachine.Script.Dispatching
