import GuardedMachine.Script.Basic

/-!
# Running scripts

What predicates, reducers, code and operations do, in any monad that keeps a script's memory,
can fail, and gives access to handles and to a machine.
-/

namespace GuardedMachine.Script

/-- What scripts ask of their surroundings. -/
structure Host (m : Type → Type) where
  memory : m Memory
  setMemory : Memory → m Unit
  fail : {α : Type} → Fault → m α
  isMounted : m Bool
  isLocked : Handle → m Bool
  send : Handle → Event → m Unit
  setContext : Handle → Token → m Unit
  /-- Whether operations may use the handles kept in slots. -/
  ownsHandles : Bool
  /-- Carry out any other operation. -/
  operate : Operation → m Json

namespace Host

variable {m : Type → Type} [Monad m]

/-- Change the memory. -/
def update (host : Host m) (f : Memory → Memory) : m Unit := do
  host.setMemory (f (← host.memory))

/-- Write an entry to the log. -/
def log (host : Host m) (entry : List Json) : m Unit :=
  host.update fun memory => memory.write entry

/-- A value, or the failure with its fault. -/
def get {α : Type} (host : Host m) : Except Fault α → m α
  | .ok a => pure a
  | .error fault => host.fail fault

/-- A handle, or the failure of code that needs one. -/
def need (host : Host m) : Option Handle → m Handle
  | some handle => pure handle
  | none => host.fail .badInput

variable {C : Type}

/-- Write what code sees to the log: the event, the context, whether the machine is mounted if
there is a handle, and the name of the state if it is told. -/
def see [Context C] (host : Host m) (view : View C) (handle : Option Handle) : m Unit := do
  let mounted ← match handle with
    | some _ => Json.bool <$> host.isMounted
    | none => pure Json.null
  let state := match view.state with
    | some name => Json.str name
    | none => .null
  host.log
    [.str "see", .str view.event.text, Context.toJson view.context, mounted, state]

end Host

/-- The view of code that is run from outside. -/
def View.outside {C : Type} [Context C] : View C :=
  { event := Event.ofKind "none", context := Context.initial, state := none }

/-- The view of code inside a reducer. -/
def View.reduce {C : Type} (context : C) : View C :=
  { event := Event.ofKind "reduce", context, state := none }

variable {m : Type → Type} [Monad m] {C : Type} [Scriptable C]

mutual

/-- Answer a predicate on its call of the given number. -/
def decide (host : Host m) (view : View C) (number : Nat) : Predicate → m Bool
  | .always answer => pure answer
  | .context comparison value => host.get (Scriptable.compare comparison value view.context)
  | .kind kind => pure (view.event.kind == kind)
  | .has key => pure (view.event.get? key).isSome
  | .field key value =>
    pure ((view.event.get? key).any fun held => held.plain = value.plain)
  | .state name => pure (view.state == some name)
  | .flip first => pure (if number % 2 = 1 then first else !first)
  | .upTo calls => pure (number ≤ calls)
  | .not inner => do
    let answer ← decide host view number inner
    return !answer
  | .after code inner => do
    let _ ← runCode host view none code
    decide host view number inner
  | .faulty fault => host.fail fault

/-- Run an instruction.  The result is the cleanup that it sets, if it sets one. -/
def runInstruction (host : Host m) (view : View C) (handle : Option Handle) :
    Instruction → m (Option (List Instruction))
  | .log entry => do
    host.log entry
    return none
  | .see => do
    host.see view handle
    return none
  | .send event => do
    let handle ← host.need handle
    host.send handle (← host.get event)
    return none
  | .set reducer => do
    let handle ← host.need handle
    host.setContext handle (.reducer reducer)
    return none
  | .setSend reducer event => do
    let handle ← host.need handle
    host.setContext handle (.reducer reducer)
    host.send handle (← host.get event)
    return none
  | .keep slot => do
    let handle ← host.need handle
    host.update fun memory => { memory with handles := memory.handles.put slot handle }
    return none
  | .locked => do
    let handle ← host.need handle
    host.log [.str "locked", .bool (← host.isLocked handle)]
    return none
  | .use slot code => do
    match (← host.memory).handles.get? slot with
    | some kept => do
      let _ ← runCode host view (some kept) code
      return none
    | none => do
      host.log [.str "no handle", .str slot]
      return none
  | .cleanup code => pure (some code)
  | .ifThen condition yes no => do
    let answer ← decide host view 1 condition
    if answer then runCode host view handle yes else runCode host view handle no
  | .once key code => do
    if (← host.memory).seen.contains key then return none
    else do
      host.update fun memory => { memory with seen := key :: memory.seen }
      runCode host view handle code
  | .machine name operation => do
    let answer ← operate host (View.outside : View C) operation
    host.log [.str "machine", .str name, answer]
    return none
  | .faulty fault => host.fail fault

/-- Run code.  The result is the last cleanup that it sets, if it sets one. -/
def runCode (host : Host m) (view : View C) (handle : Option Handle) :
    List Instruction → m (Option (List Instruction))
  | [] => pure none
  | instruction :: rest => do
    let first ← runInstruction host view handle instruction
    let later ← runCode host view handle rest
    return later <|> first

/-- Carry out an operation on a machine.  Code that the operation runs has the given view. -/
def operate (host : Host m) (outside : View C) : Operation → m Json
  | .use slot code => do
    if host.ownsHandles then
      match (← host.memory).handles.get? slot with
      | some kept => do
        let _ ← runCode host outside (some kept) code
        return .null
      | none => do
        host.log [.str "no handle", .str slot]
        return .null
    else host.operate (.use slot code)
  | operation => host.operate operation

end

/-- Make a context. -/
def reduce (host : Host m) (context : C) : Reducer → m C
  | .change change => host.get (Scriptable.change change context)
  | .after code inner => do
    let _ ← runCode host (View.reduce context) none code
    reduce host context inner
  | .faulty fault => host.fail fault

end GuardedMachine.Script
