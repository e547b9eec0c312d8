import GuardedMachine.Effect.Basic

/-!
# Scripts

A small language for the callbacks of a machine.  Predicates answer for guards, reducers make
contexts, and code is a list of instructions that effects, cleanups and observers run.  Code can
write to a log, use a handle, and operate the machine it belongs to.

A part of a script that could not be read is `faulty`: the fault shows when that part is run, and
not before.
-/

namespace GuardedMachine.Script

/-- What is wrong with a script. -/
inductive Fault where
  /-- An unknown name, a missing part, or a part of the wrong form. -/
  | badInput
  /-- A value that does not decode to the type it stands for. -/
  | decode
deriving DecidableEq

mutual

/-- The predicate of a guard. -/
inductive Predicate where
  | always (answer : Bool)
  /-- How the context compares with a value. -/
  | context (comparison : String) (value : Json)
  /-- The event has this kind. -/
  | kind (kind : String)
  /-- The event's payload has this key. -/
  | has (key : String)
  /-- The event's payload has this value under this key. -/
  | field (key : String) (value : Json)
  /-- The current state has this name. -/
  | state (name : String)
  /-- This answer on every odd call and the other on every even one. -/
  | flip (first : Bool)
  /-- True up to this number of calls. -/
  | upTo (calls : Nat)
  | not (inner : Predicate)
  /-- Run code before answering. -/
  | after (code : List Instruction) (inner : Predicate)
  | faulty (fault : Fault)

/-- What makes a context from the previous one. -/
inductive Reducer where
  /-- A change, written as its context type understands it. -/
  | change (change : Json)
  /-- Run code before the change. -/
  | after (code : List Instruction) (inner : Reducer)
  | faulty (fault : Fault)

/-- An action. -/
inductive Command where
  | send (event : Except Fault Event)
  | set (reducer : Reducer)
  | faulty (fault : Fault)

/-- An instruction of code. -/
inductive Instruction where
  /-- Write an entry to the log. -/
  | log (entry : List Json)
  /-- Write what the code sees to the log. -/
  | see
  /-- Send an event through the handle. -/
  | send (event : Except Fault Event)
  /-- Update the context through the handle. -/
  | set (reducer : Reducer)
  /-- Update the context and then send an event through the handle. -/
  | setSend (reducer : Reducer) (event : Except Fault Event)
  /-- Keep the handle in a slot. -/
  | keep (slot : String)
  /-- Write to the log whether the handle is locked. -/
  | locked
  /-- Run code with the handle kept in a slot. -/
  | use (slot : String) (code : List Instruction)
  /-- Return code as the cleanup of the effect. -/
  | cleanup (code : List Instruction)
  | ifThen (condition : Predicate) (yes no : List Instruction)
  /-- Run code unless code of the same key was run before. -/
  | once (key : String) (code : List Instruction)
  /-- Operate the machine and write the answer to the log. -/
  | machine (name : String) (operation : Operation)
  | faulty (fault : Fault)

/-- An operation on a machine. -/
inductive Operation where
  | start
  | send (event : Except Fault Event)
  | set (reducer : Reducer)
  | setSend (reducer : Reducer) (event : Except Fault Event)
  | dispatch (command : Command)
  | enqueue (command : Command)
  | flush
  | drain
  | stop
  | setMounted (mounted : Bool)
  | unmount
  | mounted
  | pending
  /-- Run operations as one call. -/
  | act (operations : List Operation)
  /-- Run code with the handle kept in a slot. -/
  | use (slot : String) (code : List Instruction)
  | state
  | initial
  | can (kind : String)
  | inspect
  /-- Subscribe code as an observer. -/
  | subscribe (key : String) (code : List Instruction)
  | unsubscribe (key : String)
  | inspectSubscription (key : String)
  | count
  | release
  | faulty (fault : Fault)

end

/-- A callback written as a script. -/
inductive Token where
  | guard (name : String) (predicate : Predicate)
  | effect (name : String) (code : List Instruction)
  /-- The cleanup that the effect of this name returned. -/
  | cleanup (name : String) (code : List Instruction)
  | reducer (reducer : Reducer)
  | observer (key : String) (code : List Instruction)
  | operations (operations : List Operation)

/-- What code sees. -/
structure View (C : Type) where
  event : Event
  context : C
  /-- The name of the current state, for code that is told. -/
  state : Option String

/-- What scripts remember. -/
structure Memory where
  /-- The log, its latest entry first. -/
  log : List Json
  /-- The number of calls of each guard. -/
  calls : Table String Nat
  /-- The keys of the code that runs once. -/
  seen : List String
  /-- The handles kept in slots. -/
  handles : Table String Handle
  /-- The observers by key. -/
  subscriptions : Table String Nat
  /-- The answers of operations that were run as one call, those of the latest call first. -/
  answers : List (List Json)
  /-- Whether the machine was released. -/
  released : Bool

namespace Memory

/-- The memory of a script that has not run. -/
def empty : Memory where
  log := []
  calls := Table.empty
  seen := []
  handles := Table.empty
  subscriptions := Table.empty
  answers := []
  released := false

/-- The memory with one more entry in the log. -/
def write (memory : Memory) (entry : List Json) : Memory :=
  { memory with log := .arr entry :: memory.log }

/-- The number of the next call of a guard. -/
def nextCall (memory : Memory) (name : String) : Nat :=
  (memory.calls.get? name).getD 0 + 1

/-- The memory after a call of a guard. -/
def countCall (memory : Memory) (name : String) : Memory :=
  { memory with calls := memory.calls.put name (memory.nextCall name) }

end Memory

/-- The contexts that scripts can compare and change. -/
class Scriptable (C : Type) extends Context C where
  /-- Whether a context compares with a value. -/
  compare : String → Json → C → Except Fault Bool
  /-- The context after a change. -/
  change : Json → C → Except Fault C

/-- The value of a key of an object, if the value is an object with this key. -/
def member? (key : String) (value : Json) : Option Json :=
  value.members?.bind (Members.get? key)

/-- A value decoded to a context. -/
def decode {C : Type} [Context C] (value : Json) : Except Fault C :=
  match Context.ofJson? value with
  | some context => .ok context
  | none => .error .decode

/-- Integers compare by order.  They are changed by adding, multiplying, or setting. -/
instance : Scriptable Int64 where
  compare comparison value context := do
    let value : Int64 ← decode value
    if comparison = "eq" then return context == value
    else if comparison = "lt" then return context < value
    else if comparison = "gt" then return value < context
    else throw .badInput
  change change context := do
    if let some n := member? "add" change then
      let n : Int64 ← decode n
      return context + n
    if let some n := member? "mul" change then
      let n : Int64 ← decode n
      return context * n
    if let some n := member? "set" change then
      let n : Int64 ← decode n
      return n
    return context

/-- JSON values compare for equality as data.  They are changed by setting, or by putting a key
into an object. -/
instance : Scriptable Json where
  compare comparison value context := return comparison = "eq" && context.plain = value.plain
  change change context := do
    if let some value := member? "set" change then return value
    match member? "put" change, context with
    | some (.arr (.str key :: value :: _)), .obj members =>
      return .obj (Members.put key value members)
    | some _, .obj _ => throw .badInput
    | _, _ => return context

/-- The empty context equals itself, stands in no other comparison, and never changes. -/
instance : Scriptable Unit where
  compare comparison value _ := do
    if comparison = "eq" then
      let _ : Unit ← decode value
      return true
    else return false
  change _ context := return context

end GuardedMachine.Script
