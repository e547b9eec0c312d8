import GuardedMachine.Config
import GuardedMachine.Definition.Basic

/-!
# Validation

A definition refers to states, guards and effects by value and by name.  `validate` lists the
references that the definition and the configuration do not resolve, all at once: the initial
state first, then the states in the order of their names, each with its rows before its effects,
and the root rows at the end.
-/

namespace GuardedMachine

/-- A reference that is not resolved.  `source` is the state whose row it stands in, or nothing
for a root row. -/
inductive Unresolved where
  | initialState (state : String)
  | target (source : Option String) (event target : String)
  | guard (name : String) (source : Option String) (event : String)
  | effect (name state : String)
deriving DecidableEq

namespace Unresolved

/-- Where a row stands. -/
def place : Option String → String
  | some state => "state '" ++ state ++ "'"
  | none => "the root transitions"

/-- The text of an unresolved reference. -/
def message : Unresolved → String
  | .initialState state => "Initial state '" ++ state ++ "' is not defined."
  | .target source event value =>
    "Event '" ++ event ++ "' in " ++ place source ++ " targets undefined state '" ++ value ++ "'."
  | .guard name source event =>
    "Guard '" ++ name ++ "' used by event '" ++ event ++ "' in " ++ place source
      ++ " is not configured."
  | .effect name state => "Effect '" ++ name ++ "' of state '" ++ state ++ "' is not configured."

/-- The inspected form of an unresolved reference. -/
def inspect : Unresolved → String
  | .initialState state =>
    Text.inspectRecord "UndefinedInitialState" [("state", Text.inspectString state)]
  | .target source event value =>
    Text.inspectRecord "UndefinedTarget"
      [("from", Text.inspectOption (source.map Text.inspectString)),
        ("event", Text.inspectString event), ("target", Text.inspectString value)]
  | .guard name source event =>
    Text.inspectRecord "UndefinedGuard"
      [("name", Text.inspectString name),
        ("from", Text.inspectOption (source.map Text.inspectString)),
        ("event", Text.inspectString event)]
  | .effect name state =>
    Text.inspectRecord "UndefinedEffect"
      [("name", Text.inspectString name), ("state", Text.inspectString state)]

/-- The text of a machine that does not validate. -/
def summary (errors : List Unresolved) : String :=
  "Invalid machine: " ++ Text.joined " " (errors.map message)

/-- The inspected form of the references of a machine that does not validate. -/
def inspectAll (errors : List Unresolved) : String :=
  Text.inspectApplied "InvalidMachine" [Text.inspectList (errors.map inspect)]

end Unresolved

/-- The first occurrences of the names in a list. -/
def firstOccurrences : List String → List String
  | [] => []
  | name :: rest => name :: (firstOccurrences rest).filter fun other => other ≠ name

/-- Every name occurs a first time. -/
theorem mem_firstOccurrences {name : String} {names : List String} :
  name ∈ firstOccurrences names ↔ name ∈ names
  := by
  induction names with
  | nil => rfl
  | cons first rest ih =>
    rw [firstOccurrences, List.mem_cons, List.mem_cons, List.mem_filter, ih]
    by_cases h : name = first <;> simp [h]

namespace Definition

variable {S C K : Type} [DecidableEq S] [StateValue S]

/-- The initial state, if it is not defined. -/
def unresolvedInitial (definition : Definition S C) : List Unresolved :=
  if (definition.state? definition.initial).isSome then []
  else [.initialState (StateValue.name definition.initial)]

/-- The target of a row, if it is not defined, and the guards of the row that are not
configured. -/
def unresolvedRow (definition : Definition S C) (config : Config K) (source : Option String)
    (row : String × Target S) : List Unresolved :=
  let target := row.2.target
  let names := match row.2.guard with
    | some guard => guard.names
    | none => []
  (if (definition.state? target).isSome then []
    else [.target source row.1 (StateValue.name target)])
    ++ (firstOccurrences (names.filter fun name => (config.guard? name).isNone)).map fun name =>
      .guard name source row.1

/-- The unresolved references of a table of rows. -/
def unresolvedRows (definition : Definition S C) (config : Config K) (source : Option String)
    (rows : Transitions S) : List Unresolved :=
  rows.entries.flatMap (definition.unresolvedRow config source)

/-- The unresolved references of a state. -/
def unresolvedState (definition : Definition S C) (config : Config K)
    (state : S × StateDef S) : List Unresolved :=
  definition.unresolvedRows config (some (StateValue.name state.1)) state.2.on
    ++ (state.2.effects.filter fun name => (config.effect? name).isNone).map fun name =>
      .effect name (StateValue.name state.1)

/-- The unresolved references of a definition. -/
def validate (definition : Definition S C) (config : Config K) : List Unresolved :=
  definition.unresolvedInitial
    ++ (sortBy (fun state => StateValue.name state.1) definition.states.entries).flatMap
      (definition.unresolvedState config)
    ++ definition.unresolvedRows config none definition.on

end Definition

end GuardedMachine
