import GuardedMachine.Definition.Basic

/-!
# Building definitions

A definition is built from a list of clauses.  A clause defines a state by its rows, adds a root
row, or sets the context.  Of two clauses for the same state the later one counts, and a row for
an event that already has one replaces its target.
-/

namespace GuardedMachine

/-- A row of a state: a transition or entry effects to append. -/
inductive StateRow (S : Type) where
  | on (kind : String) (target : Target S)
  | effects (names : List String)

/-- A clause of a definition. -/
inductive Clause (S C : Type) where
  | state (value : S) (rows : List (StateRow S))
  | on (kind : String) (target : Target S)
  | context (context : C)

variable {S C : Type}

/-- The state definition with one more row. -/
def StateDef.add (state : StateDef S) : StateRow S → StateDef S
  | .on kind target => { state with on := state.on.put kind target }
  | .effects names => { state with effects := state.effects ++ names }

/-- The state definition made of the given rows. -/
def StateDef.ofRows (rows : List (StateRow S)) : StateDef S :=
  rows.foldl StateDef.add StateDef.empty

namespace Definition

variable [DecidableEq S]

/-- The definition with one more clause. -/
def add (definition : Definition S C) : Clause S C → Definition S C
  | .state value rows =>
    { definition with states := definition.states.put value (StateDef.ofRows rows) }
  | .on kind target => { definition with on := definition.on.put kind target }
  | .context context => { definition with context }

/-- The definition made of the given clauses. -/
def build (initial : S) (context : C) (clauses : List (Clause S C)) : Definition S C :=
  clauses.foldl add { initial, states := Table.empty, on := Table.empty, context }

end Definition

end GuardedMachine
