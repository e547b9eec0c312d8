import GuardedMachine.Definition.Basic

/-!
# Inspecting definitions

The inspected forms of guards, rows, tables of rows and definitions.
-/

namespace GuardedMachine

namespace Guard

mutual

/-- The inspected form of a guard. -/
def inspect : Guard → String
  | .leaf name => Text.inspectApplied "Leaf" [Text.inspectString name]
  | .not inner => Text.inspectApplied "Not" [inspect inner]
  | .and children => Text.inspectApplied "And" [Text.inspectList (inspectAll children)]
  | .or children => Text.inspectApplied "Or" [Text.inspectList (inspectAll children)]

/-- The inspected forms of several guards. -/
def inspectAll : List Guard → List String
  | [] => []
  | child :: rest => inspect child :: inspectAll rest

end

end Guard

variable {S C : Type} [StateValue S]

/-- The inspected form of a row's target. -/
def Target.inspect : Target S → String
  | .to target => Text.inspectApplied "To" [StateValue.inspect target]
  | .guarded target guard =>
    Text.inspectRecord "Guarded"
      [("target", StateValue.inspect target),
        ("guard", Text.inspectOption (guard.map Guard.inspect))]

/-- The inspected form of a table of rows. -/
def Transitions.inspect (transitions : Transitions S) : String :=
  Text.inspectRecord "Transitions"
    [("entries", Text.inspectList (transitions.entries.map fun (kind, target) =>
      Text.inspectApplied "" [Text.inspectString kind, target.inspect]))]

/-- The inspected form of a state definition. -/
def StateDef.inspect (state : StateDef S) : String :=
  Text.inspectRecord "StateDef"
    [("on", Transitions.inspect state.on),
      ("effects", Text.inspectList (state.effects.map Text.inspectString))]

/-- The inspected form of a definition. -/
def Definition.inspect [Context C] (definition : Definition S C) : String :=
  Text.inspectRecord "Definition"
    [("initial", StateValue.inspect definition.initial),
      ("states", Text.inspectMap (definition.states.entries.map fun (value, state) =>
        (StateValue.inspect value, state.inspect))),
      ("on", Transitions.inspect definition.on),
      ("context", Context.inspect definition.context)]

end GuardedMachine
