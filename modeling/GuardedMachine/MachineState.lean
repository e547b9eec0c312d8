import GuardedMachine.Event
import GuardedMachine.StateValue

/-!
# Machine states

A machine state is a snapshot of a machine: the value of its state, its context, the event that
led there, and the kinds of events that the state listens to.  As JSON it is an object with one
key for each part; reading also takes the four parts as an array and ignores unknown keys.
-/

namespace GuardedMachine

/-- A snapshot of a machine. -/
structure MachineState (S C : Type) where
  value : S
  context : C
  event : Event
  nextEvents : List String
deriving DecidableEq

namespace MachineState

variable {S C : Type}

/-- Whether the state listens to events of a kind. -/
def can (state : MachineState S C) (kind : String) : Bool :=
  state.nextEvents.contains kind

variable [StateValue S] [Context C]

/-- Whether two machine states agree as data. -/
def agrees [DecidableEq S] [DecidableEq C] (a b : MachineState S C) : Bool :=
  a.value = b.value && Context.plain a.context = Context.plain b.context
    && a.event.plain = b.event.plain && a.nextEvents = b.nextEvents

/-- The JSON value of a machine state. -/
def toJson (state : MachineState S C) : Json :=
  .obj [("context", Context.toJson state.context), ("event", state.event.toJson),
    ("nextEvents", .arr (state.nextEvents.map .str)), ("value", StateValue.toJson state.value)]

/-- The strings a JSON array holds, if it holds nothing else. -/
private def strings? : Json → Option (List String)
  | .arr items => items.mapM Json.string?
  | _ => none

/-- The machine state with the given parts, if each can be read. -/
private def ofParts? (value context event nextEvents : Json) : Option (MachineState S C) := do
  let value ← StateValue.ofJson? value
  let context ← Context.ofJson? context
  let event ← Event.ofJson? event
  let nextEvents ← strings? nextEvents
  return { value, context, event, nextEvents }

/-- The machine state a JSON value stands for. -/
def ofJson? : Json → Option (MachineState S C)
  | .obj members => do
    let value ← Members.get? "value" members
    let context ← Members.get? "context" members
    let event ← Members.get? "event" members
    let nextEvents ← Members.get? "nextEvents" members
    ofParts? value context event nextEvents
  | .arr [value, context, event, nextEvents] => ofParts? value context event nextEvents
  | _ => none

private theorem strings?_map (texts : List String) :
  strings? (.arr (texts.map .str)) = some texts
  := by
  change (texts.map Json.str).mapM Json.string? = some texts
  induction texts with
  | nil => rfl
  | cons text rest ih =>
    rw [List.map_cons, List.mapM_cons, ih]
    rfl

/-- A machine state reads back as it is written if its event does. -/
theorem ofJson?_toJson [LawfulStateValue S] [LawfulContext C] {state : MachineState S C}
    (hevent : Event.ofJson? state.event.toJson = some state.event) :
  ofJson? state.toJson = some state
  := by
  simp [ofJson?, toJson, Members.get?, ofParts?, LawfulStateValue.ofJson?_toJson,
    LawfulContext.ofJson?_toJson, hevent, strings?_map]

private theorem event_of_ofParts? {value context event nextEvents : Json}
    {state : MachineState S C} (h : ofParts? value context event nextEvents = some state) :
  Event.ofJson? event = some state.event
  := by
  simp only [ofParts?, Option.bind_eq_bind, Option.bind_eq_some_iff] at h
  obtain ⟨_, _, _, _, event', hevent, _, _, hstate⟩ := h
  cases hstate
  exact hevent

/-- The event of a machine state that is read is itself read. -/
theorem event_of_ofJson? {json : Json} {state : MachineState S C} (h : ofJson? json = some state) :
  ∃ event, Event.ofJson? event = some state.event
  := by
  unfold ofJson? at h
  split at h
  · simp only [Option.bind_eq_bind, Option.bind_eq_some_iff] at h
    obtain ⟨_, _, _, _, event, _, _, _, hparts⟩ := h
    exact ⟨event, event_of_ofParts? hparts⟩
  · exact ⟨_, event_of_ofParts? h⟩
  · cases h

/-- The inspected form of a machine state. -/
def inspect (state : MachineState S C) : String :=
  Text.inspectRecord "MachineState"
    [("value", StateValue.inspect state.value), ("context", Context.inspect state.context),
      ("event", state.event.inspect),
      ("next_events", Text.inspectList (state.nextEvents.map Text.inspectString))]

end MachineState

end GuardedMachine
