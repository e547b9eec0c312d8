import GuardedMachine.Json.Text

/-!
# Events

An event has a kind and a payload of named JSON values.  As JSON it is one flat object that holds
the kind under the key `type` beside the payload.  A payload may have a key `type` of its own: in
the JSON value the payload wins, in the text of an event both are written.
-/

namespace GuardedMachine

/-- An event delivered to a machine. -/
structure Event where
  kind : String
  payload : Members
deriving DecidableEq

namespace Event

/-- The event without payload of the given kind. -/
def ofKind (kind : String) : Event :=
  { kind, payload := [] }

/-- The event a machine starts with. -/
def init : Event :=
  ofKind "$init"

/-- The event with `key` holding `value` in its payload. -/
def put (event : Event) (key : String) (value : Json) : Event :=
  { event with payload := Members.put key value event.payload }

/-- The event of a kind with entries put into its payload one after the other. -/
def assemble (kind : String) (entries : List (String × Json)) : Event :=
  entries.foldl (fun event (key, value) => event.put key value) (ofKind kind)

/-- The payload's value of a key. -/
def get? (event : Event) (key : String) : Option Json :=
  Members.get? key event.payload

@[simp]
theorem get?_put_self (event : Event) (key : String) (value : Json) :
  (event.put key value).get? key = some value
  := Members.get?_put_self key value event.payload

theorem get?_put_of_ne {key other : String} (h : key ≠ other) (event : Event) (value : Json) :
  (event.put key value).get? other = event.get? other
  := Members.get?_put_of_ne h value event.payload

/-- The event without the signs of the zeros in its payload. -/
def plain (event : Event) : Event :=
  { event with payload := Json.plainMembers event.payload }

/-- The compact JSON text of an event, the kind first. -/
def text (event : Event) : String :=
  Json.textObject (("type", Json.textString event.kind) :: Json.textMembers event.payload)

/-- The JSON value of an event. -/
def toJson (event : Event) : Json :=
  match event.get? "type" with
  | some _ => .obj event.payload
  | none => .obj (Members.put "type" (.str event.kind) event.payload)

/-- The event a JSON value stands for: an object whose `type` is a string. -/
def ofJson? (json : Json) : Option Event :=
  match json with
  | .obj members =>
    match Members.get? "type" members with
    | some (.str kind) => some { kind, payload := Members.erase "type" members }
    | _ => none
  | _ => none

/-- The inspected form of an event. -/
def inspect (event : Event) : String :=
  Text.inspectRecord "Event"
    [("kind", Text.inspectString event.kind),
      ("payload", Text.inspectMap (Json.inspectMembers event.payload))]

end Event

end GuardedMachine
