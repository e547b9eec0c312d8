import GuardedMachine.Guard.Trace
import GuardedMachine.Json.Basic

/-!
# Guards as JSON

A guard is written as an object whose one key names its form: `leaf` with the name of the
predicate, `not` with a guard, `and` and `or` with an array of guards.  `Guard.ofJson?` reads
exactly these values.
-/

namespace GuardedMachine

namespace Guard

mutual

/-- The JSON value of a guard. -/
def toJson : Guard → Json
  | .leaf name => .obj [("leaf", .str name)]
  | .not inner => .obj [("not", toJson inner)]
  | .and children => .obj [("and", .arr (toJsons children))]
  | .or children => .obj [("or", .arr (toJsons children))]

/-- The JSON values of several guards. -/
def toJsons : List Guard → List Json
  | [] => []
  | child :: rest => toJson child :: toJsons rest

end

mutual

/-- The guard a JSON value stands for, if there is one. -/
def ofJson? : Json → Option Guard
  | .obj [(key, value)] =>
    if key = "leaf" then value.string?.map .leaf
    else if key = "not" then (ofJson? value).map .not
    else if key = "and" then (ofItems? value).map .and
    else if key = "or" then (ofItems? value).map .or
    else none
  | _ => none

/-- The guards the items of a JSON array stand for, if the value is an array of guards. -/
def ofItems? : Json → Option (List Guard)
  | .arr items => ofJsons? items
  | _ => none

/-- The guards a list of JSON values stands for, if each is one. -/
def ofJsons? : List Json → Option (List Guard)
  | [] => some []
  | item :: rest =>
    match ofJson? item, ofJsons? rest with
    | some child, some children => some (child :: children)
    | _, _ => none

end

end Guard

namespace Trace

/-- The JSON value of an answer. -/
private def allowJson : Option Bool → Json
  | none => .null
  | some allow => .bool allow

/-- The JSON value of a node with the given form. -/
private def nodeJson (mark : Mark) (form : String) (value : Json) : Json :=
  .obj [("allow", allowJson mark.allow), ("cause", .bool mark.cause),
    ("kind", .obj [(form, value)])]

mutual

/-- The JSON value of a trace. -/
def toJson : Trace → Json
  | .leaf mark name => nodeJson mark "leaf" (.str name)
  | .not mark inner => nodeJson mark "not" (toJson inner)
  | .and mark children => nodeJson mark "and" (.arr (toJsons children))
  | .or mark children => nodeJson mark "or" (.arr (toJsons children))

/-- The JSON values of several traces. -/
def toJsons : List Trace → List Json
  | [] => []
  | child :: rest => toJson child :: toJsons rest

end

mutual

/-- The nodes from the root downwards and from left to right, each with its form, the name if it
is a leaf, and its mark. -/
def preorder : Trace → List (String × Option String × Mark)
  | .leaf mark name => [("leaf", some name, mark)]
  | .not mark inner => ("not", none, mark) :: preorder inner
  | .and mark children => ("and", none, mark) :: preorderOf children
  | .or mark children => ("or", none, mark) :: preorderOf children

/-- The nodes of several traces. -/
def preorderOf : List Trace → List (String × Option String × Mark)
  | [] => []
  | child :: rest => preorder child ++ preorderOf rest

end

end Trace

end GuardedMachine
