import GuardedMachine.Json.Text

/-!
# State values and contexts

A machine is generic in the values that tell its states apart and in the context it carries.
`StateValue` says how a state value is named, written and read, `Context` does so for a context.
State values are strings or the variants of an enumeration; contexts are 64-bit integers, JSON
values or nothing at all.  Contexts agree as data when their `plain` forms are equal.
-/

namespace GuardedMachine

/-- The type of the values of a machine's states. -/
class StateValue (S : Type) where
  /-- The name used in messages. -/
  name : S → String
  /-- The inspected form. -/
  inspect : S → String
  toJson : S → Json
  ofJson? : Json → Option S

/-- The type of the contexts of a machine. -/
class Context (C : Type) where
  /-- The context of a definition that gives none. -/
  initial : C
  /-- The inspected form. -/
  inspect : C → String
  toJson : C → Json
  ofJson? : Json → Option C
  /-- The context without what does not count when contexts are compared as data. -/
  plain : C → C

/-- The values of states read back as they are written. -/
class LawfulStateValue (S : Type) [StateValue S] : Prop where
  ofJson?_toJson : ∀ value : S, StateValue.ofJson? (StateValue.toJson value) = some value

/-- Contexts read back as they are written. -/
class LawfulContext (C : Type) [Context C] : Prop where
  ofJson?_toJson : ∀ context : C, Context.ofJson? (Context.toJson context) = some context

instance : StateValue String where
  name s := s
  inspect := Text.inspectString
  toJson := .str
  ofJson? := Json.string?

instance : LawfulStateValue String where
  ofJson?_toJson _ := rfl

/-- A variant of the enumeration with the given names. -/
structure Variant (names : List String) where
  name : String
  mem : name ∈ names
deriving DecidableEq

namespace Variant

variable {names : List String}

/-- The variant of a name. -/
def ofName? (name : String) : Option (Variant names) :=
  if mem : name ∈ names then some { name, mem } else none

/-- The variant a JSON value stands for: its name, or an object that maps its name to null. -/
def ofJson? : Json → Option (Variant names)
  | .str name => ofName? name
  | .obj [(name, .null)] => ofName? name
  | _ => none

end Variant

instance (names : List String) : StateValue (Variant names) where
  name := Variant.name
  inspect := Variant.name
  toJson variant := .str variant.name
  ofJson? := Variant.ofJson?

instance (names : List String) : LawfulStateValue (Variant names) where
  ofJson?_toJson variant := dif_pos variant.mem

/-- Whether a whole number is a signed 64-bit integer. -/
def isInt64 (n : Int) : Bool :=
  Int64.minValue.toInt ≤ n && n ≤ Int64.maxValue.toInt

theorem isInt64_toInt (n : Int64) :
  isInt64 n.toInt = true
  := by
  rw [isInt64, Bool.and_eq_true, decide_eq_true_eq, decide_eq_true_eq]
  exact ⟨n.minValue_le_toInt, n.toInt_le⟩

instance : Context Int64 where
  initial := 0
  inspect n := toString n.toInt
  toJson n := .int n.toInt
  ofJson?
    | .num (.whole n) => if isInt64 n then some (Int64.ofInt n) else none
    | _ => none
  plain n := n

instance : LawfulContext Int64 where
  ofJson?_toJson n := by
    change (if isInt64 n.toInt then some (Int64.ofInt n.toInt) else none) = some n
    rw [if_pos (isInt64_toInt n), Int64.ofInt_toInt]

instance : Context Json where
  initial := .null
  inspect := Json.inspect
  toJson json := json
  ofJson? json := some json
  plain := Json.plain

instance : LawfulContext Json where
  ofJson?_toJson _ := rfl

instance : Context Unit where
  initial := ()
  inspect _ := "()"
  toJson _ := .null
  ofJson?
    | .null => some ()
    | _ => none
  plain _ := ()

instance : LawfulContext Unit where
  ofJson?_toJson _ := rfl

end GuardedMachine
