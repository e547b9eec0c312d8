/-!
# JSON values

`Json` is the type of JSON values.  A number is an integer or a decimal fraction; the two are
never equal, so `1` and `1.0` are different values.  The members of an object are listed in
increasing order of their keys: `Members.put` keeps that order and holds each key once, and
`Members.ofList` brings any list of members into it.

A zero may carry a sign, which its text shows.  Where values are compared as data the sign does
not count: two values agree as data when their `plain` forms are equal.
-/

namespace GuardedMachine

/-- A JSON number. -/
inductive Number where
  /-- A whole number, written without a point. -/
  | whole (n : Int)
  /-- The product of `digits` and ten to the power `exponent`, negated if `negative`, written with
  a point. -/
  | decimal (negative : Bool) (digits : Nat) (exponent : Int)
deriving DecidableEq

/-- A JSON value. -/
inductive Json where
  | null
  | bool (b : Bool)
  | num (n : Number)
  | str (s : String)
  | arr (items : List Json)
  | obj (members : List (String × Json))

/-- The members of a JSON object. -/
abbrev Members := List (String × Json)

/-- A number without the sign of a zero. -/
def Number.plain : Number → Number
  | .decimal _ 0 exponent => .decimal false 0 exponent
  | other => other

namespace Json

/-- The whole number `n`. -/
def int (n : Int) : Json := .num (.whole n)

mutual

/-- Whether two values are equal. -/
def same : Json → Json → Bool
  | .null, .null => true
  | .bool a, .bool b => a == b
  | .num a, .num b => a == b
  | .str a, .str b => a == b
  | .arr a, .arr b => sameItems a b
  | .obj a, .obj b => sameMembers a b
  | _, _ => false

/-- Whether two lists of values are equal. -/
def sameItems : List Json → List Json → Bool
  | [], [] => true
  | a :: as, b :: bs => same a b && sameItems as bs
  | _, _ => false

/-- Whether two lists of members are equal. -/
def sameMembers : List (String × Json) → List (String × Json) → Bool
  | [], [] => true
  | (k, a) :: as, (l, b) :: bs => k == l && same a b && sameMembers as bs
  | _, _ => false

end

mutual

theorem same_iff : ∀ a b : Json,
  same a b = true ↔ a = b
  | .null, b => by cases b <;> simp [same]
  | .bool _, b => by cases b <;> simp [same]
  | .num _, b => by cases b <;> simp [same]
  | .str _, b => by cases b <;> simp [same]
  | .arr as, b => by cases b <;> simp [same, sameItems_iff as]
  | .obj as, b => by cases b <;> simp [same, sameMembers_iff as]

theorem sameItems_iff : ∀ as bs : List Json,
  sameItems as bs = true ↔ as = bs
  | [], bs => by cases bs <;> simp [sameItems]
  | a :: as, bs => by cases bs <;> simp [sameItems, same_iff a, sameItems_iff as]

theorem sameMembers_iff : ∀ as bs : List (String × Json),
  sameMembers as bs = true ↔ as = bs
  | [], bs => by cases bs <;> simp [sameMembers]
  | (k, a) :: as, bs => by
    rcases bs with _ | ⟨⟨l, b⟩, bs⟩ <;>
      simp [sameMembers, same_iff a, sameMembers_iff as, and_assoc]

end

instance : DecidableEq Json :=
  fun a b => decidable_of_iff (same a b = true) (same_iff a b)

mutual

/-- A value without the signs of its zeros. -/
def plain : Json → Json
  | .num n => .num n.plain
  | .arr items => .arr (plainItems items)
  | .obj members => .obj (plainMembers members)
  | other => other

/-- A list of values without the signs of their zeros. -/
def plainItems : List Json → List Json
  | [] => []
  | item :: rest => plain item :: plainItems rest

/-- A list of members without the signs of their zeros. -/
def plainMembers : List (String × Json) → List (String × Json)
  | [] => []
  | (key, value) :: rest => (key, plain value) :: plainMembers rest

end

/-- The string a value holds, if it is one. -/
def string? : Json → Option String
  | .str s => some s
  | _ => none

theorem string?_eq_some {json : Json} {text : String} (h : json.string? = some text) :
  json = .str text
  := by
  cases json with
  | str s =>
    cases h
    rfl
  | _ => cases h

/-- The members a value holds, if it is an object. -/
def members? : Json → Option Members
  | .obj members => some members
  | _ => none

end Json

namespace Members

/-- The value of a key. -/
def get? (key : String) : Members → Option Json
  | [] => none
  | (k, v) :: rest => if k = key then some v else get? key rest

/-- The members with `key` holding `value`, at the place of the key or, when it is new, before
the first greater key. -/
def put (key : String) (value : Json) : Members → Members
  | [] => [(key, value)]
  | (k, v) :: rest =>
    if k = key then (key, value) :: rest
    else if key < k then (key, value) :: (k, v) :: rest
    else (k, v) :: put key value rest

/-- The members without `key`. -/
def erase (key : String) (members : Members) : Members :=
  members.filter fun member => member.1 ≠ key

/-- The members of a list in order, a later value of a key replacing an earlier one. -/
def ofList (members : List (String × Json)) : Members :=
  members.foldl (fun result member => put member.1 member.2 result) []

@[simp]
theorem get?_put_self (key : String) (value : Json) (members : Members) :
  get? key (put key value members) = some value
  := by
  induction members with
  | nil => simp [put, get?]
  | cons member rest ih =>
    obtain ⟨k, v⟩ := member
    simp only [put]
    split
    · simp [get?]
    · split <;> simp_all [get?]

theorem get?_put_of_ne {key other : String} (h : key ≠ other) (value : Json) (members : Members) :
  get? other (put key value members) = get? other members
  := by
  induction members with
  | nil => simp [put, get?, h]
  | cons member rest ih =>
    obtain ⟨k, v⟩ := member
    simp only [put]
    split
    · next hk => simp [get?, hk, h]
    · split <;> simp [get?, h, ih]

@[simp]
theorem get?_erase_self (key : String) (members : Members) :
  get? key (erase key members) = none
  := by
  induction members with
  | nil => rfl
  | cons member rest ih =>
    obtain ⟨k, v⟩ := member
    by_cases hk : k = key
    · simpa [erase, hk] using ih
    · simpa [erase, get?, hk] using ih

@[simp]
theorem erase_put (key : String) (value : Json) (members : Members) :
  erase key (put key value members) = erase key members
  := by
  induction members with
  | nil => simp [put, erase]
  | cons member rest ih =>
    obtain ⟨k, v⟩ := member
    simp only [put]
    split
    · next hk => simp [erase, hk]
    · next hk =>
      split
      · simp [erase]
      · simpa [erase, hk] using ih

theorem erase_eq_self {key : String} {members : Members} (h : get? key members = none) :
  erase key members = members
  := by
  induction members with
  | nil => rfl
  | cons member rest ih =>
    obtain ⟨k, v⟩ := member
    simp only [get?] at h
    split at h
    · cases h
    · next hk => simpa [erase, hk] using ih h

end Members

end GuardedMachine
