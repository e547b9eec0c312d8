/-!
# Tables

A table maps keys to values and remembers the order in which its keys were first put.  Putting a
key again replaces its value and leaves its place.
-/

namespace GuardedMachine

/-- A map that keeps the order of its keys. -/
structure Table (K V : Type) where
  entries : List (K × V)
deriving DecidableEq

namespace Table

variable {K V : Type}

/-- The table without keys. -/
def empty : Table K V :=
  { entries := [] }

/-- The keys, in the order in which they were first put. -/
def keys (table : Table K V) : List K :=
  table.entries.map fun entry => entry.1

/-- The number of keys. -/
def size (table : Table K V) : Nat :=
  table.entries.length

variable [DecidableEq K]

/-- The value of a key in a list of entries. -/
def find? (key : K) : List (K × V) → Option V
  | [] => none
  | (k, v) :: rest => if k = key then some v else find? key rest

/-- The entries with `key` holding `value`, at the place of the key or, when it is new, at the
end. -/
def replace (key : K) (value : V) : List (K × V) → List (K × V)
  | [] => [(key, value)]
  | (k, v) :: rest => if k = key then (k, value) :: rest else (k, v) :: replace key value rest

/-- The value of a key. -/
def get? (table : Table K V) (key : K) : Option V :=
  find? key table.entries

/-- Whether the table has a key. -/
def has (table : Table K V) (key : K) : Bool :=
  (table.get? key).isSome

/-- The table with `key` holding `value`. -/
def put (table : Table K V) (key : K) (value : V) : Table K V :=
  { entries := replace key value table.entries }

/-- The table of the given entries, put one after the other. -/
def ofList (entries : List (K × V)) : Table K V :=
  entries.foldl (fun table entry => table.put entry.1 entry.2) empty

@[simp]
theorem get?_put_self (table : Table K V) (key : K) (value : V) :
  (table.put key value).get? key = some value
  := by
  obtain ⟨entries⟩ := table
  induction entries with
  | nil => simp [put, get?, replace, find?]
  | cons entry rest ih =>
    obtain ⟨k, v⟩ := entry
    simp only [put, get?, replace] at ih ⊢
    split
    · next h => simp [find?, h]
    · next h => simp [find?, h, ih]

theorem get?_put_of_ne (table : Table K V) {key other : K} (h : key ≠ other) (value : V) :
  (table.put key value).get? other = table.get? other
  := by
  obtain ⟨entries⟩ := table
  induction entries with
  | nil => simp [put, get?, replace, find?, h]
  | cons entry rest ih =>
    obtain ⟨k, v⟩ := entry
    simp only [put, get?, replace] at ih ⊢
    split
    · next hk => simp [find?, hk, h]
    · simp [find?, ih]

/-- Putting a key leaves the keys as they are, or adds it at the end when it is new. -/
theorem keys_put (table : Table K V) (key : K) (value : V) :
  (table.put key value).keys = if key ∈ table.keys then table.keys else table.keys ++ [key]
  := by
  obtain ⟨entries⟩ := table
  induction entries with
  | nil => simp [put, keys, replace]
  | cons entry rest ih =>
    obtain ⟨k, v⟩ := entry
    simp only [put, keys, replace] at ih ⊢
    split
    · next h => simp [h]
    · next h =>
      have h' : ¬ key = k := fun e => h e.symm
      simp only [List.map_cons, ih, List.mem_cons, h', false_or]
      by_cases hm : key ∈ rest.map fun entry => entry.1 <;> simp [hm]

end Table

end GuardedMachine
