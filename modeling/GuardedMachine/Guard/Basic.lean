/-!
# Guards

A guard is a boolean formula over named predicates.  The conjunction of no guards holds, the
disjunction of no guards does not.  `Guard.names` lists the leaves from left to right and
`Guard.render` writes the infix form: `a`, `!a`, `(a && b)`, `(a || b)`.
-/

namespace GuardedMachine

/-- A boolean formula over named predicates. -/
inductive Guard where
  | leaf (name : String)
  | not (inner : Guard)
  | and (children : List Guard)
  | or (children : List Guard)

/-- A guard cannot be decided when a predicate it reaches has no meaning. -/
inductive GuardError where
  | undefined (name : String)
deriving DecidableEq

/-- The text of an error. -/
def GuardError.message : GuardError → String
  | .undefined name => "Guard '" ++ name ++ "' is not defined in the configuration"

namespace Guard

mutual

/-- The names of the leaves from left to right, with repetitions. -/
def names : Guard → List String
  | .leaf name => [name]
  | .not inner => names inner
  | .and children => namesOf children
  | .or children => namesOf children

/-- The names of the leaves of several guards. -/
def namesOf : List Guard → List String
  | [] => []
  | child :: rest => names child ++ namesOf rest

end

/-- The characters between the members of a conjunction. -/
def andSign : List Char := [' ', '&', '&', ' ']

/-- The characters between the members of a disjunction. -/
def orSign : List Char := [' ', '|', '|', ' ']

mutual

/-- The characters of the infix form. -/
def symbols : Guard → List Char
  | .leaf name => name.toList
  | .not inner => '!' :: symbols inner
  | .and children => '(' :: symbolsOf andSign children ++ [')']
  | .or children => '(' :: symbolsOf orSign children ++ [')']

/-- The characters of several guards, with `sign` between any two neighbours. -/
def symbolsOf (sign : List Char) : List Guard → List Char
  | [] => []
  | [child] => symbols child
  | child :: rest => symbols child ++ sign ++ symbolsOf sign rest

end

/-- The infix form. -/
def render (guard : Guard) : String :=
  String.ofList guard.symbols

example : (and [leaf "a", not (or [leaf "b", leaf "c"])]).render = "(a && !(b || c))" := by
  decide +kernel

mutual

/-- Whether two guards are equal. -/
def same : Guard → Guard → Bool
  | .leaf a, .leaf b => a == b
  | .not a, .not b => same a b
  | .and as, .and bs => sameOf as bs
  | .or as, .or bs => sameOf as bs
  | _, _ => false

/-- Whether two lists of guards are equal. -/
def sameOf : List Guard → List Guard → Bool
  | [], [] => true
  | a :: as, b :: bs => same a b && sameOf as bs
  | _, _ => false

end

mutual

theorem same_iff : ∀ a b : Guard,
  same a b = true ↔ a = b
  | .leaf _, b => by cases b <;> simp [same]
  | .not a, b => by cases b <;> simp [same, same_iff a]
  | .and as, b => by cases b <;> simp [same, sameOf_iff as]
  | .or as, b => by cases b <;> simp [same, sameOf_iff as]

theorem sameOf_iff : ∀ as bs : List Guard,
  sameOf as bs = true ↔ as = bs
  | [], bs => by cases bs <;> simp [sameOf]
  | a :: as, bs => by cases bs <;> simp [sameOf, same_iff a, sameOf_iff as]

end

instance : DecidableEq Guard :=
  fun a b => decidable_of_iff (same a b = true) (same_iff a b)

end Guard

end GuardedMachine
