import GuardedMachine.Guard.Trace
import Mathlib.Tactic.Use

/-!
# Places in guards and traces

A place is a list of numbers that tells, from the root downwards, which child to go to.
`Guard.node?` and `Trace.node?` look up what stands at a place.  A trace has its nodes at the places
of the guard it was made from (`Trace.node?_guard`).
-/

namespace GuardedMachine

namespace Guard

/-- The guards that a guard is made of, from left to right. -/
def children : Guard → List Guard
  | .leaf _ => []
  | .not inner => [inner]
  | .and children => children
  | .or children => children

/-- The guard at a place, if the place is inside. -/
def node? : Guard → List Nat → Option Guard
  | guard, [] => some guard
  | guard, i :: place => guard.children[i]?.bind fun child => child.node? place

@[simp]
theorem node?_nil (guard : Guard) :
  guard.node? [] = some guard
  := rfl

@[simp]
theorem node?_cons (guard : Guard) (i : Nat) (place : List Nat) :
  guard.node? (i :: place) = guard.children[i]?.bind fun child => child.node? place
  := rfl

theorem mem_namesOf {name : String} {children : List Guard} :
  name ∈ namesOf children ↔ ∃ child ∈ children, name ∈ child.names
  := by
  induction children with
  | nil => simp [namesOf]
  | cons child rest ih => simp [namesOf, ih]

/-- The names of a guard at a place inside are names of the guard. -/
theorem names_of_node? {guard part : Guard} {place : List Nat} (h : guard.node? place = some part) :
  ∀ name ∈ part.names, name ∈ guard.names
  := by
  induction place generalizing guard with
  | nil =>
    obtain rfl := Option.some.inj h
    exact fun _ hname => hname
  | cons i place ih =>
    obtain ⟨child, hchild, hnode⟩ := Option.bind_eq_some_iff.mp h
    intro name hname
    have hmem : child ∈ guard.children := List.mem_of_getElem? hchild
    have hinner := ih hnode name hname
    cases guard with
    | leaf name => cases hmem
    | not inner =>
      obtain rfl := List.mem_singleton.mp hmem
      exact hinner
    | and children => exact mem_namesOf.mpr ⟨child, hmem, hinner⟩
    | or children => exact mem_namesOf.mpr ⟨child, hmem, hinner⟩

end Guard

namespace Trace

/-- The traces right below the root, from left to right. -/
def children : Trace → List Trace
  | .leaf _ _ => []
  | .not _ inner => [inner]
  | .and _ children => children
  | .or _ children => children

/-- The node at a place, if the place is inside. -/
def node? : Trace → List Nat → Option Trace
  | trace, [] => some trace
  | trace, i :: place => trace.children[i]?.bind fun child => child.node? place

@[simp]
theorem node?_nil (trace : Trace) :
  trace.node? [] = some trace
  := rfl

@[simp]
theorem node?_cons (trace : Trace) (i : Nat) (place : List Nat) :
  trace.node? (i :: place) = trace.children[i]?.bind fun child => child.node? place
  := rfl

/-- A node below the root is a node of a child. -/
theorem node?_cons_eq_some {trace node : Trace} {i : Nat} {place : List Nat} :
  trace.node? (i :: place) = some node
    ↔ ∃ child, trace.children[i]? = some child ∧ child.node? place = some node
  := by
  rw [node?_cons, Option.bind_eq_some_iff]

theorem guards_eq_map (children : List Trace) :
  guards children = children.map guard
  := by
  induction children with
  | nil => rfl
  | cons child rest ih => simp [guards, ih]

theorem children_guard (trace : Trace) :
  trace.guard.children = trace.children.map guard
  := by
  cases trace with
  | leaf mark name => rfl
  | not mark inner => rfl
  | and mark children => exact guards_eq_map children
  | or mark children => exact guards_eq_map children

/-- Without the marks, the node at a place is the guard at that place. -/
theorem node?_guard (trace : Trace) (place : List Nat) :
  trace.guard.node? place = (trace.node? place).map guard
  := by
  induction place generalizing trace with
  | nil => rfl
  | cons i place ih =>
    rw [node?_cons, Guard.node?_cons, children_guard, List.getElem?_map]
    cases trace.children[i]? with
    | none => rfl
    | some child => exact ih child

end Trace

end GuardedMachine
