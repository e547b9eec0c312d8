import GuardedMachine.Guard.Basic

/-!
# Tracing guards

`Guard.trace check` asks `check` the same questions in the same order as `Guard.evaluate`, and
records for every node of the guard whether it held and whether it is the cause of a denial.

A node that the evaluation skips has no answer.  A node is a cause when it failed and only
conjunctions enclose it.  A conjunction is never a cause itself: the first of its members that
failed is.  A failed disjunction or negation is the cause as a whole, and no node below it is.
-/

namespace GuardedMachine

/-- What a trace records of a node. -/
structure Mark where
  /-- The answer, or nothing for a node that was skipped. -/
  allow : Option Bool
  /-- Whether the node explains the denial of the whole guard. -/
  cause : Bool
deriving DecidableEq

/-- A guard with a mark at every node. -/
inductive Trace where
  | leaf (mark : Mark) (name : String)
  | not (mark : Mark) (inner : Trace)
  | and (mark : Mark) (children : List Trace)
  | or (mark : Mark) (children : List Trace)

namespace Trace

/-- The mark of the root. -/
def mark : Trace → Mark
  | .leaf mark _ => mark
  | .not mark _ => mark
  | .and mark _ => mark
  | .or mark _ => mark

/-- The answer at the root. -/
def allow (trace : Trace) : Option Bool :=
  trace.mark.allow

mutual

/-- The guard without the marks. -/
def guard : Trace → Guard
  | .leaf _ name => .leaf name
  | .not _ inner => .not (guard inner)
  | .and _ children => .and (guards children)
  | .or _ children => .or (guards children)

/-- The guards of several traces. -/
def guards : List Trace → List Guard
  | [] => []
  | child :: rest => guard child :: guards rest

end

mutual

/-- Whether the root or a node below it is a cause. -/
def hasCause : Trace → Bool
  | .leaf mark _ => mark.cause
  | .not mark inner => mark.cause || hasCause inner
  | .and mark children => mark.cause || anyHasCause children
  | .or mark children => mark.cause || anyHasCause children

/-- Whether a node of one of several traces is a cause. -/
def anyHasCause : List Trace → Bool
  | [] => false
  | child :: rest => hasCause child || anyHasCause rest

end

end Trace

/-- What a node inherits from the nodes around it. -/
structure Scope where
  /-- The answer is already settled further up, so no predicate is asked. -/
  skip : Bool
  /-- Only conjunctions enclose the node. -/
  blame : Bool
deriving DecidableEq

namespace Scope

/-- The scope of the root. -/
def root : Scope := { skip := false, blame := true }

/-- The mark of a node that answered `allow`. -/
def mark (scope : Scope) (allow : Option Bool) : Mark :=
  { allow, cause := scope.blame && allow == some false }

end Scope

namespace Guard

variable {m : Type → Type} [Monad m]

mutual

/-- Trace a guard inside `scope`. -/
def traceIn (check : String → m Bool) : Guard → Scope → m Trace
  | .leaf name, scope =>
    if scope.skip then return .leaf (scope.mark none) name
    else do
      let allow ← check name
      return .leaf (scope.mark (some allow)) name
  | .not inner, scope => do
    let inner ← traceIn check inner { scope with blame := false }
    return .not (scope.mark (inner.allow.map fun allow => !allow)) inner
  | .and children, scope => do
    let (children, stopped) ← traceAllIn check false children scope
    let allow := if scope.skip then none else some !stopped
    return .and { allow, cause := false } children
  | .or children, scope => do
    let (children, stopped) ← traceAllIn check true children { scope with blame := false }
    let allow := if scope.skip then none else some stopped
    return .or (scope.mark allow) children

/-- Trace several guards from left to right, skipping those after the first that answers `stop`,
and tell whether one did. -/
def traceAllIn (check : String → m Bool) (stop : Bool) :
    List Guard → Scope → m (List Trace × Bool)
  | [], _ => return ([], false)
  | child :: rest, scope => do
    let node ← traceIn check child scope
    let stops := node.allow == some stop
    let (nodes, stopped) ← traceAllIn check stop rest { scope with skip := scope.skip || stops }
    return (node :: nodes, stops || stopped)

end

/-- Trace a guard. -/
def trace (check : String → m Bool) (guard : Guard) : m Trace :=
  guard.traceIn check Scope.root

end Guard

end GuardedMachine
