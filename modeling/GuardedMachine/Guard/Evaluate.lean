import GuardedMachine.Guard.Basic

/-!
# Evaluating guards

`Guard.evaluate check` decides a guard by asking `check` for the predicates it reaches.  Members
of a conjunction or a disjunction are decided from left to right, and the first member that
settles the answer ends the evaluation.  The answers come in a monad, so that a predicate may
fail, keep a state, or run further programs.
-/

namespace GuardedMachine.Guard

variable {m : Type → Type} [Monad m]

mutual

/-- Decide a guard. -/
def evaluate (check : String → m Bool) : Guard → m Bool
  | .leaf name => check name
  | .not inner => do
    let allow ← evaluate check inner
    return !allow
  | .and children => evaluateAll check children
  | .or children => evaluateAny check children

/-- Decide whether all of several guards hold, up to the first that does not. -/
def evaluateAll (check : String → m Bool) : List Guard → m Bool
  | [] => pure true
  | child :: rest => do
    let allow ← evaluate check child
    if allow then evaluateAll check rest else return false

/-- Decide whether any of several guards holds, up to the first that does. -/
def evaluateAny (check : String → m Bool) : List Guard → m Bool
  | [] => pure false
  | child :: rest => do
    let allow ← evaluate check child
    if allow then return true else evaluateAny check rest

end

end GuardedMachine.Guard
