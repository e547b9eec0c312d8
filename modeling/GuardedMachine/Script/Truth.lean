import GuardedMachine.Script.Basic

/-!
# Predicates with given answers

A truth table lists the answers of predicates by name.  A predicate answers its calls in turn and
repeats its last answer when the list is used up.  A name that is not in the table is undefined; an
answer that could not be read is a fault when it is asked for, and not before.  The calls are
recorded in order.
-/

namespace GuardedMachine.Script

/-- The answers of predicates, as far as they could be read. -/
abbrev Truth := Table String (List (Option Bool))

namespace Truth

/-- The answer of a list to the call with the given number of calls before it. -/
def answer? : List (Option Bool) → Nat → Option Bool
  | [], _ => none
  | [last], _ => last
  | first :: _, 0 => first
  | _ :: rest, earlier + 1 => answer? rest earlier

/-- Ask a predicate, after the calls recorded in the state. -/
def check (truth : Truth) (name : String) :
    ExceptT GuardError (StateT (List String) (Except Fault)) Bool := do
  let calls ← get
  set (calls ++ [name])
  match truth.get? name with
  | some answers =>
    match answer? answers (calls.count name) with
    | some answer => return answer
    | none => throwThe Fault .badInput
  | none => throw (.undefined name)

end Truth

end GuardedMachine.Script
