import GuardedMachine.Json.Basic

/-!
# Diagnostics

A machine never fails for a rejected event or a misused handle: it reports a diagnostic.  Each
diagnostic has a level and a message, a report adds labelled details, and the verbosity decides
which levels are written.
-/

namespace GuardedMachine

/-- The severity of a diagnostic. -/
inductive Level where
  | debug
  | error
deriving DecidableEq

/-- The name of a level. -/
def Level.name : Level → String
  | .debug => "Debug"
  | .error => "Error"

/-- How much is written. -/
inductive Verbosity where
  /-- Nothing. -/
  | silent
  /-- Errors only. -/
  | errors
  /-- Everything. -/
  | all
deriving DecidableEq

namespace Verbosity

/-- Whether diagnostics of a level are written. -/
def allows : Verbosity → Level → Bool
  | .silent, _ => false
  | .errors, level => level == .error
  | .all, _ => true

/-- Everything or nothing. -/
def ofBool (verbose : Bool) : Verbosity :=
  if verbose then .all else .silent

/-- The verbosity of a number: none, errors, or everything from two on. -/
def ofNumber : Nat → Verbosity
  | 0 => .silent
  | 1 => .errors
  | _ => .all

/-- The name of a verbosity. -/
def name : Verbosity → String
  | .silent => "Silent"
  | .errors => "Errors"
  | .all => "All"

/-- The verbosity of a name. -/
def ofName? (name : String) : Option Verbosity :=
  if name = "Silent" then some .silent
  else if name = "Errors" then some .errors
  else if name = "All" then some .all
  else none

/-- The verbosity a JSON value stands for: a truth value, a number below 256, a name, or an object
that maps a name to null. -/
def ofJson? : Json → Option Verbosity
  | .bool verbose => some (ofBool verbose)
  | .num (.whole n) => if 0 ≤ n ∧ n < 256 then some (ofNumber n.toNat) else none
  | .str name => ofName? name
  | .obj [(name, .null)] => ofName? name
  | _ => none

end Verbosity

/-- What a machine reports instead of failing. -/
inductive Diagnostic where
  | undefinedState (state : String)
  | unknownEvent (state event : String)
  | guardDenied (source target : String)
  | undefinedGuard (name : String)
  | tracerDivergence
  | contextUpdated
  | undefinedEffect (effect state : String)
  | sendLocked
  | setContextLocked
  | unmounted
deriving DecidableEq

namespace Diagnostic

/-- The severity: rejected events and context updates are for debugging, all else is an error. -/
def level : Diagnostic → Level
  | .unknownEvent _ _ => .debug
  | .guardDenied _ _ => .debug
  | .contextUpdated => .debug
  | _ => .error

/-- The text of a diagnostic. -/
def message : Diagnostic → String
  | .undefinedState state => "State '" ++ state ++ "' not defined."
  | .unknownEvent state event =>
    "Current state '" ++ state ++ "' doesn't listen to event type '" ++ event ++ "'."
  | .guardDenied source target =>
    "Transition from '" ++ source ++ "' to '" ++ target ++ "' denied by guard."
  | .undefinedGuard name =>
    "The guard function '" ++ name ++ "' is not defined in the configuration."
  | .tracerDivergence =>
    "Guard results differ between traced and production evaluation. "
      ++ "This is a bug in the guard tracer."
  | .contextUpdated => "Context updated."
  | .undefinedEffect effect state =>
    "Effect '" ++ effect ++ "' not defined for state '" ++ state ++ "'."
  | .sendLocked => "Send function not available. Must be used synchronously within an effect."
  | .setContextLocked =>
    "Set context function not available. Must be used synchronously within an effect."
  | .unmounted => "Cannot dispatch an action to the state machine after it is unmounted."

end Diagnostic

/-- A diagnostic with labelled details. -/
structure Report where
  diagnostic : Diagnostic
  details : List (String × String)
deriving DecidableEq

end GuardedMachine
