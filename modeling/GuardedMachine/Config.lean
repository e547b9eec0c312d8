import GuardedMachine.Console
import GuardedMachine.Sorting
import GuardedMachine.Table

/-!
# Configurations

A configuration gives the callbacks behind the names of guards and effects, says where reports
are written, and tells whether denials are traced.  Callbacks are tokens of a type `K`; what a
token does is the affair of the program that uses the machine.
-/

namespace GuardedMachine

/-- The callbacks and options of a machine. -/
structure Config (K : Type) where
  guards : Table String K
  effects : Table String K
  reporter : Reporter
  /-- Whether guards are traced to explain denials and to check the evaluation. -/
  development : Bool

namespace Config

variable {K : Type}

/-- No callbacks, errors written to a console with levels, and development mode. -/
def default : Config K where
  guards := Table.empty
  effects := Table.empty
  reporter := { console := Console.leveled, verbosity := .errors }
  development := true

/-- The callback of a guard. -/
def guard? (config : Config K) (name : String) : Option K :=
  config.guards.get? name

/-- The callback of an effect. -/
def effect? (config : Config K) (name : String) : Option K :=
  config.effects.get? name

/-- What the console keeps of a sequence of reports. -/
def transcript (config : Config K) (reports : List Report) : List Line :=
  reports.flatMap config.reporter.lines

/-- The inspected form of a configuration: the registered names in order, and the options. -/
def inspect (config : Config K) : String :=
  let names (table : Table String K) :=
    Text.inspectList ((sortBy (fun name => name) table.keys).map Text.inspectString)
  Text.inspectRecord "Config"
    [("guards", names config.guards), ("effects", names config.effects),
      ("verbosity", config.reporter.verbosity.name),
      ("development", Text.inspectBool config.development)]

end Config

end GuardedMachine
