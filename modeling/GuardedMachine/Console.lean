import GuardedMachine.Diagnostic
import GuardedMachine.Text.Inspect

/-!
# Consoles and reporters

A console is given lines and keeps what it can of them: a console without groups drops their
boundaries, and a console with a single channel keeps errors as ordinary lines.  A reporter
writes reports to a console, those that its verbosity allows.  `Reporter.lines` is what the
console keeps of one report: the message and the details, inside a group where the console has
groups.  A report without details is not written.
-/

namespace GuardedMachine

/-- A line given to a console. -/
inductive Line where
  | log (text : String)
  | error (text : String)
  | group (label : String)
  | groupEnd
deriving DecidableEq

namespace Line

/-- The text of a line, if it has one. -/
def text? : Line → Option String
  | .log text => some text
  | .error text => some text
  | .group label => some label
  | .groupEnd => none

/-- The line of a level. -/
def ofLevel : Level → String → Line
  | .debug => .log
  | .error => .error

/-- Whether `needle` occurs in a list of characters. -/
def occursIn (needle : List Char) : List Char → Bool
  | [] => needle.isEmpty
  | c :: rest => needle.isPrefixOf (c :: rest) || occursIn needle rest

/-- Whether the text of a line contains `needle`. -/
def mentions (line : Line) (needle : String) : Bool :=
  match line.text? with
  | some text => occursIn needle.toList text.toList
  | none => false

end Line

/-- A sink for lines. -/
structure Console where
  /-- Whether reports are put into groups. -/
  groups : Bool
  /-- What is kept of a line. -/
  keep : Line → Option Line

namespace Console

/-- A console that keeps every line; reports are not grouped. -/
def memory : Console :=
  { groups := false, keep := some }

/-- A console that keeps every line; reports are grouped. -/
def grouped : Console :=
  { groups := true, keep := some }

/-- A console with one channel and no groups. -/
def plain : Console where
  groups := false
  keep
    | .log text => some (.log text)
    | .error text => some (.log text)
    | _ => none

/-- A console with a channel for each level and no groups. -/
def leveled : Console where
  groups := false
  keep
    | .log text => some (.log text)
    | .error text => some (.error text)
    | _ => none

/-- What a console keeps of several lines. -/
def record (console : Console) (lines : List Line) : List Line :=
  lines.filterMap console.keep

end Console

/-- A console with a verbosity. -/
structure Reporter where
  console : Console
  verbosity : Verbosity

namespace Reporter

/-- Whether diagnostics of a level are written. -/
def enabled (reporter : Reporter) (level : Level) : Bool :=
  reporter.verbosity.allows level

/-- A labelled detail on a line of its own.  A detail of several lines starts below its label, so
that its columns stay aligned. -/
def detail (label value : String) : String :=
  if value.toList.contains '\n' then label ++ ":\n" ++ value else label ++ ": " ++ value

/-- The lines of a report, given to a console with or without groups. -/
def layout (groups : Bool) (report : Report) : List Line :=
  let level := report.diagnostic.level
  let message := report.diagnostic.message
  let details := report.details.map fun (label, value) => Line.ofLevel level (detail label value)
  if groups then .group message :: details ++ [.groupEnd]
  else Line.ofLevel level message :: details

/-- What the console keeps of a report. -/
def lines (reporter : Reporter) (report : Report) : List Line :=
  if reporter.enabled report.diagnostic.level && !report.details.isEmpty then
    reporter.console.record (layout reporter.console.groups report)
  else []

/-- The inspected form of a reporter. -/
def inspect (reporter : Reporter) : String :=
  "Reporter \x7b verbosity: " ++ reporter.verbosity.name ++ ", .. \x7d"

end Reporter

end GuardedMachine
