import GuardedMachine.Guard.Trace

/-!
# Explaining denials

`Trace.explanation` writes a traced guard in infix form and, when a node of it is a cause, puts
below it a line with a caret under every character of the causes.  Both lines are read off one
list of characters that are either lit or not, so they always have the same length.
-/

namespace GuardedMachine.Trace

/-- Characters that are all lit or all unlit. -/
def paint (lit : Bool) (text : List Char) : List (Char × Bool) :=
  text.map fun c => (c, lit)

mutual

/-- The characters of a traced guard, those of causes lit.  Inside a cause everything is lit. -/
def cells (lit : Bool) : Trace → List (Char × Bool)
  | .leaf mark name => paint (lit || mark.cause) name.toList
  | .not mark inner => paint (lit || mark.cause) ['!'] ++ cells (lit || mark.cause) inner
  | .and mark children =>
    paint (lit || mark.cause) ['('] ++ cellsOf (lit || mark.cause) Guard.andSign children
      ++ paint (lit || mark.cause) [')']
  | .or mark children =>
    paint (lit || mark.cause) ['('] ++ cellsOf (lit || mark.cause) Guard.orSign children
      ++ paint (lit || mark.cause) [')']

/-- The characters of several traced guards, with `sign` between any two neighbours. -/
def cellsOf (lit : Bool) (sign : List Char) : List Trace → List (Char × Bool)
  | [] => []
  | [child] => cells lit child
  | child :: rest => cells lit child ++ paint lit sign ++ cellsOf lit sign rest

end

/-- The characters of a list of cells. -/
def code (cells : List (Char × Bool)) : List Char :=
  cells.map fun cell => cell.1

/-- A caret under every lit cell and a blank under every other one. -/
def carets (cells : List (Char × Bool)) : List Char :=
  cells.map fun cell => if cell.2 then '^' else ' '

/-- The infix form of a traced guard, followed by the line of carets if there is a cause. -/
def explanation (trace : Trace) : String :=
  let cells := trace.cells false
  if cells.any (fun cell => cell.2) then String.ofList (code cells ++ '\n' :: carets cells)
  else String.ofList (code cells)

end GuardedMachine.Trace
