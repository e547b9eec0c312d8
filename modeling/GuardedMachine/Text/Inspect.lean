import GuardedMachine.Text.Printable

/-!
# Inspected text

The inspected form of a value names its constructor and shows every part on one line:
`Point { x: 1, tags: ["a"] }`.  The functions here write the parts that all values share:
quoted strings, lists, maps, records, and constructors applied to arguments.
-/

namespace GuardedMachine.Text

/-- The lower-case hexadecimal digits of a number, without leading zeros. -/
def hexadecimal (n : Nat) : List Char :=
  Nat.toDigits 16 n

/-- A character inside an inspected string.  The quote, the backslash and the controls with a
letter of their own are escaped by a backslash, any other character that is not printable by
its code point. -/
def inspectChar (c : Char) : List Char :=
  if c = '\x00' then ['\\', '0']
  else if c = '\t' then ['\\', 't']
  else if c = '\r' then ['\\', 'r']
  else if c = '\n' then ['\\', 'n']
  else if c = '"' then ['\\', '"']
  else if c = '\\' then ['\\', '\\']
  else if isPrintable c then [c]
  else ['\\', 'u', '\x7b'] ++ hexadecimal c.toNat ++ ['\x7d']

/-- A quoted string. -/
def inspectString (s : String) : String :=
  String.ofList ('"' :: s.toList.flatMap inspectChar ++ ['"'])

/-- The parts in order, with the separator between any two neighbours. -/
def joined (separator : String) : List String → String
  | [] => ""
  | [part] => part
  | part :: rest => part ++ separator ++ joined separator rest

/-- The parts, separated by commas. -/
def commas (parts : List String) : String :=
  joined ", " parts

/-- A list of inspected values. -/
def inspectList (parts : List String) : String :=
  "[" ++ commas parts ++ "]"

/-- A map from inspected keys to inspected values. -/
def inspectMap (entries : List (String × String)) : String :=
  "\x7b" ++ commas (entries.map fun (key, value) => key ++ ": " ++ value) ++ "\x7d"

/-- A record of named fields. -/
def inspectRecord (name : String) (fields : List (String × String)) : String :=
  name ++ " \x7b " ++ commas (fields.map fun (field, value) => field ++ ": " ++ value) ++ " \x7d"

/-- A constructor applied to arguments. -/
def inspectApplied (name : String) (arguments : List String) : String :=
  name ++ "(" ++ commas arguments ++ ")"

/-- An optional value. -/
def inspectOption : Option String → String
  | none => "None"
  | some text => inspectApplied "Some" [text]

/-- A truth value. -/
def inspectBool (b : Bool) : String :=
  if b then "true" else "false"

example : inspectString "a\"b\\\n" = "\"a\\\"b\\\\\\n\"" := by decide +kernel

example : inspectRecord "P" [("x", "1"), ("y", inspectList ["2"])]
    = "P \x7b x: 1, y: [2] \x7d" := by
  decide +kernel

end GuardedMachine.Text
