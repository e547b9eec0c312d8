import GuardedMachine.Json.Basic
import GuardedMachine.Text.Inspect

/-!
# The texts of a JSON value

`Json.text` is the compact JSON text of a value, without blanks.  In a string the quote, the
backslash and the characters below the space are escaped and every other character stands for
itself.  A decimal fraction is written with a point, and with an exponent where the point would
lie far from its digits.  `Json.inspect` is the inspected form, which names the kind of each value.
-/

namespace GuardedMachine

namespace Number

/-- The text of `digits` times ten to the power `exponent`.  A point with a digit on either side
is written into the digits if it falls behind at most sixteen of them or in front of them by at
most four zeros.  Otherwise an exponent follows, and a point only if there are several digits. -/
def decimalText (digits : Nat) (exponent : Int) : List Char :=
  let shown := Nat.toDigits 10 digits
  let point : Int := shown.length + exponent
  if 0 ≤ exponent && point ≤ 16 then shown ++ List.replicate exponent.toNat '0' ++ ['.', '0']
  else if 0 < point && point ≤ 16 then
    shown.take point.toNat ++ '.' :: shown.drop point.toNat
  else if -5 < point && point ≤ 0 then
    ['0', '.'] ++ List.replicate (-point).toNat '0' ++ shown
  else
    let power := point - 1
    let rest := shown.drop 1
    shown.take 1 ++ (if rest.isEmpty then [] else '.' :: rest)
      ++ ['e', if power < 0 then '-' else '+'] ++ Nat.toDigits 10 power.natAbs

/-- The text of a number. -/
def text : Number → String
  | .whole n => toString n
  | .decimal negative digits exponent =>
    String.ofList ((if negative then ['-'] else []) ++ decimalText digits exponent)

end Number

namespace Json

/-- A character inside a JSON string. -/
def textChar (c : Char) : List Char :=
  if c = '"' then ['\\', '"']
  else if c = '\\' then ['\\', '\\']
  else if c = '\x08' then ['\\', 'b']
  else if c = '\x0c' then ['\\', 'f']
  else if c = '\n' then ['\\', 'n']
  else if c = '\r' then ['\\', 'r']
  else if c = '\t' then ['\\', 't']
  else if c.toNat < 32 then
    ['\\', 'u', '0', '0'] ++ (if c.toNat < 16 then ['0'] else []) ++ Text.hexadecimal c.toNat
  else [c]

/-- A string as JSON text. -/
def textString (s : String) : String :=
  String.ofList ('"' :: s.toList.flatMap textChar ++ ['"'])

/-- The JSON text of an object, given the texts of its values. -/
def textObject (members : List (String × String)) : String :=
  "\x7b" ++ Text.joined "," (members.map fun (key, value) => textString key ++ ":" ++ value)
    ++ "\x7d"

mutual

/-- The compact JSON text of a value. -/
def text : Json → String
  | .null => "null"
  | .bool b => Text.inspectBool b
  | .num n => n.text
  | .str s => textString s
  | .arr items => "[" ++ Text.joined "," (textItems items) ++ "]"
  | .obj members => textObject (textMembers members)

/-- The texts of a list of values. -/
def textItems : List Json → List String
  | [] => []
  | item :: rest => text item :: textItems rest

/-- The keys of a list of members with the texts of their values. -/
def textMembers : List (String × Json) → List (String × String)
  | [] => []
  | (key, value) :: rest => (key, text value) :: textMembers rest

end

mutual

/-- The inspected form of a value. -/
def inspect : Json → String
  | .null => "Null"
  | .bool b => Text.inspectApplied "Bool" [Text.inspectBool b]
  | .num n => Text.inspectApplied "Number" [n.text]
  | .str s => Text.inspectApplied "String" [Text.inspectString s]
  | .arr items => "Array " ++ Text.inspectList (inspectItems items)
  | .obj members => "Object " ++ Text.inspectMap (inspectMembers members)

/-- The inspected forms of a list of values. -/
def inspectItems : List Json → List String
  | [] => []
  | item :: rest => inspect item :: inspectItems rest

/-- The inspected keys of a list of members with the inspected forms of their values. -/
def inspectMembers : List (String × Json) → List (String × String)
  | [] => []
  | (key, value) :: rest => (Text.inspectString key, inspect value) :: inspectMembers rest

end

example : (Number.decimal true 25 (-2)).text = "-0.25" := by decide +kernel

example : (Number.decimal false 5 (-324)).text = "5e-324" := by decide +kernel

example : (Json.obj [("a", .arr [.null, .int 1]), ("b", .str "\n")]).text
    = "\x7b\"a\":[null,1],\"b\":\"\\n\"\x7d" := by
  decide +kernel

end Json

end GuardedMachine
