import GuardedMachine.Json.Numeral

/-!
# The tokens of a JSON text

A JSON text is a list of tokens with blanks between them.  `Token.ofChars?` takes a text apart in
one pass over its characters: `Lexer.step` is what one character adds.  In a string a character
below the space has to be escaped, and an escape by code unit stands for a character, two of them
for one character beyond the basic plane.
-/

namespace GuardedMachine.Json

/-- A token of a JSON text. -/
inductive Token where
  | openArray
  | closeArray
  | openObject
  | closeObject
  | comma
  | colon
  | string (s : String)
  /-- A number, a truth value or null. -/
  | scalar (json : Json)
deriving DecidableEq

namespace Token

/-- The token of a mark. -/
def ofMark? : Char → Option Token
  | '[' => some .openArray
  | ']' => some .closeArray
  | '\x7b' => some .openObject
  | '\x7d' => some .closeObject
  | ',' => some .comma
  | ':' => some .colon
  | _ => none

/-- The token of a word: a name or a numeral. -/
def ofWord? (word : List Char) : Option Token :=
  if word = "null".toList then some (.scalar .null)
  else if word = "true".toList then some (.scalar (.bool true))
  else if word = "false".toList then some (.scalar (.bool false))
  else do
    let number ← (← Numeral.ofChars? word).number?
    return .scalar (.num number)

end Token

/-- The character that a backslash and a letter stand for. -/
def escaped? : Char → Option Char
  | '"' => some '"'
  | '\\' => some '\\'
  | '/' => some '/'
  | 'b' => some '\x08'
  | 'f' => some '\x0c'
  | 'n' => some '\n'
  | 'r' => some '\r'
  | 't' => some '\t'
  | _ => none

/-- The value of a hexadecimal digit. -/
def hexDigit? (c : Char) : Option Nat :=
  if '0' ≤ c && c ≤ '9' then some (c.toNat - '0'.toNat)
  else if 'a' ≤ c && c ≤ 'f' then some (c.toNat - 'a'.toNat + 10)
  else if 'A' ≤ c && c ≤ 'F' then some (c.toNat - 'A'.toNat + 10)
  else none

/-- Whether a character stands between tokens. -/
def isBlank (c : Char) : Bool :=
  c = ' ' || c = '\n' || c = '\t' || c = '\r'

/-- Where in a text a lexer is.  The characters of an unfinished token are listed in reverse. -/
inductive Place where
  /-- Between two tokens. -/
  | between
  /-- In a name or a numeral. -/
  | word (chars : List Char)
  /-- In a string. -/
  | string (chars : List Char)
  /-- Behind the backslash of an escape. -/
  | escape (chars : List Char)
  /-- In an escape by code unit, behind some of its four digits.  A high surrogate comes from the
  escape before. -/
  | unit (chars : List Char) (high : Option Nat) (digits : List Nat)
  /-- Behind a high surrogate. -/
  | high (chars : List Char) (unit : Nat)
  /-- Behind a high surrogate and a backslash. -/
  | highEscape (chars : List Char) (unit : Nat)

/-- A lexer at work. -/
structure Lexer where
  place : Place
  /-- The finished tokens in reverse. -/
  tokens : List Token

namespace Lexer

/-- The lexer at the start of a text. -/
def start : Lexer :=
  { place := .between, tokens := [] }

/-- Whether a code unit is the first of two that stand for one character. -/
def isHigh (unit : Nat) : Bool :=
  0xd800 ≤ unit && unit < 0xdc00

/-- Whether a code unit is the second of two that stand for one character. -/
def isLow (unit : Nat) : Bool :=
  0xdc00 ≤ unit && unit < 0xe000

/-- The place behind an escape by code unit in a string. -/
def afterUnit? (chars : List Char) (high : Option Nat) (unit : Nat) : Option Place :=
  match high with
  | some high =>
    if isLow unit then
      some (.string (Char.ofNat (0x10000 + (high - 0xd800) * 0x400 + (unit - 0xdc00)) :: chars))
    else none
  | none =>
    if isHigh unit then some (.high chars unit)
    else if isLow unit then none
    else some (.string (Char.ofNat unit :: chars))

/-- Read a character between two tokens. -/
def begin (tokens : List Token) (c : Char) : Lexer :=
  if isBlank c then { place := .between, tokens }
  else if c = '"' then { place := .string [], tokens }
  else match Token.ofMark? c with
    | some token => { place := .between, tokens := token :: tokens }
    | none => { place := .word [c], tokens }

/-- Read a character. -/
def step (lexer : Lexer) (c : Char) : Option Lexer :=
  match lexer.place with
  | .between => some (begin lexer.tokens c)
  | .word chars =>
    if isBlank c || c = '"' || (Token.ofMark? c).isSome then do
      let token ← Token.ofWord? chars.reverse
      return begin (token :: lexer.tokens) c
    else some { lexer with place := .word (c :: chars) }
  | .string chars =>
    if c = '"' then
      some { place := .between, tokens := .string (String.ofList chars.reverse) :: lexer.tokens }
    else if c = '\\' then some { lexer with place := .escape chars }
    else if c.toNat < 32 then none
    else some { lexer with place := .string (c :: chars) }
  | .escape chars =>
    if c = 'u' then some { lexer with place := .unit chars none [] }
    else do return { lexer with place := .string ((← escaped? c) :: chars) }
  | .unit chars high digits => do
    let digits := (← hexDigit? c) :: digits
    let place ← match digits with
      | [d, c, b, a] => afterUnit? chars high (((a * 16 + b) * 16 + c) * 16 + d)
      | _ => some (.unit chars high digits)
    return { lexer with place }
  | .high chars unit =>
    if c = '\\' then some { lexer with place := .highEscape chars unit } else none
  | .highEscape chars unit =>
    if c = 'u' then some { lexer with place := .unit chars (some unit) [] } else none

/-- The tokens of a text that ends here. -/
def finish (lexer : Lexer) : Option (List Token) :=
  match lexer.place with
  | .between => some lexer.tokens.reverse
  | .word chars => do return ((← Token.ofWord? chars.reverse) :: lexer.tokens).reverse
  | _ => none

end Lexer

/-- The tokens of a text. -/
def Token.ofChars? (chars : List Char) : Option (List Token) :=
  (chars.foldlM Lexer.step Lexer.start).bind Lexer.finish

example : Token.ofChars? "[-1, \"\\u00e9\\ud83d\\ude00\"]".toList
    = some [.openArray, .scalar (.int (-1)), .comma, .string "é😀", .closeArray] := by
  decide +kernel

end GuardedMachine.Json
