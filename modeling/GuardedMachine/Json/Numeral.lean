import GuardedMachine.Json.Basic
import GuardedMachine.Json.Double

/-!
# Numerals

A numeral is a JSON number as it is written: a sign, digits, a fraction and an exponent.
`Numeral.ofChars?` takes a text apart and `Numeral.number?` is the number that a numeral stands
for.  A numeral without fraction and exponent stands for a whole number if a signed or an unsigned
64-bit integer holds it; any other numeral, and a zero with a sign, stands for a double.
-/

namespace GuardedMachine

/-- A number as it is written. -/
structure Numeral where
  negative : Bool
  /-- The digits before the point. -/
  whole : List Char
  /-- The digits behind the point. -/
  fraction : List Char
  /-- The power of ten after the mark of an exponent, if there is one. -/
  exponent : Option Int
deriving DecidableEq

namespace Numeral

/-- The digits that a text starts with, at least one, and the text behind them. -/
def digits? (chars : List Char) : Option (List Char × List Char) :=
  let digits := chars.takeWhile Char.isDigit
  if digits.isEmpty then none else some (digits, chars.dropWhile Char.isDigit)

/-- A digit appended to a number. -/
def append (n : Nat) (digit : Char) : Nat :=
  10 * n + (digit.toNat - '0'.toNat)

/-- The number that digits write. -/
def value (digits : List Char) : Nat :=
  digits.foldl append 0

/-- The exponent behind its mark: digits after at most one sign. -/
def exponent? (chars : List Char) : Option Int := do
  let (negative, chars) := match chars with
    | '-' :: rest => (true, rest)
    | '+' :: rest => (false, rest)
    | _ => (false, chars)
  let (digits, rest) ← digits? chars
  if rest.isEmpty then some (if negative then -value digits else value digits) else none

/-- The numeral with the given text.  Its first digit is not zero unless it is the only one before
the point, and there are digits on either side of a point. -/
def ofChars? (chars : List Char) : Option Numeral := do
  let (negative, chars) := match chars with
    | '-' :: rest => (true, rest)
    | _ => (false, chars)
  let (whole, chars) ← digits? chars
  if whole.head? = some '0' && 1 < whole.length then none
  let (fraction, chars) ← match chars with
    | '.' :: rest => digits? rest
    | _ => some ([], chars)
  let exponent ← match chars with
    | [] => some none
    | mark :: rest => if mark = 'e' || mark = 'E' then some <$> exponent? rest else none
  return { negative, whole, fraction, exponent }

/-- The whole number that a numeral stands for, if it stands for one. -/
def whole? (numeral : Numeral) : Option Int :=
  let n := value numeral.whole
  if !numeral.fraction.isEmpty || numeral.exponent.isSome then none
  else if numeral.negative then
    if n ≠ 0 && Int64.minValue.toInt ≤ -(n : Int) then some (-n) else none
  else if n < UInt64.size then some n
  else none

/-- The number `start` with digits appended for as long as 64 bits hold it, and the digits that
are left. -/
def absorb (start : Nat) : List Char → Nat × List Char
  | [] => (start, [])
  | digit :: rest =>
    let next := append start digit
    if next < UInt64.size then absorb next rest else (start, digit :: rest)

/-- The finite double that a numeral stands for, without its sign.  Digits behind those that 64
bits hold do not count but for their places. -/
def double? (numeral : Numeral) : Option Float :=
  let (leading, dropped) := absorb 0 numeral.whole
  let (leading, ignored) := absorb leading numeral.fraction
  let places : Int := numeral.fraction.length - ignored.length
  Double.scale? leading (numeral.exponent.getD 0 + dropped.length - places)

/-- The number that a numeral stands for, unless it is too large for a double. -/
def number? (numeral : Numeral) : Option Number :=
  match numeral.whole? with
  | some n => some (.whole n)
  | none => do
    let (digits, exponent) := Double.decimal (← numeral.double?)
    return .decimal numeral.negative digits exponent

example : (ofChars? "-0.0".toList).bind number? = some (.decimal true 0 0) := by decide +kernel

example : (ofChars? "18446744073709551616".toList).bind number?
    = some (.decimal false 18446744073709552 3) := by
  decide +kernel

end Numeral

end GuardedMachine
