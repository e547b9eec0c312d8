/-!
# Doubles as decimals

A number with a fraction or an exponent, or one that no 64-bit integer holds, stands for a double
and is written with the fewest digits that round to that double.

`Double.scale?` is the double for digits and a power of ten: the digits are rounded to a double
and multiplied or divided by the power, which is rounded to a double as well.  `Double.decimal`
gives the shortest digits.  Its search is exact: a double is a product of a natural number and a
power of two, and whether a decimal lies among the reals that round to it is decided by comparing
natural numbers.
-/

namespace GuardedMachine.Double

/-- The greatest power of ten that is a double. -/
def maxPower : Nat := 308

/-- Ten to a power, rounded to a double. -/
def powerOfTen (power : Nat) : Float :=
  Float.ofScientific 1 false power

/-- The double for `digits` times ten to the power `exponent`, if it is finite.  A power below
the least is divided by in two steps, and one that is far below it gives zero. -/
def scale? (digits : Nat) (exponent : Int) : Option Float :=
  let start := Float.ofNat digits
  if digits = 0 then some start
  else if maxPower < exponent then none
  else if 0 ≤ exponent then
    let scaled := start * powerOfTen exponent.toNat
    if scaled.isFinite then some scaled else none
  else
    let steps := exponent.natAbs
    if steps ≤ maxPower then some (start / powerOfTen steps)
    else if steps ≤ 2 * maxPower then
      some (start / powerOfTen maxPower / powerOfTen (steps - maxPower))
    else some (Float.ofNat 0)

/-- The magnitude of a finite double: `significand` times two to the power `exponent`. -/
structure Magnitude where
  significand : Nat
  exponent : Int
  /-- Whether the double below is only half as far away as the one above. -/
  narrow : Bool

namespace Magnitude

/-- The magnitude of the finite double with the given bits. -/
def ofBits (bits : UInt64) : Magnitude :=
  let biased := (bits.toNat / 0x10000000000000) % 0x800
  let fraction := bits.toNat % 0x10000000000000
  if biased = 0 then { significand := fraction, exponent := -1074, narrow := false }
  else
    { significand := 0x10000000000000 + fraction
      exponent := (biased : Int) - 1075
      narrow := fraction = 0 && 1 < biased }

/-- The quotient of `n` times two to the power `twos` by ten to the power `tens`, as a numerator
and a denominator. -/
def quotient (n : Nat) (twos tens : Int) : Nat × Nat :=
  (n * Nat.pow 2 twos.toNat * Nat.pow 10 (-tens).toNat,
    Nat.pow 2 (-twos).toNat * Nat.pow 10 tens.toNat)

/-- Whether `digits` times ten to the power `tens` rounds to the magnitude.  The reals that do
reach halfway to the doubles below and above; the two ends round to an even significand. -/
def readsAs (magnitude : Magnitude) (digits : Nat) (tens : Int) : Bool :=
  let four := 4 * magnitude.significand
  let (low, unit) :=
    quotient (if magnitude.narrow then four - 1 else four - 2) (magnitude.exponent - 2) tens
  let (high, _) := quotient (four + 2) (magnitude.exponent - 2) tens
  let scaled := digits * unit
  if magnitude.significand % 2 = 0 then low ≤ scaled && scaled ≤ high
  else low < scaled && scaled < high

/-- The multiple of ten to the power `tens` that rounds to the magnitude, if there is one.  The
closer of two wins, and the even one if both are equally close. -/
def onGrid? (magnitude : Magnitude) (tens : Int) : Option Nat :=
  let (n, unit) := quotient magnitude.significand magnitude.exponent tens
  let lower := n / unit
  let upper := lower + 1
  match magnitude.readsAs lower tens, magnitude.readsAs upper tens with
  | true, true =>
    let middle := (lower + upper) * unit
    if 2 * n < middle || (2 * n = middle && lower % 2 = 0) then some lower else some upper
  | true, false => some lower
  | false, true => some upper
  | false, false => none

/-- A power of ten above the magnitude, and at most two powers above the least such one. -/
def power (magnitude : Magnitude) : Int :=
  let twos : Int := magnitude.significand.log2 + magnitude.exponent
  (twos * 30103) / 100000 + 2

/-- The multiple of the greatest power of ten that rounds to the magnitude, of the powers from
`tens` down by at most `steps`, with that power. -/
def search (magnitude : Magnitude) (tens : Int) : Nat → Option (Nat × Int)
  | 0 => none
  | steps + 1 =>
    match magnitude.onGrid? tens with
    | some digits => some (digits, tens)
    | none => search magnitude (tens - 1) steps

end Magnitude

/-- The shortest decimal that reads as the magnitude of a finite double: its digits, which end in
no zero, and its power of ten.  Of the decimals with fewest digits it is the closest.  Twenty
powers leave room for the seventeen digits that are always enough. -/
def decimal (double : Float) : Nat × Int :=
  let magnitude := Magnitude.ofBits double.toBits
  if magnitude.significand = 0 then (0, 0)
  else (magnitude.search magnitude.power 20).getD (0, 0)

example : (scale? 1 (-1)).map decimal = some (1, -1) := by decide +kernel

example : (scale? 5 (-324)).map decimal = some (5, -324) := by decide +kernel

example : (scale? 30000000000000004 (-17)).map decimal = some (30000000000000004, -17) := by
  decide +kernel

end GuardedMachine.Double
