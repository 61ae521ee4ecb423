import MeteredBilling.Amount
import MeteredBilling.Decimal.Numeral
import MeteredBilling.Decimal.Positional

/-!
# Doubles as amounts

Rounding to whole numbers and text of doubles, by way of the mantissa and exponent that their bits
hold, and the carrier of amounts that they make.
-/

namespace MeteredBilling.Double

open Decimal

def isNegative (x : Float) : Bool := x.toBits >>> 63 == 1

def withSign (negative : Bool) (x : Float) : Float := if negative then -x else x

/-- Replaces the magnitude of a finite `x`, seen as a quotient and a remainder by a power of two,
by a whole number, and keeps the sign. -/
def roundWith (pick : (quotient remainder divisor : Nat) → Nat) (x : Float) : Float :=
  let b := Binary.ofBits x.toBits
  if !x.isFinite || 0 ≤ b.exponent then x
  else
    let divisor := Nat.pow 2 (-b.exponent).toNat
    let n := pick (b.mantissa / divisor) (b.mantissa % divisor) divisor
    withSign (isNegative x) (Float.ofScientific n false 0)

/-- The nearest whole number; a half goes away from zero. -/
def nearest : Float → Float :=
  roundWith fun quotient remainder divisor =>
    if divisor ≤ 2 * remainder then quotient + 1 else quotient

/-- The least whole number that is not below; one in `(-1, 0]` gives the negative zero. -/
def ceiling (x : Float) : Float :=
  roundWith (fun quotient remainder _ =>
    if !isNegative x && remainder ≠ 0 then quotient + 1 else quotient) x

/-- The double nearest to `±mantissa · 10 ^ exponent`; decimals far outside the range of doubles are
told by their magnitude alone. -/
def ofDecimal (negative : Bool) (mantissa : Nat) (exponent : Int) : Float :=
  let magnitude := (natText mantissa).length + exponent
  withSign negative <|
    if mantissa = 0 || magnitude < -400 then 0
    else if 400 < magnitude then 1 / 0
    else Float.ofScientific mantissa (exponent < 0) exponent.natAbs

/-- The fewest digits that read back, without an exponent. -/
def text (x : Float) : String :=
  if x.isNaN then "NaN"
  else
    let sign := if isNegative x then "-" else ""
    if !x.isFinite then sign ++ "inf"
    else
      let b := Binary.ofBits x.toBits
      sign ++ String.ofList (if b.mantissa = 0 then ['0'] else b.shortest.positional)

/-- The fewest digits that read back, as a numeral of data interchange: a point is always written,
or an exponent with its sign where the point would stand more than 16 digits away, or 5 zeros in
front of them. -/
def numeral (x : Float) : String :=
  let b := Binary.ofBits x.toBits
  let d := b.shortest.stripped
  let digits := natText d.digits
  let point := digits.length + d.exponent
  let sign := if isNegative x then "-" else ""
  let fraction := if digits.length = 1 then [] else '.' :: digits.drop 1
  sign ++ String.ofList (
    if b.mantissa = 0 then "0.0".toList
    else if 16 < point then digits.take 1 ++ fraction ++ 'e' :: '+' :: intText (point - 1)
    else if point ≤ -5 then digits.take 1 ++ fraction ++ 'e' :: intText (point - 1)
    else if 0 ≤ d.exponent then d.positional ++ ".0".toList
    else d.positional)

/-- `base` to a natural power, by squaring: the factors are multiplied in the order of the bits. -/
def pow (base : Float) (n : Nat) : Float := go n base n 1
where
  go : Nat → Float → Nat → Float → Float
    | 0, _, _, acc => acc
    | fuel + 1, base, n, acc =>
      let acc := if n % 2 = 1 then acc * base else acc
      if n / 2 = 0 then acc else go fuel (base * base) (n / 2) acc

/-- The whole part as a count in 64 bits: none below zero, and the largest one above the range. -/
def toCount (x : Float) : Nat := x.toUInt64.toNat

end MeteredBilling.Double

namespace MeteredBilling

instance : Amount Float where
  zero := 0.0
  one := 1.0
  lt x y := x < y
  le x y := x ≤ y
  eq x y := x == y
  abs := Float.abs
  nearest := Double.nearest
  ceiling := Double.ceiling
  larger x y := if x.isNaN then y else if y.isNaN then x else if x < y then y else x
  smaller x y := if x.isNaN then y else if y.isNaN then x else if y < x then y else x
  isFinite := Float.isFinite
  ofDecimal := Double.ofDecimal
  text := Double.text
  numeral := Double.numeral

end MeteredBilling
