/-!
# Numerals

Decimal numerals with an optional fraction and exponent, read into sign, mantissa and exponent.
Two grammars share the parts: the strict one of data interchange (`strict?`) and the lenient one of
settings (`lenient?`), which allows a plus sign and a point at either end of the digits.
-/

namespace MeteredBilling.Decimal

/-- The value `±mantissa · 10 ^ exponent`. -/
structure Numeral where
  negative : Bool
  mantissa : Nat
  exponent : Int
  /-- Written without fraction and exponent. -/
  whole : Bool
  deriving DecidableEq, Repr

/-- The value of a run of digits, most significant first. -/
def digitsValue (digits : List Char) : Nat :=
  digits.foldl (fun value c => value * 10 + (c.toNat - '0'.toNat)) 0

/-- A natural number written in digits only. -/
def nat? (text : List Char) : Option Nat :=
  if !text.isEmpty && text.all Char.isDigit then some (digitsValue text) else none

/-- The digits of a fraction behind its point, which may be none, and the rest. -/
def fraction (text : List Char) : Option (List Char) × List Char :=
  match text with
  | '.' :: rest => (some (rest.takeWhile Char.isDigit), rest.dropWhile Char.isDigit)
  | _ => (none, text)

/-- The exponent behind its mark, if there is one, and the rest; nothing for a mark without
digits. -/
def exponent? (text : List Char) : Option (Option Int × List Char) :=
  let read (negative : Bool) (rest : List Char) : Option (Option Int × List Char) :=
    let digits := rest.takeWhile Char.isDigit
    let size : Int := digitsValue digits
    if digits.isEmpty then none
    else some (some (if negative then -size else size), rest.dropWhile Char.isDigit)
  match text with
  | mark :: rest =>
    if mark == 'e' || mark == 'E' then
      match rest with
      | '-' :: rest => read true rest
      | '+' :: rest => read false rest
      | rest => read false rest
    else some (none, text)
  | [] => some (none, [])

def Numeral.build (negative : Bool) (whole : List Char) (places : Option (List Char))
    (power : Option Int) : Numeral :=
  let digits := places.getD []
  ⟨negative, digitsValue (whole ++ digits), power.getD 0 - digits.length,
    places.isNone && power.isNone⟩

/-- The numeral at the front: no plus sign, no leading zeros, digits on both sides of a point. -/
def strict? (text : List Char) : Option (Numeral × List Char) := do
  let (negative, text) := match text with
    | '-' :: rest => (true, rest)
    | _ => (false, text)
  let whole := text.takeWhile Char.isDigit
  guard (!whole.isEmpty && (whole.length = 1 || whole.head? ≠ some '0'))
  let (places, rest) := fraction (text.dropWhile Char.isDigit)
  guard (places ≠ some [])
  let (power, rest) ← exponent? rest
  some (.build negative whole places power, rest)

/-- The whole text as a numeral: a sign may lead, and digits may lack on one side of a point. -/
def lenient? (text : List Char) : Option Numeral := do
  let (negative, text) := match text with
    | '-' :: rest => (true, rest)
    | '+' :: rest => (false, rest)
    | _ => (false, text)
  let whole := text.takeWhile Char.isDigit
  let (places, rest) := fraction (text.dropWhile Char.isDigit)
  guard (!(whole ++ places.getD []).isEmpty)
  let (power, rest) ← exponent? rest
  guard rest.isEmpty
  some (.build negative whole places power)

end MeteredBilling.Decimal
