import MeteredBilling.Decimal.Shortest

/-!
# Positional decimals

The text of a decimal without an exponent: no point after a whole number, a zero before a leading
point, no zeros at the end of a fraction.
-/

namespace MeteredBilling.Decimal

/-- The decimal digits of `n`, and `0` for zero. -/
def natText (n : Nat) : List Char := Nat.toDigits 10 n

def intText (n : Int) : List Char :=
  if n < 0 then '-' :: natText n.natAbs else natText n.natAbs

/-- The digits of `n`, padded with zeros to `width`. -/
def padded (width n : Nat) : List Char :=
  let text := natText n
  List.replicate (width - text.length) '0' ++ text

/-- Moves the zeros at the end of the digits into the exponent, at most `fuel` of them. -/
def stripZeros : Nat → Digits → Digits
  | 0, d => d
  | fuel + 1, d =>
    if d.digits ≠ 0 ∧ d.digits % 10 = 0 then stripZeros fuel ⟨d.digits / 10, d.exponent + 1⟩ else d

def Digits.stripped (d : Digits) : Digits := stripZeros (natText d.digits).length d

def Digits.positional (d : Digits) : List Char :=
  let d := d.stripped
  let text := natText d.digits
  if 0 ≤ d.exponent then text ++ List.replicate d.exponent.toNat '0'
  else
    let places := (-d.exponent).toNat
    if text.length ≤ places then '0' :: '.' :: (List.replicate (places - text.length) '0' ++ text)
    else text.take (text.length - places) ++ '.' :: text.drop (text.length - places)

end MeteredBilling.Decimal
