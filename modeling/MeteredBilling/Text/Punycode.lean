import MeteredBilling.Uuid
import MeteredBilling.Word

/-!
# Punycode

Texts written in ASCII: the plain characters come first, and behind the last hyphen numbers tell
which other characters are inserted, and where. The numbers are written in digits of varying weight,
which follow the size of the numbers before.
-/

namespace MeteredBilling.Text.Punycode

/-- The digits are letters and then numerals. -/
def digit? (c : Char) : Option Nat :=
  if c.isAlpha then some (c.toLower.toNat - 'a'.toNat)
  else if c.isDigit then some (c.toNat - '0'.toNat + 26)
  else none

/-- A digit below the threshold of its place ends a number. -/
def threshold (bias place : Nat) : Nat := max 1 (min 26 (place - bias))

/-- The bias after a number, when so many characters have been read. -/
def adapt (delta count : Nat) (isFirst : Bool) : Nat :=
  let scaled := if isFirst then delta / 700 else delta / 2
  go scaled 0 (scaled + scaled / count)
where
  /-- Divides until the rest is small; every step takes more than half of it. -/
  go : Nat → Nat → Nat → Nat
    | 0, bias, delta => bias + 36 * delta / (delta + 38)
    | fuel + 1, bias, delta =>
      if 455 < delta then go fuel (bias + 36) (delta / 35) else bias + 36 * delta / (delta + 38)

/-- A number and the digits behind it. -/
def number? (bias : Nat) : (place weight : Nat) → List Char → Option (Nat × List Char)
  | _, _, [] => none
  | place, weight, c :: rest => do
    let digit ← digit? c
    let limit := threshold bias place
    if digit < limit then some (digit * weight, rest)
    else
      let (more, rest) ← number? bias (place + 36) (weight * (36 - limit)) rest
      some (digit * weight + more, rest)

/-- Inserts the characters that numbers tell: each of them counts the steps through the places of
the text so far, for one character after another. -/
def insertAll? : Nat → (place code bias : Nat) → List Char → List Char → Option (List Char)
  | 0, _, _, _, _, _ => none
  | _, _, _, _, text, [] => some text
  | fuel + 1, place, code, bias, text, digits => do
    let (delta, digits) ← number? bias 36 1 digits
    let count := text.length + 1
    let steps := place + delta
    let code := code + steps / count
    guard (code.isValidChar && steps ≤ Word.greatest 32)
    let slot := steps % count
    let text := text.take slot ++ Char.ofNat code :: text.drop slot
    insertAll? fuel (slot + 1) code (adapt delta count (place == 0)) text digits

/-- The text of its written form; none if that is no such form. -/
def decode? (written : List Char) : Option (List Char) := do
  let digits := (written.reverse.takeWhile (· != '-')).reverse
  let plain := written.take (written.length - digits.length - 1)
  guard (plain.all fun c => c.toNat < 0x80)
  insertAll? (digits.length + 1) 0 0x80 72 plain digits

end MeteredBilling.Text.Punycode
