import MeteredBilling.Uuid
import MeteredBilling.Word

/-!
# Bodies in chunks

A body whose length is not known in advance is sent in chunks. In front of each stands its size in
hexadecimal, and the last one is empty; the lines behind it, up to an empty one, are passed over.
-/

namespace MeteredBilling.Web.Chunked

def carriageReturn : UInt8 := 13

def lineFeed : UInt8 := 10

/-- The bytes behind a line break. -/
def lineBreak? : List UInt8 → Option (List UInt8)
  | a :: b :: rest => if a == carriageReturn && b == lineFeed then some rest else none
  | _ => none

/-- The digits of a size and the bytes behind its line, on which blanks, and an extension behind a
semicolon, may follow. -/
def size? (bytes : List UInt8) : Option (Nat × List UInt8) := do
  let charOf (b : UInt8) : Char := Char.ofNat b.toNat
  let isDigit (b : UInt8) : Bool := (Uuid.hexValue? (charOf b)).isSome
  let digits := bytes.takeWhile isDigit
  guard !digits.isEmpty
  let size ← Uuid.hexNumber? (digits.map charOf)
  guard (size ≤ Word.greatest 64)
  let rest := (bytes.drop digits.length).dropWhile fun b => charOf b == ' ' || charOf b == '\t'
  let rest := if (rest.head?.map charOf) != some ';' then rest
    else rest.dropWhile fun b => b != carriageReturn && b != lineFeed
  some (size, ← lineBreak? rest)

/-- The lines from here on end with an empty one. -/
def areClosed : Nat → List UInt8 → Bool
  | 0, _ => false
  | fuel + 1, bytes =>
    match lineBreak? (bytes.dropWhile (· != carriageReturn)) with
    | some rest => bytes.head? == some carriageReturn || areClosed fuel rest
    | none => false

/-- The body of chunks; none if they are cut short or out of form. -/
def decode? (bytes : List UInt8) : Option (List UInt8) := go (bytes.length + 1) bytes
where
  go : Nat → List UInt8 → Option (List UInt8)
    | 0, _ => none
    | fuel + 1, bytes => do
      let (size, rest) ← size? bytes
      if size = 0 then
        guard (areClosed (rest.length + 1) rest)
        some []
      else
        guard (size ≤ rest.length)
        some (rest.take size ++ (← go fuel (← lineBreak? (rest.drop size))))

end MeteredBilling.Web.Chunked
