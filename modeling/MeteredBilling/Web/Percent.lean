import MeteredBilling.Text.Utf8
import MeteredBilling.Uuid

/-!
# Percent encoding

A percent sign and two hexadecimal digits stand for a byte. A sign without its digits stands for
itself.
-/

namespace MeteredBilling.Web.Percent

open Text

def sign : UInt8 := 0x25

def digit? (b : UInt8) : Option Nat := Uuid.hexValue? (Char.ofNat b.toNat)

def decodeBytes : List UInt8 → List UInt8
  | [] => []
  | b :: high :: low :: rest =>
    match digit? high, digit? low with
    | some h, some l =>
      if b == sign then UInt8.ofNat (h * 16 + l) :: decodeBytes rest
      else b :: decodeBytes (high :: low :: rest)
    | _, _ => b :: decodeBytes (high :: low :: rest)
  | b :: rest => b :: decodeBytes rest

/-- Nothing if the bytes are no text. -/
def decode? (text : String) : Option String := Utf8.decode? (decodeBytes (Utf8.encode text))

/-- A byte in its encoded form. -/
def escape (b : UInt8) : List Char := '%' :: (Uuid.hexText 2 b.toNat).map Char.toUpper

/-- Encodes the bytes of those characters that are not kept. -/
def encode (keep : Char → Bool) (text : List Char) : List Char :=
  text.flatMap fun c =>
    if keep c then [c] else (Utf8.encode (String.singleton c)).flatMap escape

end MeteredBilling.Web.Percent
