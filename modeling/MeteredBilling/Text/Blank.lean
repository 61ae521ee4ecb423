/-!
# Blank characters

The characters of Unicode's property `White_Space`, and texts without them at their ends.
-/

namespace MeteredBilling.Text

def isBlank (c : Char) : Bool :=
  let n := c.toNat
  (9 ≤ n && n ≤ 13) || n == 0x20 || n == 0x85 || n == 0xA0 || n == 0x1680 ||
    (0x2000 ≤ n && n ≤ 0x200A) || n == 0x2028 || n == 0x2029 || n == 0x202F || n == 0x205F ||
    n == 0x3000

def dropTrailing (drop : Char → Bool) (text : List Char) : List Char :=
  (text.reverse.dropWhile drop).reverse

def trimmed (text : List Char) : List Char := dropTrailing isBlank (text.dropWhile isBlank)

def trim (text : String) : String := String.ofList (trimmed text.toList)

end MeteredBilling.Text
