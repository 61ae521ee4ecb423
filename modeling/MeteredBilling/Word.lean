/-!
# Words

Whole numbers that are kept in words of so many bits.
-/

namespace MeteredBilling.Word

/-- The number of values of a word. -/
def count (bits : Nat) : Nat := Nat.pow 2 bits

/-- The greatest number in a word without a sign. -/
def greatest (bits : Nat) : Nat := count bits - 1

/-- A word with a sign holds the number. -/
def holds (bits : Nat) (n : Int) : Bool :=
  -(count (bits - 1) : Int) ≤ n && n ≤ (greatest (bits - 1) : Int)

end MeteredBilling.Word
