/-!
# Shortest decimals

The decimal with the fewest digits that reads back as a given binary floating-point value, found
by exact arithmetic on naturals: `Binary.readsBack` says which decimals round to the value, and
`Binary.shortest` tries ever finer decimal grids until one of the value's neighbours does.
-/

namespace MeteredBilling.Decimal

/-- A finite positive value `mantissa · 2 ^ exponent`. -/
structure Binary where
  mantissa : Nat
  exponent : Int
  /-- The gap to the value below is half the gap to the value above. -/
  narrowBelow : Bool
  deriving DecidableEq, Repr

/-- The magnitude that the bits of a finite double hold. -/
def Binary.ofBits (bits : UInt64) : Binary :=
  let power := ((bits >>> 52) &&& 0x7FF).toNat
  let fraction := (bits &&& 0xFFFFFFFFFFFFF).toNat
  if power = 0 then ⟨fraction, -1074, false⟩
  else ⟨0x10000000000000 + fraction, power - 1075, fraction == 0 && power > 1⟩

/-- The value `digits · 10 ^ exponent`. -/
structure Digits where
  digits : Nat
  exponent : Int
  deriving DecidableEq, Repr

/-- Compares `a · 10 ^ i` with `n · 2 ^ j`. -/
def compareScaled (a : Nat) (i : Int) (n : Nat) (j : Int) : Ordering :=
  compare (a * Nat.pow 10 i.toNat * Nat.pow 2 (-j).toNat)
    (n * Nat.pow 2 j.toNat * Nat.pow 10 (-i).toNat)

/-- `d` lies among the reals that round to `x`, to nearest with ties to even. -/
def Binary.readsBack (x : Binary) (d : Digits) : Bool :=
  let lowest := if x.narrowBelow then 4 * x.mantissa - 1 else 4 * x.mantissa - 2
  let highest := 4 * x.mantissa + 2
  let closed := x.mantissa % 2 == 0
  let low := compareScaled d.digits d.exponent lowest (x.exponent - 2)
  let high := compareScaled d.digits d.exponent highest (x.exponent - 2)
  (low == .gt || (closed && low == .eq)) && (high == .lt || (closed && high == .eq))

/-- The least `k` with `x < 10 ^ k`: an estimate from the binary logarithm, put right by
comparison. -/
def Binary.magnitude (x : Binary) : Int :=
  let start := ((x.mantissa.log2 : Int) + x.exponent) * 30103 / 100000 - 1
  let above (k : Int) : Bool := compareScaled 1 k x.mantissa x.exponent == .gt
  match (List.range 4).find? fun i => above (start + (i : Nat)) with
  | some i => start + i
  | none => start + 4

/-- The largest point of the grid `10 ^ exponent` that is not above `x`. -/
def Binary.floorOn (x : Binary) (exponent : Int) : Nat :=
  x.mantissa * Nat.pow 2 x.exponent.toNat * Nat.pow 10 (-exponent).toNat
    / (Nat.pow 2 (-x.exponent).toNat * Nat.pow 10 exponent.toNat)

/-- The point of the grid that reads back as `x`: of two the nearer, and the upper one on a tie. -/
def Binary.onGrid (x : Binary) (exponent : Int) : Option Digits :=
  let below : Digits := ⟨x.floorOn exponent, exponent⟩
  let above : Digits := ⟨below.digits + 1, exponent⟩
  match x.readsBack below, x.readsBack above with
  | false, false => none
  | true, false => some below
  | false, true => some above
  | true, true =>
    if compareScaled (below.digits + above.digits) exponent x.mantissa (x.exponent + 1) == .gt
    then some below else some above

/-- The exact decimal expansion of `x`. -/
def Binary.exact (x : Binary) : Digits :=
  ⟨x.mantissa * Nat.pow 2 x.exponent.toNat * Nat.pow 5 (-x.exponent).toNat, min x.exponent 0⟩

/-- The fewest digits that read back as `x`; seventeen suffice for every double. -/
def Binary.shortest (x : Binary) : Digits :=
  let k := x.magnitude
  ((List.range 17).findSome? fun n => x.onGrid (k - (n + 1 : Nat))).getD x.exact

end MeteredBilling.Decimal
