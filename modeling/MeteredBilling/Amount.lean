/-!
# Amounts

The arithmetic that usage totals, bills and coverage are computed in. Doubles run the engine; any
other carrier, such as the exact rationals, states its theory.
-/

namespace MeteredBilling

/-- A carrier of amounts. Comparisons are tests: a value that is no number fails each of them. -/
class Amount (α : Type) extends Zero α, One α, Add α, Sub α, Mul α, Div α where
  lt : α → α → Bool
  le : α → α → Bool
  eq : α → α → Bool
  abs : α → α
  /-- The nearest whole number; a half goes away from zero. -/
  nearest : α → α
  /-- The least whole number that is not below. -/
  ceiling : α → α
  /-- The larger of two; a value that is no number gives way to the other. -/
  larger : α → α → α
  smaller : α → α → α
  isFinite : α → Bool
  /-- The value of `±mantissa · 10 ^ exponent`. -/
  ofDecimal : Bool → Nat → Int → α
  /-- The text of an amount in messages. -/
  text : α → String
  /-- The text of an amount as a numeral of data interchange. -/
  numeral : α → String

namespace Amount

variable {α : Type} [Amount α]

def ofInt (n : Int) : α := ofDecimal (n < 0) n.natAbs 0

/-- Amounts closer than this to a whole number count as that number, and a total that falls by no
more than this has not fallen. -/
def slack : α := ofDecimal false 1 (-9)

/-- A factor that amounts can be multiplied and divided by. -/
def isUsableFactor (x : α) : Bool := isFinite x && !le x 0

end Amount
end MeteredBilling
