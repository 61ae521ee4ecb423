import Mathlib.Data.Rat.Floor
import Mathlib.Tactic.FieldSimp
import Mathlib.Tactic.Linarith
import Mathlib.Tactic.Ring
import MeteredBilling.Unit

/-!
# Exact amounts

The rationals as a carrier of amounts, on which the arithmetic of the ledger is exact, and the
rounding up of quantities with its slack there.
-/

namespace MeteredBilling

-- Without it a sum could start from the zero of the field or from the zero of the carrier.
instance (priority := high) rationalZero : Zero ℚ := MulZeroClass.toZero

namespace Exact

/-- The nearest whole number; a half goes away from zero. -/
def nearest (x : ℚ) : ℤ := if 0 ≤ x then ⌊x + 1 / 2⌋ else ⌈x - 1 / 2⌉

theorem nearest_of_close {x : ℚ} {n : ℤ} (close : |x - n| < 1 / 2) : nearest x = n := by
  obtain ⟨below, above⟩ := abs_lt.mp close
  unfold nearest
  split
  · rw [Int.floor_eq_iff]
    constructor <;> linarith
  · rw [Int.ceil_eq_iff]
    constructor <;> linarith

end Exact

instance : Amount ℚ where
  lt x y := decide (x < y)
  le x y := decide (x ≤ y)
  eq x y := decide (x = y)
  abs x := |x|
  nearest x := Exact.nearest x
  ceiling x := ⌈x⌉
  larger := max
  smaller := min
  isFinite _ := true
  ofDecimal negative mantissa exponent :=
    (if negative then -1 else 1) * mantissa * (10 : ℚ) ^ exponent
  text := toString
  numeral := toString

namespace Exact

@[simp] theorem lt_iff {x y : ℚ} : Amount.lt x y = true ↔ x < y := decide_eq_true_iff

@[simp] theorem le_iff {x y : ℚ} : Amount.le x y = true ↔ x ≤ y := decide_eq_true_iff

@[simp] theorem eq_iff {x y : ℚ} : Amount.eq x y = true ↔ x = y := decide_eq_true_iff

@[simp] theorem larger_eq (x y : ℚ) : Amount.larger x y = max x y := rfl

@[simp] theorem usable_iff {x : ℚ} : Amount.isUsableFactor x = true ↔ 0 < x := by
  have finite : Amount.isFinite x = true := rfl
  simp [Amount.isUsableFactor, finite, ← Bool.not_eq_true]

/-- What the tests for whole numbers and for falling totals leave room for. -/
def slack : ℚ := 1 / 10 ^ 9

@[simp] theorem amount_slack : (Amount.slack : ℚ) = slack := by
  simp [Amount.slack, Amount.ofDecimal, slack]

theorem slack_pos : 0 < slack := by norm_num [slack]

theorem slack_lt_half : slack < 1 / 2 := by norm_num [slack]

/-! ### Rounding up -/

/-- The whole number that the rounding up of quantities arrives at. -/
def roundUp (x : ℚ) : ℤ := ⌊x - slack⌋ + 1

theorem ceil_eq (q : Quantity ℚ) : q.ceil = ⟨roundUp q.value, q.unit⟩ := by
  have positive := slack_pos
  have small := slack_lt_half
  obtain ⟨x, unit⟩ := q
  simp only [Quantity.ceil, lt_iff, amount_slack]
  simp only [Amount.abs, Amount.nearest, Amount.ceiling]
  split
  · rename_i close
    obtain ⟨below, above⟩ := abs_lt.mp close
    have floor : ⌊x - slack⌋ = nearest x - 1 := by
      rw [Int.floor_eq_iff]
      push_cast
      constructor <;> linarith
    simp [roundUp, floor]
  · rename_i apart
    have low := Int.le_ceil x
    have high := Int.ceil_lt_add_one x
    have floor : ⌊x - slack⌋ = ⌈x⌉ - 1 := by
      rw [Int.floor_eq_iff]
      push_cast
      refine ⟨?_, by linarith⟩
      -- Less than the slack above a whole number, that number would be the nearest.
      by_contra above
      have close : |x - (⌈x⌉ - 1 : ℤ)| < slack := by
        rw [abs_lt]
        push_cast
        constructor <;> linarith
      rw [← nearest_of_close (close.trans small)] at close
      exact apart close
    simp [roundUp, floor]

theorem lt_roundUp (x : ℚ) : x - slack < roundUp x := by
  rw [roundUp]
  push_cast
  exact Int.lt_floor_add_one (x - slack)

theorem roundUp_le_iff {x : ℚ} {n : ℤ} : roundUp x ≤ n ↔ x < n + slack := by
  rw [roundUp, Int.add_one_le_iff, Int.floor_lt]
  constructor <;> intro h <;> linarith

theorem roundUp_mono {x y : ℚ} (le : x ≤ y) : roundUp x ≤ roundUp y :=
  roundUp_le_iff.mpr (lt_of_le_of_lt le (by linarith [lt_roundUp y]))

@[simp] theorem roundUp_sub_int (x : ℚ) (n : ℤ) : roundUp (x - n) = roundUp x - n := by
  rw [roundUp, roundUp, sub_right_comm, Int.floor_sub_intCast]
  omega

@[simp] theorem roundUp_intCast (n : ℤ) : roundUp n = n := by
  have floor : ⌊(n : ℚ) - slack⌋ = n - 1 := by
    rw [Int.floor_eq_iff]
    push_cast
    constructor <;> linarith [slack_pos, slack_lt_half]
  simp [roundUp, floor]

@[simp] theorem roundUp_zero : roundUp 0 = 0 := by
  simpa using roundUp_intCast 0

theorem roundUp_nonneg {x : ℚ} (nonneg : 0 ≤ x) : 0 ≤ roundUp x := by
  simpa using roundUp_mono nonneg

theorem roundUp_max (x y : ℚ) : roundUp (max x y) = max (roundUp x) (roundUp y) :=
  Monotone.map_max fun _ _ le => roundUp_mono le

end Exact
end MeteredBilling
