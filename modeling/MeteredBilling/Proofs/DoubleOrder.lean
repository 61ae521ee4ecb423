import Mathlib.Data.Prod.Lex
import Mathlib.Data.Int.Order.Basic
import MeteredBilling.Proofs.Doubles

/-!
# The order of doubles

A double that is a number has a place in a linear order, and comparisons compare places. The larger
of two doubles is above all that one of them is above.
-/

namespace MeteredBilling.Double

open Float.Model Float.Model.UnpackedFloat

/-- The place of a number: its sign, with the infinities outermost, then exponent and mantissa. -/
def place? : UnpackedFloat → Option (ℤ ×ₗ ℤ ×ₗ ℤ)
  | .notANumber => none
  | .infinity .negative => some (toLex (-2, toLex (0, 0)))
  | .finite .negative m e _ => some (toLex (-1, toLex (-e, -m)))
  | .zero _ => some (toLex (0, toLex (0, 0)))
  | .finite .positive m e _ => some (toLex (1, toLex (e, m)))
  | .infinity .positive => some (toLex (2, toLex (0, 0)))

theorem then_eq_lt (m n : Nat) (e f : ℤ) :
    (compare e f).then (compare m n) = .lt ↔ e < f ∨ e = f ∧ m < n := by
  rw [Ordering.then_eq_lt, Int.compare_eq_lt, Int.compare_eq_eq, Nat.compare_eq_lt]

theorem then_eq_gt (m n : Nat) (e f : ℤ) :
    (compare e f).then (compare m n) = .gt ↔ f < e ∨ e = f ∧ n < m := by
  rw [Ordering.then_eq_gt, Int.compare_eq_gt, Int.compare_eq_eq, Nat.compare_eq_gt]

theorem negative_lt_positive : compare Sign.negative Sign.positive = .lt := rfl

theorem unpacked_lt_iff (u v : UnpackedFloat) :
    u.lt v = true ↔ ∃ p ∈ place? u, ∃ q ∈ place? v, p < q := by
  rcases u with ⟨⟨⟩⟩ | _ | sign | ⟨⟨⟩, m, e, pos⟩ <;>
    rcases v with ⟨⟨⟩⟩ | _ | sign' | ⟨⟨⟩, n, f, pos'⟩ <;>
    simp [UnpackedFloat.lt, UnpackedFloat.compare, place?, Prod.Lex.toLex_lt_toLex, then_eq_lt,
      then_eq_gt, negative_lt_positive]

theorem isNaN_iff (x : Float) : x.isNaN = true ↔ place? x.toModel.unpack = none := by
  change x.toModel.unpack.isNaN = true ↔ _
  rcases x.toModel.unpack with ⟨⟨⟩⟩ | _ | sign | ⟨⟨⟩, m, e, pos⟩ <;>
    simp [UnpackedFloat.isNaN, place?]

theorem lt_iff (x y : Float) :
    x < y ↔ ∃ p ∈ place? x.toModel.unpack, ∃ q ∈ place? y.toModel.unpack, p < q := by
  rw [← unpacked_lt_iff, ← lt_eq]
  exact decide_eq_true_iff.symm

theorem lt_irrefl (x : Float) : ¬x < x := by
  rw [lt_iff]
  rintro ⟨p, place, q, place', less⟩
  obtain rfl := Option.mem_unique place place'
  exact absurd rfl less.ne

theorem lt_trans {x y z : Float} (first : x < y) (second : y < z) : x < z := by
  rw [lt_iff] at first second ⊢
  obtain ⟨p, left, q, middle, below⟩ := first
  obtain ⟨q', same, r, right, below'⟩ := second
  obtain rfl := Option.mem_unique middle same
  exact ⟨p, left, r, right, below.trans below'⟩

theorem lt_of_lt_of_not_lt {x y z : Float} (less : x < y) (number : ¬z.isNaN = true)
    (above : ¬z < y) : x < z := by
  rw [lt_iff] at less above ⊢
  obtain ⟨p, left, q, middle, below⟩ := less
  obtain ⟨r, right⟩ := Option.ne_none_iff_exists'.mp (mt (isNaN_iff z).mpr number)
  have le : q ≤ r := not_lt.mp fun less => above ⟨r, right, q, middle, less⟩
  exact ⟨p, left, r, right, below.trans_le le⟩

theorem larger_eq (x y : Float) : Amount.larger x y =
    if x.isNaN then y else if y.isNaN then x else if x < y then y else x := rfl

theorem larger_cases (x y : Float) : Amount.larger x y = x ∨ Amount.larger x y = y := by
  rw [larger_eq]
  split_ifs <;> simp

/-- What is below one of two doubles is below the larger of them. -/
theorem lt_larger {a x y : Float} (below : a < x ∨ a < y) : a < Amount.larger x y := by
  rw [larger_eq]
  split_ifs with left right order
  · have nothing : ¬a < x := by simp [lt_iff, (isNaN_iff x).mp left]
    exact below.resolve_left nothing
  · have nothing : ¬a < y := by simp [lt_iff, (isNaN_iff y).mp right]
    exact below.resolve_right nothing
  · exact below.elim (lt_trans · order) id
  · exact below.elim id (lt_of_lt_of_not_lt · left order)

end MeteredBilling.Double
