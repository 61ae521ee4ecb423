import MeteredBilling.Proofs.Rounding

/-!
# Values of rounded doubles

Rounding takes an exact value to a multiple of a power of two that is no more than half of that
power away, and never across a value that a double holds. From there come the exactness of what
fits, the order of rounded values and the relative error.
-/

namespace MeteredBilling.Double

open Float.Model Float.Model.UnpackedFloat

/-! ### Truncated mantissas -/

/-- What the mantissa and the residual bit of a half come to. -/
def cut (em : ExtendedMantissa) : ℚ := em.mantissa + if em.roundBit then 1 / 2 else 0

/-- The exact value that was truncated: the sticky bit tells that more than the half was lost. -/
def Truncates (em : ExtendedMantissa) (y : ℚ) : Prop :=
  if em.stickyBit then cut em < y ∧ y < cut em + 1 / 2 else y = cut em

namespace Truncates

variable {em : ExtendedMantissa} {y : ℚ}

theorem floor (truncates : Truncates em y) : em.mantissa ≤ y ∧ y < em.mantissa + 1 := by
  obtain ⟨m, upper, lower⟩ := em
  cases upper <;> cases lower <;>
    simp only [Truncates, cut, if_true, if_false, Bool.false_eq_true] at truncates <;>
    constructor <;> linarith

theorem shiftRightOne (truncates : Truncates em y) : Truncates em.shiftRightOne (y / 2) := by
  obtain ⟨m, upper, lower⟩ := em
  have parts : (m : ℚ) = 2 * (m / 2 : ℕ) + (m % 2 : ℕ) := by
    exact_mod_cast (Nat.div_add_mod m 2).symm
  -- the bit that is shifted out becomes the half, and the half before it sticks
  rcases Nat.mod_two_eq_zero_or_one m with even | odd
  · rw [even] at parts
    cases upper <;> cases lower <;>
      simp_all [Truncates, cut, ExtendedMantissa.shiftRightOne] <;> (try constructor) <;> linarith
  · rw [odd] at parts
    cases upper <;> cases lower <;>
      simp_all [Truncates, cut, ExtendedMantissa.shiftRightOne] <;> (try constructor) <;> linarith

theorem shiftRight (truncates : Truncates em y) (n : ℕ) : Truncates (em >>> n) (y / 2 ^ n) := by
  induction n with
  | zero =>
    rw [pow_zero, div_one]
    exact truncates
  | succ n ih =>
    rw [pow_succ, ← div_div]
    exact ih.shiftRightOne

theorem rounded (truncates : Truncates em y) : |(em.roundedMantissa : ℚ) - y| ≤ 1 / 2 := by
  obtain ⟨m, upper, lower⟩ := em
  rw [abs_le]
  cases upper <;> cases lower <;>
    simp only [Truncates, cut, if_true, if_false, Bool.false_eq_true,
      ExtendedMantissa.roundedMantissa, ExtendedMantissa.accuracy,
      Accuracy.roundToNearestEven] at truncates ⊢
  · constructor <;> linarith
  · constructor <;> linarith
  -- a tie goes to the even mantissa, on either side of it
  · rcases Nat.mod_two_eq_zero_or_one m with even | odd
    · rw [even]
      constructor <;> push_cast <;> linarith
    · rw [odd]
      constructor <;> push_cast <;> linarith
  · push_cast
    constructor <;> linarith

end Truncates

theorem truncates_exact (m : ℕ) : Truncates (.ofMantissaAndAccuracy m .exact) m := by
  simp [Truncates, cut, ExtendedMantissa.ofMantissaAndAccuracy]

theorem div_parts (m : ℕ) {d : ℕ} (pos : 0 < d) :
    (m : ℚ) / d = (m / d : ℕ) + ((m % d : ℕ) : ℚ) / d := by
  have positive : (0 : ℚ) < d := by exact_mod_cast pos
  rw [eq_comm, ← mul_right_inj' positive.ne', mul_add, mul_div_cancel₀ _ positive.ne',
    mul_div_cancel₀ _ positive.ne']
  exact_mod_cast Nat.div_add_mod m d

theorem truncates_div (m : ℕ) {d : ℕ} (pos : 0 < d) :
    Truncates (.ofMantissaAndAccuracy (m / d) (accuracyOfFraction (m % d) d)) ((m : ℚ) / d) := by
  have positive : (0 : ℚ) < d := by exact_mod_cast pos
  have below : ((m % d : ℕ) : ℚ) / d < 1 := by
    rw [div_lt_one positive]
    exact_mod_cast Nat.mod_lt m pos
  rw [div_parts m pos, accuracyOfFraction]
  rcases (m % d).eq_zero_or_pos with exact | inexact
  · rw [if_pos exact, exact, Nat.cast_zero, zero_div, add_zero]
    exact truncates_exact _
  · have above : 0 < ((m % d : ℕ) : ℚ) / d := div_pos (by exact_mod_cast inexact) positive
    rw [if_neg inexact.ne']
    cases order : compare (2 * (m % d)) d with
    | lt =>
      have half : ((m % d : ℕ) : ℚ) / d < 1 / 2 := by
        rw [div_lt_div_iff₀ positive two_pos]
        exact_mod_cast (by linarith [Nat.compare_eq_lt.mp order])
      simp only [Truncates, cut, ExtendedMantissa.ofMantissaAndAccuracy, if_true, if_false,
        Bool.false_eq_true]
      constructor <;> linarith
    | eq =>
      have half : ((m % d : ℕ) : ℚ) / d = 1 / 2 := by
        rw [div_eq_div_iff positive.ne' two_ne_zero]
        exact_mod_cast (by linarith [Nat.compare_eq_eq.mp order])
      simp only [Truncates, cut, ExtendedMantissa.ofMantissaAndAccuracy, if_true, if_false,
        Bool.false_eq_true, half]
    | gt =>
      have half : 1 / 2 < ((m % d : ℕ) : ℚ) / d := by
        rw [div_lt_div_iff₀ two_pos positive]
        exact_mod_cast (by linarith [Nat.compare_eq_gt.mp order])
      simp only [Truncates, cut, ExtendedMantissa.ofMantissaAndAccuracy, if_true]
      constructor <;> linarith

/-! ### Rounded values -/

/-- A nearest multiple of the power of two that doubles of this magnitude are multiples of. -/
structure RoundsAt (t : ℤ) (x r : ℚ) : Prop where
  whole : ∃ k : ℕ, r = k * 2 ^ t
  near : |r - x| ≤ 2 ^ t / 2
  floor : -1074 ≤ t
  full : 2 ^ (t + 52) ≤ x ∨ t = -1074

def Rounds (x r : ℚ) : Prop := ∃ t, RoundsAt t x r

/-- A value that rounding never crosses. -/
def OnGrid (z : ℚ) : Prop := ∃ c : ℕ, ∃ i : ℤ, c ≤ 2 ^ 53 ∧ -1074 ≤ i ∧ z = c * 2 ^ i

theorem onGrid_pow {i : ℤ} (above : -1074 ≤ i) : OnGrid (2 ^ i) :=
  ⟨1, i, by decide, above, by rw [Nat.cast_one, one_mul]⟩

theorem multiple_of_le {i t : ℤ} (le : t ≤ i) (c : ℕ) :
    ∃ j : ℕ, (c : ℚ) * 2 ^ i = j * 2 ^ t := by
  refine ⟨c * 2 ^ (i - t).toNat, ?_⟩
  have split : i = (i - t).toNat + t := by omega
  conv_lhs => rw [split, zpow_add₀ two_ne_zero, zpow_natCast]
  push_cast
  ring

namespace RoundsAt

variable {t : ℤ} {x r : ℚ}

theorem multiple_le (rounds : RoundsAt t x r) {j : ℕ} (le : j * 2 ^ t ≤ x) : j * 2 ^ t ≤ r := by
  obtain ⟨k, rfl⟩ := rounds.whole
  have unit : (0 : ℚ) < 2 ^ t := by positivity
  have near := (abs_le.mp rounds.near).1
  have close : (j : ℚ) * 2 ^ t < (k + 1) * 2 ^ t := by linarith
  have below : j < k + 1 := by exact_mod_cast lt_of_mul_lt_mul_right close unit.le
  exact mul_le_mul_of_nonneg_right (by exact_mod_cast Nat.lt_succ_iff.mp below) unit.le

theorem le_multiple (rounds : RoundsAt t x r) {j : ℕ} (le : x ≤ j * 2 ^ t) : r ≤ j * 2 ^ t := by
  obtain ⟨k, rfl⟩ := rounds.whole
  have unit : (0 : ℚ) < 2 ^ t := by positivity
  have near := (abs_le.mp rounds.near).2
  have close : (k : ℚ) * 2 ^ t < (j + 1) * 2 ^ t := by linarith
  have below : k < j + 1 := by exact_mod_cast lt_of_mul_lt_mul_right close unit.le
  exact mul_le_mul_of_nonneg_right (by exact_mod_cast Nat.lt_succ_iff.mp below) unit.le

theorem carry (t : ℤ) : ((2 ^ 52 : ℕ) : ℚ) * 2 ^ t = 2 ^ (t + 52) := by
  rw [zpow_add₀ two_ne_zero, mul_comm]
  norm_num

/-- A finer value is no further out than the least that has this power of two. -/
theorem finer_le {c : ℕ} {i : ℤ} (short : c ≤ 2 ^ 53) (finer : i < t) :
    (c : ℚ) * 2 ^ i ≤ 2 ^ (t + 52) :=
  calc (c : ℚ) * 2 ^ i ≤ 2 ^ 53 * 2 ^ i := by
        exact mul_le_mul_of_nonneg_right (by exact_mod_cast short) (by positivity)
    _ = 2 ^ (i + 53) := by rw [zpow_add₀ two_ne_zero, mul_comm]; norm_num
    _ ≤ 2 ^ (t + 52) := zpow_le_zpow_right₀ one_le_two (by omega)

theorem grid_le (rounds : RoundsAt t x r) {z : ℚ} (grid : OnGrid z) (le : z ≤ x) : z ≤ r := by
  obtain ⟨c, i, short, floor, rfl⟩ := grid
  rcases le_or_gt t i with coarse | finer
  · obtain ⟨j, same⟩ := multiple_of_le coarse c
    rw [same] at le ⊢
    exact rounds.multiple_le le
  · have full : 2 ^ (t + 52) ≤ x := rounds.full.resolve_right (by omega)
    exact (finer_le short finer).trans
      ((carry t).symm.le.trans (rounds.multiple_le ((carry t).le.trans full)))

theorem le_grid (rounds : RoundsAt t x r) {z : ℚ} (grid : OnGrid z) (le : x ≤ z) : r ≤ z := by
  obtain ⟨c, i, short, floor, rfl⟩ := grid
  rcases le_or_gt t i with coarse | finer
  · obtain ⟨j, same⟩ := multiple_of_le coarse c
    rw [same] at le ⊢
    exact rounds.le_multiple le
  · have full : 2 ^ (t + 52) ≤ x := rounds.full.resolve_right (by omega)
    have same := (finer_le short finer).antisymm (full.trans le)
    rw [same] at le ⊢
    exact (rounds.le_multiple (le.trans (carry t).symm.le)).trans (carry t).le

end RoundsAt

namespace Rounds

variable {x r z : ℚ}

theorem grid_le (rounds : Rounds x r) (grid : OnGrid z) (le : z ≤ x) : z ≤ r :=
  rounds.elim fun _ rounds => rounds.grid_le grid le

theorem le_grid (rounds : Rounds x r) (grid : OnGrid z) (le : x ≤ z) : r ≤ z :=
  rounds.elim fun _ rounds => rounds.le_grid grid le

theorem eq_of_grid (rounds : Rounds x r) (grid : OnGrid x) : r = x :=
  (rounds.le_grid grid le_rfl).antisymm (rounds.grid_le grid le_rfl)

/-- Half a unit in the last place, for a value that is not below the normal ones. -/
theorem near_of_normal (rounds : Rounds x r) (normal : 2 ^ (-1022 : ℤ) ≤ r) :
    |r - x| ≤ r / 2 ^ 53 := by
  obtain ⟨t, rounds⟩ := rounds
  have reached : 2 ^ (t + 52) ≤ r := by
    rcases rounds.full with full | low
    · exact (RoundsAt.carry t).symm.le.trans (rounds.multiple_le ((RoundsAt.carry t).le.trans full))
    · rw [low]
      exact normal
  calc |r - x| ≤ 2 ^ t / 2 := rounds.near
    _ = 2 ^ (t + 52) / 2 ^ 53 := by rw [zpow_add₀ two_ne_zero]; norm_num; ring
    _ ≤ r / 2 ^ 53 := div_le_div_of_nonneg_right reached (by positivity)

end Rounds

/-! ### Worth -/

/-- The exact value of a number that a double holds and that is not negative. -/
inductive Worth : UnpackedFloat → ℚ → Prop
  | zero : Worth (.zero .positive) 0
  | finite {m : ℕ} {e : ℤ} (pos : 0 < m) (fits : Fits m e) :
      Worth (.finite .positive m e pos) (m * 2 ^ e)

theorem mantissa_of_accuracy (m : ℕ) (accuracy : Accuracy) :
    (ExtendedMantissa.ofMantissaAndAccuracy m accuracy).mantissa = m := by
  cases accuracy with
  | exact => rfl
  | inexact order => cases order <;> rfl

theorem first_rounds {m : ℕ} {e : ℤ} {accuracy : Accuracy} {y : ℚ}
    (truncates : Truncates (.ofMantissaAndAccuracy m accuracy) y)
    (dense : 52 ≤ m.log2 ∨ e ≤ -1074) :
    let shift := shiftToTargetExponent .binary64 m e accuracy
    RoundsAt shift.2 (y * 2 ^ e) (shift.1.roundedMantissa * 2 ^ shift.2) := by
  have floor : -1074 ≤ (shiftToTargetExponent .binary64 m e accuracy).2 :=
    (first_shift accuracy dense).2.1
  have reached := truncates.floor.1
  rw [mantissa_of_accuracy] at reached
  simp only [shiftToTargetExponent, target_of_number, shiftToExponent] at floor ⊢
  obtain full : let n := (max (m.log2 + e - 52) (-1074) - e).toNat
      m.log2 = n + 52 ∨ e + n = -1074 := by
    omega
  generalize (max (m.log2 + e - 52) (-1074) - e).toNat = n at *
  refine ⟨⟨_, rfl⟩, ?_, floor, full.imp_left fun full => ?_⟩
  · have scaled : y * 2 ^ e = y / 2 ^ n * 2 ^ (e + n) := by
      rw [zpow_add₀ two_ne_zero, zpow_natCast]
      field_simp
    rw [scaled, ← sub_mul, abs_mul, abs_of_pos (by positivity : (0 : ℚ) < 2 ^ (e + n))]
    have near := mul_le_mul_of_nonneg_right (truncates.shiftRight n).rounded
      (by positivity : (0 : ℚ) ≤ 2 ^ (e + n))
    rwa [one_div, inv_mul_eq_div] at near
  · have some : m ≠ 0 := by
      rintro rfl
      rw [Nat.log2_zero] at full
      omega
    have least : (2 : ℚ) ^ m.log2 ≤ m := by exact_mod_cast Nat.log2_self_le some
    have exponent : e + n + 52 = m.log2 + e := by omega
    rw [exponent, zpow_add₀ two_ne_zero, zpow_natCast]
    exact mul_le_mul_of_nonneg_right (least.trans reached) (by positivity)

/-- What rounding leaves is worth a nearest multiple of the exact value. -/
theorem worth_rounded {m : ℕ} {e : ℤ} {accuracy : Accuracy} {y : ℚ}
    (truncates : Truncates (.ofMantissaAndAccuracy m accuracy) y)
    (dense : 52 ≤ m.log2 ∨ e ≤ -1074) :
    ∃ r, Worth (roundWithAccuracy .binary64 .positive m e accuracy) r ∧
      Rounds (y * 2 ^ e) r := by
  have rounds := first_rounds truncates dense
  obtain ⟨short, floor, full⟩ := first_shift accuracy dense
  refine ⟨_, ?_, _, rounds⟩
  unfold roundWithAccuracy
  generalize shiftToTargetExponent .binary64 m e accuracy = shift at *
  obtain ⟨em, t⟩ := shift
  simp only at short floor full ⊢
  have grown := mantissa_rounded em
  generalize em.roundedMantissa = r at *
  have second := second_shift (r := r) (t := t) (by omega) floor (by omega)
  generalize shiftToTargetExponent .binary64 r t .exact = last at *
  obtain ⟨last, t'⟩ := last
  simp only at second ⊢
  rcases second with ⟨short, rfl, rfl⟩ | ⟨rfl, half, rfl⟩
  · split
    · rename_i zero
      rw [zero, Nat.cast_zero, zero_mul]
      exact .zero
    · exact .finite _ ⟨short, floor, by omega⟩
  · have same : ((2 ^ 53 : ℕ) : ℚ) * 2 ^ t = last.mantissa * 2 ^ (t + 1) := by
      rw [half, zpow_add₀ two_ne_zero]
      push_cast
      ring
    rw [dif_neg (by omega), same]
    exact .finite _ ⟨by omega, by omega, by omega⟩

end MeteredBilling.Double
