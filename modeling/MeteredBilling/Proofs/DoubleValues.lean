import MeteredBilling.Proofs.DoubleOrder
import MeteredBilling.Proofs.RoundedValues

/-!
# Arithmetic on the values of doubles

A sum, a difference, a product and a quotient of doubles that are not negative is the exact one,
rounded. Doubles are equal and compare as the values that they hold.
-/

namespace MeteredBilling.Double

open Float.Model Float.Model.UnpackedFloat

def Holds (x : Float) (q : ℚ) : Prop := Worth x.toModel.unpack q

/-- The exact value rounded, or the infinity where that is out of range. -/
def Rounded (u : UnpackedFloat) (q : ℚ) : Prop :=
  ∃ r, Rounds q r ∧ (Worth u r ∨ u = .infinity .positive ∧ 2 ^ (1024 : ℤ) ≤ r)

variable {u v : UnpackedFloat} {x y : Float} {p q r : ℚ}

/-! ### Values -/

namespace Worth

theorem nonneg (worth : Worth u q) : 0 ≤ q := by
  cases worth with
  | zero => rfl
  | finite => positivity

theorem onGrid (worth : Worth u q) : OnGrid q := by
  cases worth with
  | zero => exact ⟨0, 0, Nat.zero_le _, by decide, by norm_num⟩
  | @finite m e pos fits => exact ⟨m, e, fits.short.le, fits.above, rfl⟩

theorem not_isNaN (worth : Worth u q) : u.isNaN = false := by
  cases worth <;> rfl

theorem add_zero (worth : Worth u q) : UnpackedFloat.add .binary64 u (.zero .positive) = u := by
  cases worth <;> rfl

theorem zero_add (worth : Worth u q) : UnpackedFloat.add .binary64 (.zero .positive) u = u := by
  cases worth <;> rfl

theorem sub_zero (worth : Worth u q) : UnpackedFloat.sub .binary64 u (.zero .positive) = u := by
  cases worth <;> rfl

theorem abs (worth : Worth u q) : u.abs = u := by
  cases worth <;> rfl

theorem unpack_pack (worth : Worth u r) :
    Worth (Float.Model.pack u).unpack r ∨
      (Float.Model.pack u).unpack = .infinity .positive ∧ 2 ^ (1024 : ℤ) ≤ r := by
  cases worth with
  | zero => exact .inl .zero
  | @finite m e pos fits =>
    rcases lt_or_ge e 972 with near | far
    · have same : (Float.Model.pack (.finite .positive m e pos)).unpack =
          .finite .positive m e pos := unpack_pack_near .positive pos fits near
      rw [same]
      exact .inl (.finite pos fits)
    · refine .inr ⟨unpack_pack_far .positive pos far, ?_⟩
      have full : (2 ^ 52 : ℚ) ≤ m := by exact_mod_cast fits.full.resolve_right (by omega)
      calc (2 : ℚ) ^ (1024 : ℤ) = 2 ^ 52 * 2 ^ (972 : ℤ) := by
            rw [← zpow_natCast, ← zpow_add₀ two_ne_zero]
            rfl
        _ ≤ m * 2 ^ e :=
            mul_le_mul full (zpow_le_zpow_right₀ one_le_two far) (by positivity) (by positivity)

theorem rounded (worth : Worth u r) (rounds : Rounds q r) :
    Rounded (Float.Model.pack u).unpack q := ⟨r, rounds, worth.unpack_pack⟩

end Worth

namespace Rounded

theorem of_le (rounded : Rounded u q) (le : q ≤ 2 ^ (1023 : ℤ)) : ∃ r, Rounds q r ∧ Worth u r := by
  obtain ⟨r, rounds, worth | ⟨_, far⟩⟩ := rounded
  · exact ⟨r, rounds, worth⟩
  · have near := rounds.le_grid (onGrid_pow (by decide)) le
    have less : (2 : ℚ) ^ (1023 : ℤ) < 2 ^ (1024 : ℤ) := zpow_lt_zpow_right₀ one_lt_two (by decide)
    exact absurd (far.trans near) less.not_ge

theorem of_finite (rounded : Rounded u q) (finite : u.isFinite = true) :
    ∃ r, Rounds q r ∧ Worth u r := by
  obtain ⟨r, rounds, worth | ⟨rfl, _⟩⟩ := rounded
  · exact ⟨r, rounds, worth⟩
  · cases finite

theorem exact (rounded : Rounded u q) (grid : OnGrid q) (le : q ≤ 2 ^ (1023 : ℤ)) : Worth u q := by
  obtain ⟨r, rounds, worth⟩ := rounded.of_le le
  exact rounds.eq_of_grid grid ▸ worth

end Rounded

theorem Worth.rounds (worth : Worth u q) : Rounds q q := by
  cases worth with
  | zero =>
    refine ⟨-1074, ⟨0, by norm_num⟩, ?_, le_rfl, .inr rfl⟩
    rw [sub_self, abs_zero]
    positivity
  | @finite m e pos fits =>
    refine ⟨e, ⟨m, rfl⟩, ?_, fits.above, fits.full.imp_left fun full => ?_⟩
    · rw [sub_self, abs_zero]
      positivity
    · rw [← RoundsAt.carry]
      exact mul_le_mul_of_nonneg_right (by exact_mod_cast full) (by positivity)

theorem Worth.packed (worth : Worth u q) : Rounded (Float.Model.pack u).unpack q :=
  worth.rounded worth.rounds

/-! ### Order -/

theorem Fits.lt {m n : ℕ} {e f : ℤ} (fits : Fits m e) (fits' : Fits n f)
    (less : e < f ∨ e = f ∧ m < n) : (m : ℚ) * 2 ^ e < n * 2 ^ f := by
  rcases less with less | ⟨rfl, less⟩
  · have full : 2 ^ 52 ≤ n := fits'.full.resolve_right (by have := fits.above; omega)
    calc (m : ℚ) * 2 ^ e < 2 ^ 53 * 2 ^ e := by
          exact mul_lt_mul_of_pos_right (by exact_mod_cast fits.short) (by positivity)
      _ = 2 ^ 52 * 2 ^ (e + 1) := by rw [zpow_add₀ two_ne_zero]; ring
      _ ≤ n * 2 ^ f := by
          exact mul_le_mul (by exact_mod_cast full) (zpow_le_zpow_right₀ one_le_two (by omega))
            (by positivity) (by positivity)
  · exact mul_lt_mul_of_pos_right (by exact_mod_cast less) (by positivity)

theorem Fits.lt_iff {m n : ℕ} {e f : ℤ} (fits : Fits m e) (fits' : Fits n f) :
    (m : ℚ) * 2 ^ e < n * 2 ^ f ↔ e < f ∨ e = f ∧ m < n := by
  refine ⟨fun less => ?_, fits.lt fits'⟩
  by_contra order
  rcases lt_trichotomy (toLex (e, m)) (toLex (f, n)) with before | same | after
  · exact order (Prod.Lex.toLex_lt_toLex.mp before)
  · cases toLex_inj.mp same
    exact less.ne rfl
  · exact less.not_gt (fits'.lt fits (Prod.Lex.toLex_lt_toLex.mp after))

theorem Fits.eq_iff {m n : ℕ} {e f : ℤ} (fits : Fits m e) (fits' : Fits n f) :
    (m : ℚ) * 2 ^ e = n * 2 ^ f ↔ e = f ∧ m = n := by
  constructor
  · intro same
    have before := (fits.lt_iff fits').not.mp same.not_lt
    have after := (fits'.lt_iff fits).not.mp same.not_gt
    omega
  · rintro ⟨rfl, rfl⟩
    rfl

theorem Worth.lt_iff (left : Worth u p) (right : Worth v q) : u.lt v = true ↔ p < q := by
  rw [unpacked_lt_iff]
  cases left with
  | zero =>
    cases right with
    | zero => simp [place?]
    | @finite n f pos fits =>
      have above : (0 : ℚ) < n * 2 ^ f := by positivity
      simp [place?, Prod.Lex.toLex_lt_toLex, above]
  | @finite m e pos fits =>
    cases right with
    | zero =>
      have above : ¬(m : ℚ) * 2 ^ e < 0 := by
        rw [not_lt]
        positivity
      simp [place?, Prod.Lex.toLex_lt_toLex, above]
    | @finite n f pos' fits' =>
      rw [fits.lt_iff fits']
      simp [place?, Prod.Lex.toLex_lt_toLex]

theorem Worth.le_iff (left : Worth u p) (right : Worth v q) : u.le v = true ↔ p ≤ q := by
  cases left with
  | zero => exact iff_of_true (by cases right <;> rfl) right.nonneg
  | @finite m e pos fits =>
    cases right with
    | zero => exact iff_of_false Bool.false_ne_true (by rw [not_le]; positivity)
    | @finite n f pos' fits' =>
      rw [← not_lt, fits'.lt_iff fits, eq_comm (a := f), ← then_eq_gt]
      exact Ordering.isLE_iff_ne_gt

theorem Worth.beq_iff (left : Worth u p) (right : Worth v q) : u.beq v = true ↔ p = q := by
  cases left with
  | zero =>
    cases right with
    | zero => exact iff_of_true rfl rfl
    | finite => exact iff_of_false Bool.false_ne_true (by positivity)
  | @finite m e pos fits =>
    cases right with
    | zero => exact iff_of_false Bool.false_ne_true (by positivity)
    | @finite n f pos' fits' =>
      rw [fits.eq_iff fits']
      simp [UnpackedFloat.beq, UnpackedFloat.compare, Ordering.then_eq_eq]

/-! ### Arithmetic -/

theorem rounded_exact {m : ℕ} {e : ℤ} (dense : 52 ≤ m.log2 ∨ e ≤ -1074) :
    Rounded (Float.Model.pack (roundWithAccuracy .binary64 .positive m e .exact)).unpack
      (m * 2 ^ e) := by
  obtain ⟨r, worth, rounds⟩ := worth_rounded (truncates_exact m) dense
  exact worth.rounded rounds

theorem rounded_mul (left : Worth u p) (right : Worth v q) :
    Rounded (Float.Model.pack (mul .binary64 u v)).unpack (p * q) := by
  cases left with
  | zero =>
    rw [zero_mul]
    cases right <;> exact Worth.zero.packed
  | @finite m e pos fits =>
    cases right with
    | zero =>
      rw [mul_zero]
      exact Worth.zero.packed
    | @finite n f pos' fits' =>
      have product : (m : ℚ) * 2 ^ e * (n * 2 ^ f) = (m * n : ℕ) * 2 ^ (e + f) := by
        rw [zpow_add₀ two_ne_zero]
        push_cast
        ring
      have bits := log2_mul pos pos'
      rw [product]
      refine rounded_exact ?_
      rcases fits.full with full | low
      · have := (Nat.le_log2 pos.ne').mpr full
        omega
      · rcases fits'.full with full | low'
        · have := (Nat.le_log2 pos'.ne').mpr full
          omega
        · omega

/-- The value stays when the exponent is lowered. -/
theorem lowered {m : ℕ} {e t : ℤ} (le : t ≤ e) :
    ((m <<< (e - t).toNat : ℕ) : ℚ) * 2 ^ t = m * 2 ^ e := by
  have split : e = (e - t).toNat + t := by omega
  conv_rhs => rw [split, zpow_add₀ two_ne_zero, zpow_natCast]
  rw [Nat.shiftLeft_eq]
  push_cast
  ring

/-- A quotient has all the bits of a double before it is rounded. -/
theorem quotient_dense {m n : ℕ} (e f : ℤ) (pos : 0 < m) (pos' : 0 < n) :
    let target :=
      min (e - f) (Format.binary64.targetExponent (totalExponent m e - totalExponent n f))
    52 ≤ (m <<< (e - f - target).toNat / n).log2 ∨ target ≤ -1074 := by
  simp only [target_eq, totalExponent]
  generalize reached : min (e - f) _ = target
  rcases le_or_gt target (-1074) with low | high
  · exact .inr low
  refine .inl ?_
  obtain ⟨shift, wide⟩ : ∃ shift : ℕ, (e - f - target).toNat = shift ∧
      n.log2 + 53 ≤ m.log2 + shift := ⟨_, rfl, by omega⟩
  rw [wide.1, Nat.shiftLeft_eq]
  have bits : 2 ^ 52 * n ≤ m * 2 ^ shift :=
    calc 2 ^ 52 * n ≤ 2 ^ 52 * 2 ^ (n.log2 + 1) :=
          Nat.mul_le_mul_left _ ((Nat.log2_lt pos'.ne').mp (Nat.lt_succ_self _)).le
      _ = 2 ^ (n.log2 + 53) := by rw [← pow_add, Nat.add_comm]
      _ ≤ 2 ^ (m.log2 + shift) := Nat.pow_le_pow_right two_pos wide.2
      _ = 2 ^ m.log2 * 2 ^ shift := pow_add ..
      _ ≤ m * 2 ^ shift := Nat.mul_le_mul_right _ (Nat.log2_self_le pos.ne')
  have least := (Nat.le_div_iff_mul_le pos').mpr bits
  exact (Nat.le_log2 (by omega)).mpr least

theorem rounded_div (left : Worth u p) (right : Worth v q) (positive : 0 < q) :
    Rounded (Float.Model.pack (UnpackedFloat.div .binary64 u v)).unpack (p / q) := by
  cases right with
  | zero => exact absurd rfl positive.ne
  | @finite n f pos' fits' =>
    cases left with
    | zero =>
      rw [zero_div]
      exact Worth.zero.packed
    | @finite m e pos fits =>
      have dense := quotient_dense e f pos pos'
      simp only [UnpackedFloat.div, divCore]
      have le := min_le_left (e - f)
        (Format.binary64.targetExponent (totalExponent m e - totalExponent n f))
      generalize min (e - f) _ = target at *
      have value : (m : ℚ) * 2 ^ e / (n * 2 ^ f) =
          (m <<< (e - f - target).toNat : ℕ) / n * 2 ^ target := by
        rw [div_mul_eq_mul_div, lowered le, zpow_sub₀ two_ne_zero]
        field_simp
      obtain ⟨r, worth, rounds⟩ :=
        worth_rounded (truncates_div (m <<< (e - f - target).toNat) pos') dense
      rw [value]
      exact worth.rounded rounds

/-- Lowered to the exponent that a double of this magnitude has, a number has all its bits. -/
theorem decreased {m : ℕ} (e : ℤ) (pos : 0 < m) :
    let number := decreaseExponent m e (Format.binary64.targetExponent (totalExponent m e))
    0 < number.1 ∧ number.1.log2 + number.2 = m.log2 + e ∧
      (number.1 : ℚ) * 2 ^ number.2 = m * 2 ^ e ∧ (52 ≤ number.1.log2 ∨ number.2 ≤ -1074) := by
  simp only [decreaseExponent, target_of_number]
  have value := lowered (m := m) (e := e) (t := e - (e - max (m.log2 + e - 52) (-1074)).toNat)
    (by omega)
  rw [sub_sub_cancel, Int.toNat_natCast] at value
  rw [log2_shiftLeft pos]
  refine ⟨by rw [Nat.shiftLeft_eq]; positivity, by omega, value, by omega⟩

theorem rounded_normalize (m : ℕ) (e : ℤ) :
    Rounded (Float.Model.pack (UnpackedFloat.normalize .binary64 m e .positive)).unpack
      (m * 2 ^ e) := by
  rcases m.eq_zero_or_pos with rfl | pos
  · rw [Nat.cast_zero, Nat.cast_zero, zero_mul]
    exact Worth.zero.packed
  · have positive : compare (m : ℤ) 0 = .gt := Int.compare_eq_gt.mpr (by omega)
    obtain ⟨_, _, value, dense⟩ := decreased e pos
    rw [← value]
    simp only [UnpackedFloat.normalize, positive, Int.toNat_natCast, UnpackedFloat.round]
    exact rounded_exact dense

theorem rounded_add (left : Worth u p) (right : Worth v q) :
    Rounded (Float.Model.pack (add .binary64 u v)).unpack (p + q) := by
  cases left with
  | zero =>
    rw [zero_add]
    cases right with
    | zero => exact Worth.zero.packed
    | finite pos fits => exact (Worth.finite pos fits).packed
  | @finite m e pos fits =>
    cases right with
    | zero =>
      rw [add_zero]
      exact (Worth.finite pos fits).packed
    | @finite n f pos' fits' =>
      have sum := rounded_normalize
        (m <<< (e - min e f).toNat + n <<< (f - min e f).toNat) (min e f)
      rw [Nat.cast_add, Nat.cast_add, add_mul, lowered (min_le_left e f),
        lowered (min_le_right e f)] at sum
      exact sum

theorem rounded_sub (left : Worth u p) (right : Worth v q) (le : q ≤ p) :
    Rounded (Float.Model.pack (sub .binary64 u v)).unpack (p - q) := by
  cases right with
  | zero =>
    rw [sub_zero]
    cases left with
    | zero => exact Worth.zero.packed
    | finite pos fits => exact (Worth.finite pos fits).packed
  | @finite n f pos' fits' =>
    cases left with
    | zero => exact absurd le (by rw [not_le]; positivity)
    | @finite m e pos fits =>
      have order : n <<< (f - min e f).toNat ≤ m <<< (e - min e f).toNat := by
        rw [← lowered (min_le_left e f), ← lowered (min_le_right e f)] at le
        exact_mod_cast le_of_mul_le_mul_right le (by positivity)
      have difference := rounded_normalize
        (m <<< (e - min e f).toNat - n <<< (f - min e f).toNat) (min e f)
      rw [Nat.cast_sub order, Nat.cast_sub order, sub_mul, lowered (min_le_left e f),
        lowered (min_le_right e f)] at difference
      exact difference

theorem normalize_negative {m : ℕ} {e : ℤ} (pos : 0 < m) (above : -1074 ≤ e) :
    ∃ m' e' pos', UnpackedFloat.normalize .binary64 (-m) e .positive =
      .finite .negative m' e' pos' ∧ Fits m' e' := by
  have negative : compare (-m : ℤ) 0 = .lt := Int.compare_eq_lt.mpr (by omega)
  obtain ⟨positive, reach, _, dense⟩ := decreased e pos
  simp only [UnpackedFloat.normalize, negative, neg_neg, Int.toNat_natCast, UnpackedFloat.round]
  obtain ⟨m', e', pos', same, fits, _⟩ := rounded .negative .exact positive (by omega) dense
  exact ⟨m', e', pos', same, fits⟩

theorem sub_negative (left : Worth u p) (right : Worth v q) (less : p < q) :
    ∃ m e pos, UnpackedFloat.sub .binary64 u v = .finite .negative m e pos ∧ Fits m e := by
  cases right with
  | zero => exact absurd less left.nonneg.not_gt
  | @finite n f pos' fits' =>
    cases left with
    | zero => exact ⟨n, f, pos', rfl, fits'⟩
    | @finite m e pos fits =>
      have order : m <<< (e - min e f).toNat < n <<< (f - min e f).toNat := by
        rw [← lowered (min_le_left e f), ← lowered (min_le_right e f)] at less
        exact_mod_cast lt_of_mul_lt_mul_right less (by positivity)
      have negative := normalize_negative (Nat.sub_pos_of_lt order)
        (le_min fits.above fits'.above)
      rw [Nat.cast_sub order.le, neg_sub] at negative
      exact negative

/-! ### Doubles -/

theorem eq_of_unpack (same : x.toModel.unpack = y.toModel.unpack) : x = y := by
  have bits := (unpack_inj_of_valid x.toModel.valid y.toModel.valid (by decide)).mp same
  exact Float.toBits_inj.mp (UInt64.toBitVec_inj.mp bits)

/-- A double is given back if its own number is packed. -/
theorem eq_of_packed (packed : y.toModel.unpack = (Float.Model.pack u).unpack)
    (same : u = x.toModel.unpack) : y = x := by
  subst same
  exact eq_of_unpack (packed.trans
    (congrArg (UnpackedFloat.unpack .binary64) (pack_unpack_of_valid x.toModel.valid (by decide))))

theorem holds_of_unpack {m : ℕ} {e : ℤ} {pos : 0 < m}
    (unpacked : x.toModel.unpack = .finite .positive m e pos) : Holds x (m * 2 ^ e) := by
  rw [Holds, unpacked]
  exact .finite pos (fits_of_unpack unpacked)

theorem holds_zero : Holds 0.0 0 := Worth.zero

theorem holds_one : Holds 1.0 1 := by
  have value : ((2 ^ 52 : ℕ) : ℚ) * 2 ^ (-52 : ℤ) = 1 := by norm_num
  exact value ▸ holds_of_unpack unpack_one

namespace Holds

theorem nonneg (holds : Holds x q) : 0 ≤ q := Worth.nonneg holds

theorem onGrid (holds : Holds x q) : OnGrid q := Worth.onGrid holds

theorem lt_iff (left : Holds x p) (right : Holds y q) : Amount.lt x y = true ↔ p < q := by
  rw [lt_eq]
  exact Worth.lt_iff left right

theorem le_iff (left : Holds x p) (right : Holds y q) : Amount.le x y = true ↔ p ≤ q := by
  rw [le_eq]
  exact Worth.le_iff left right

theorem inj (left : Holds x q) (right : Holds y q) : x = y := by
  refine eq_of_unpack ?_
  unfold Holds at left right
  generalize x.toModel.unpack = u at left
  generalize y.toModel.unpack = v at right
  generalize same : q = q' at right
  cases left with
  | zero =>
    cases right with
    | zero => rfl
    | finite => exact absurd same (by positivity)
  | @finite m e pos fits =>
    cases right with
    | zero => exact absurd same (by positivity)
    | @finite n f pos' fits' =>
      obtain ⟨rfl, rfl⟩ := (fits.eq_iff fits').mp same
      rfl

theorem eq_iff (left : Holds x p) (right : Holds y q) : Amount.eq x y = true ↔ p = q :=
  Worth.beq_iff left right

theorem add (left : Holds x p) (right : Holds y q) : Rounded (x + y).toModel.unpack (p + q) :=
  rounded_add left right

theorem sub (left : Holds x p) (right : Holds y q) (le : q ≤ p) :
    Rounded (x - y).toModel.unpack (p - q) := rounded_sub left right le

theorem mul (left : Holds x p) (right : Holds y q) : Rounded (x * y).toModel.unpack (p * q) :=
  rounded_mul left right

theorem div (left : Holds x p) (right : Holds y q) (positive : 0 < q) :
    Rounded (x / y).toModel.unpack (p / q) := rounded_div left right positive

theorem add_zero_eq (holds : Holds x q) : x + 0.0 = x := eq_of_packed rfl (Worth.add_zero holds)

theorem zero_add_eq (holds : Holds x q) : 0.0 + x = x := eq_of_packed rfl (Worth.zero_add holds)

theorem sub_zero_eq (holds : Holds x q) : x - 0.0 = x := eq_of_packed rfl (Worth.sub_zero holds)

theorem abs_eq (holds : Holds x q) : Amount.abs x = x := eq_of_packed rfl (Worth.abs holds)

theorem mul_one_eq (holds : Holds x q) (le : q ≤ 2 ^ (1023 : ℤ)) : x * 1.0 = x := by
  have product := holds.mul holds_one
  rw [mul_one] at product
  exact inj (product.exact holds.onGrid le) holds

theorem div_one_eq (holds : Holds x q) (le : q ≤ 2 ^ (1023 : ℤ)) : x / 1.0 = x := by
  have quotient := holds.div holds_one one_pos
  rw [div_one] at quotient
  exact inj (quotient.exact holds.onGrid le) holds

/-- A larger double leaves less than nothing. -/
theorem sub_lt_zero (left : Holds x p) (right : Holds y q) (less : p < q) : x - y < 0.0 := by
  obtain ⟨m, e, pos, same, fits⟩ := sub_negative left right less
  refine of_decide_eq_true ((lt_eq _ _).trans ?_)
  change (Float.Model.pack (UnpackedFloat.sub .binary64 _ _)).unpack.lt _ = true
  rw [same]
  rcases Double.unpack_pack .negative pos fits with near | far
  · exact congrArg (UnpackedFloat.lt · (.zero .positive)) near
  · exact congrArg (UnpackedFloat.lt · (.zero .positive)) far

theorem larger_zero (holds : Holds x q) : Amount.larger x 0.0 = x := by
  have order : ¬x < 0.0 := by
    intro less
    exact ((lt_iff holds holds_zero).mp (decide_eq_true less)).not_ge holds.nonneg
  have number : x.isNaN = false := Worth.not_isNaN holds
  have zero : (0.0 : Float).isNaN = false := rfl
  rw [larger_eq, number, zero, if_neg Bool.false_ne_true, if_neg Bool.false_ne_true, if_neg order]

end Holds

theorem larger_of_negative (negative : x < 0.0) : Amount.larger x 0.0 = 0.0 := by
  have zero : (0.0 : Float).isNaN = false := rfl
  rw [larger_eq, zero, if_neg Bool.false_ne_true, if_pos negative, ite_self]

/-! ### Whole numbers -/

theorem onGrid_nat {n : ℕ} (short : n ≤ 2 ^ 53) : OnGrid n :=
  ⟨n, 0, short, by decide, by norm_num⟩

theorem le_range (le : q ≤ 2 ^ 54) : q ≤ 2 ^ (1023 : ℤ) :=
  calc q ≤ 2 ^ (54 : ℤ) := by exact_mod_cast le
    _ ≤ 2 ^ (1023 : ℤ) := zpow_le_zpow_right₀ one_le_two (by decide)

theorem nat_le {n : ℕ} (short : n ≤ 2 ^ 53) : (n : ℚ) ≤ 2 ^ (1023 : ℤ) := by
  have le : (n : ℚ) ≤ 2 ^ 53 := by exact_mod_cast short
  exact le_range (by linarith)

theorem holds_toFloat {n : ℕ} (short : n < 2 ^ 53) : Holds n.toUInt64.toFloat n := by
  have same : n.toUInt64.toNat = n := by
    change n % 2 ^ 64 = n
    omega
  have value : (n.toUInt64.toNat : ℚ) * 2 ^ (0 : ℤ) = n := by rw [same, zpow_zero, mul_one]
  have normal := rounded_normalize n.toUInt64.toNat 0
  rw [value] at normal
  exact normal.exact (onGrid_nat short.le) (nat_le short.le)

/-- A whole number that doubles can tell from its neighbours is held as it is. -/
theorem holds_ofScientific {n : ℕ} (short : n ≤ 2 ^ 53) :
    Holds (Float.ofScientific n false 0) n := by
  unfold Float.ofScientific
  split
  · rename_i small
    have power : Holds Float.exactlyRepresentablePowersOfTen[0] 1 := holds_one
    have product := (holds_toFloat small.1).mul power
    rw [mul_one] at product
    exact product.exact (onGrid_nat short) (nat_le short)
  · obtain rfl : n = 2 ^ 53 := by omega
    have unpacked : (Float.ofModel (.ofScientific (2 ^ 53) 0)).toModel.unpack =
        .finite .positive (2 ^ 52) 1 (by decide) := rfl
    have value : ((2 ^ 52 : ℕ) : ℚ) * 2 ^ (1 : ℤ) = (2 ^ 53 : ℕ) := by norm_num
    exact value ▸ holds_of_unpack unpacked

theorem ofScientific_one : Float.ofScientific 1 false 0 = 1.0 :=
  (holds_ofScientific (by decide)).inj (by rw [Nat.cast_one]; exact holds_one)

theorem ofScientific_zero : Float.ofScientific 0 false 0 = 0.0 :=
  (holds_ofScientific (by decide)).inj (by rw [Nat.cast_zero]; exact holds_zero)

/-! ### Rounding to whole numbers -/

section Whole

variable {pick : Nat → Nat → Nat → Nat} {m n : ℕ} {e : ℤ} {pos : 0 < m}

theorem roundWith_whole (unpacked : x.toModel.unpack = .finite .positive m e pos) (whole : 0 ≤ e) :
    roundWith pick x = x := by
  simp only [roundWith, parts_ofBits unpacked]
  rw [if_pos]
  rw [decide_eq_true whole, Bool.or_true]

theorem roundWith_fraction (unpacked : x.toModel.unpack = .finite .positive m e pos)
    (fraction : e < 0) :
    let divisor := 2 ^ (-e).toNat
    roundWith pick x =
      Float.ofScientific (pick (m / divisor) (m % divisor) divisor) false 0 := by
  have bounded : x.isFinite = true := congrArg UnpackedFloat.isFinite unpacked
  simp only [roundWith, parts_ofBits unpacked, bounded, isNegative_of_positive unpacked]
  rw [if_neg (by simpa using fraction)]
  rfl

theorem roundWith_nat (holds : Holds x n) (above : 0 < n) (short : n ≤ 2 ^ 53)
    (keeps : ∀ divisor, 0 < divisor → pick n 0 divisor = n) : roundWith pick x = x := by
  have positive : (0 : ℚ) < n := by exact_mod_cast above
  generalize value : (n : ℚ) = q at holds positive
  unfold Holds at holds
  generalize unpacked : x.toModel.unpack = u at holds
  cases holds with
  | zero => exact absurd rfl positive.ne
  | @finite m e pos fits =>
    rcases le_or_gt 0 e with whole | fraction
    · exact roundWith_whole unpacked whole
    · have scaled : m = n * 2 ^ (-e).toNat := by
        have split : -e = (-e).toNat := by omega
        have shift : (n : ℚ) * 2 ^ (-e).toNat = m := by
          rw [← zpow_natCast, ← split, value, mul_assoc, ← zpow_add₀ two_ne_zero,
            add_neg_cancel, zpow_zero, mul_one]
        exact_mod_cast shift.symm
      rw [roundWith_fraction unpacked fraction, scaled, Nat.mul_div_cancel _ (Nat.two_pow_pos _),
        Nat.mul_mod_left, keeps _ (Nat.two_pow_pos _)]
      refine (holds_ofScientific short).inj ?_
      rw [Holds, unpacked, value]
      exact .finite pos fits

theorem ceil_nat (holds : Holds x n) (above : 0 < n) (short : n ≤ 2 ^ 53)
    (unit : MeasureUnit Float) : (Quantity.ceil ⟨x, unit⟩).value = x := by
  rcases value_ceil ⟨x, unit⟩ with near | up
  · rw [near]
    exact roundWith_nat holds above short fun divisor pos => if_neg (by omega)
  · rw [up]
    exact roundWith_nat holds above short fun divisor pos => by simp

end Whole

end MeteredBilling.Double
