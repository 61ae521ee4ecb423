import MeteredBilling.Proofs.DoubleValues
import MeteredBilling.Proofs.FallingTotals

/-!
# The round trip through billing units

A total is billed in units of a factor, and the bill is taken back to the metric when the total is
observed again. What two roundings have lost by then is relative to the total, and the slack that
absorbs it is not: a loss past the slack is billed once more, as a whole unit.
-/

namespace MeteredBilling

open Float.Model Float.Model.UnpackedFloat

namespace Double

variable {x y f : Float} {p q φ : ℚ} {n : ℕ}

/-! ### Slack -/

theorem holds_slack : ∃ s, Holds Amount.slack s ∧ 2 ^ (-30 : ℤ) < s ∧ s < 1 / 2 := by
  have unpacked : (Amount.slack : Float).toModel.unpack =
      .finite .positive 4835703278458517 (-82) (by decide) := by
    rfl
  exact ⟨_, holds_of_unpack unpacked, by norm_num, by norm_num⟩

theorem fraction_cases {m : ℕ} {e : ℤ} {pos : 0 < m}
    (unpacked : x.toModel.unpack = .finite .positive m e pos) (less : (m : ℚ) * 2 ^ e < 1) :
    Amount.ceiling x = 1.0 ∧
      Amount.nearest x = if 1 / 2 ≤ (m : ℚ) * 2 ^ e then 1.0 else 0.0 := by
  have least : (1 : ℚ) ≤ m := by exact_mod_cast pos
  have fraction : e < 0 := by
    by_contra whole
    have unit : (1 : ℚ) ≤ 2 ^ e := one_le_zpow₀ one_le_two (not_lt.mp whole)
    exact less.not_ge (one_le_mul_of_one_le_of_one_le least unit)
  obtain ⟨k, rfl⟩ : ∃ k : ℕ, e = -k := ⟨(-e).toNat, by omega⟩
  have scale : (0 : ℚ) < 2 ^ k := by positivity
  rw [zpow_neg, zpow_natCast, ← div_eq_mul_inv] at less ⊢
  have short : m < 2 ^ k := by exact_mod_cast (div_lt_one scale).mp less
  have half : 2 ^ k ≤ 2 * m ↔ 1 / 2 ≤ (m : ℚ) / 2 ^ k := by
    rw [div_le_div_iff₀ two_pos scale, one_mul, mul_comm (m : ℚ)]
    exact_mod_cast Iff.rfl
  change ceiling x = _ ∧ nearest x = _
  rw [ceiling, nearest, roundWith_fraction unpacked fraction, roundWith_fraction unpacked fraction,
    neg_neg, Int.toNat_natCast, Nat.div_eq_of_lt short, Nat.mod_eq_of_lt short,
    isNegative_of_positive unpacked]
  constructor
  · rw [if_pos (by simpa using pos.ne'), ofScientific_one]
  · by_cases up : 2 ^ k ≤ 2 * m
    · rw [if_pos up, if_pos (half.mp up), ofScientific_one]
    · rw [if_neg up, if_neg (half.not.mp up), ofScientific_zero]

/-- What is left of a unit counts as one, unless it is within the slack. -/
theorem ceil_fraction (holds : Holds x q) (le : q ≤ 1) (unit : MeasureUnit Float) :
    (Quantity.ceil ⟨x, unit⟩).value = if Amount.lt x Amount.slack then 0.0 else 1.0 := by
  obtain ⟨s, slack, above, half⟩ := holds_slack
  have order := holds.lt_iff slack
  have worth : Worth x.toModel.unpack q := holds
  generalize unpacked : x.toModel.unpack = u at worth
  cases worth with
  | zero =>
    obtain rfl := holds.inj holds_zero
    have positive : (0 : ℚ) < 2 ^ (-30 : ℤ) := by norm_num
    have whole : nearest 0.0 = 0.0 ∧ ceiling 0.0 = 0.0 := by decide +kernel
    rw [if_pos (order.mpr (positive.trans above))]
    rcases value_ceil ⟨0.0, unit⟩ with value | value
    · exact value.trans whole.1
    · exact value.trans whole.2
  | @finite m e pos fits =>
    rcases le.lt_or_eq with less | same
    · obtain ⟨up, near⟩ := fraction_cases unpacked less
      by_cases most : 1 / 2 ≤ (m : ℚ) * 2 ^ e
      · rw [if_pos most] at near
        rw [if_neg (order.not.mpr (half.trans_le most).not_gt)]
        rcases value_ceil ⟨x, unit⟩ with value | value
        · exact value.trans near
        · exact value.trans up
      · rw [if_neg most] at near
        simp only [Quantity.ceil, near, up, holds.sub_zero_eq, holds.abs_eq]
        split <;> rfl
    · rw [same, ← Nat.cast_one] at holds
      rw [ceil_nat holds one_pos (by decide), if_neg (order.not.mpr (by rw [same]; linarith))]
      exact holds.inj (by rw [Nat.cast_one]; exact holds_one)

/-! ### Two roundings -/

/-- The least double with all the bits of precision. -/
def leastNormal : Float := Float.ofBits 0x0010000000000000

theorem holds_leastNormal : Holds leastNormal (2 ^ (-1022 : ℤ)) := by
  have unpacked : leastNormal.toModel.unpack = .finite .positive (2 ^ 52) (-1074) (by decide) := rfl
  have value : (2 : ℚ) ^ (-1022 : ℤ) = (2 ^ 52 : ℕ) * 2 ^ (-1074 : ℤ) := by
    rw [RoundsAt.carry]
    rfl
  rw [value]
  exact holds_of_unpack unpacked

/-- A product of a whole number that is divided again falls short of the number by the error of one
rounding, taken down to the next double. -/
theorem round_trip (number : Holds x n) (factor : Holds f φ) (above : 0 < φ) (short : n ≤ 2 ^ 53)
    (finite : (x * f).isFinite = true) (normal : leastNormal ≤ x * f) :
    0 < n ∧ ∃ p ρ, Holds (x * f) p ∧ Holds (x * f / f) ρ ∧ ρ ≤ 2 ^ (1023 : ℤ) ∧
      ∀ j : ℕ, j ≤ 1074 → n * 2 ^ j ≤ 2 ^ 53 → n - 2 ^ (-j : ℤ) ≤ ρ := by
  obtain ⟨p, rounds, product⟩ : ∃ p, Rounds (n * φ) p ∧ Holds (x * f) p :=
    (number.mul factor).of_finite finite
  have least := (holds_leastNormal.le_iff product).mp (decide_eq_true normal)
  have some : 0 < n := by
    by_contra none
    have nothing : (n : ℚ) * φ ≤ 0 := by rw [Nat.eq_zero_of_not_pos none, Nat.cast_zero, zero_mul]
    have unit : (0 : ℚ) < 2 ^ (-1022 : ℤ) := by positivity
    exact (unit.trans_le least).not_ge (rounds.le_grid holds_zero.onGrid nothing)
  obtain ⟨below, upper⟩ := abs_le.mp (rounds.near_of_normal least)
  -- the error of the product is relative to it, so the quotient has it relative to the number
  have low : (n : ℚ) - n / 2 ^ 53 ≤ p / φ := by
    rw [le_div_iff₀ above, sub_mul, div_mul_eq_mul_div]
    linarith [product.nonneg]
  have high : p / φ ≤ 2 * n := by
    rw [div_le_iff₀ above, mul_assoc]
    linarith [product.nonneg]
  have wide : p / φ ≤ 2 ^ (1023 : ℤ) := by
    have le : (n : ℚ) ≤ 2 ^ 53 := by exact_mod_cast short
    exact le_range (by linarith)
  obtain ⟨ρ, back, quotient⟩ := (product.div factor above).of_le wide
  have range := back.le_grid (onGrid_pow (by decide)) wide
  refine ⟨some, p, ρ, product, quotient, range, fun j small scaled => ?_⟩
  -- the number less that power of two is a double, which the second rounding does not cross
  refine back.grid_le ?_ (le_trans ?_ low)
  · have whole : 1 ≤ n * 2 ^ j := Nat.mul_pos some (Nat.two_pow_pos j)
    refine ⟨n * 2 ^ j - 1, -j, by omega, by omega, ?_⟩
    rw [Nat.cast_sub whole, zpow_neg, zpow_natCast]
    push_cast
    field_simp
  · have fine : (n : ℚ) / 2 ^ 53 ≤ 2 ^ (-j : ℤ) := by
      rw [zpow_neg, zpow_natCast, div_le_iff₀ (by positivity), inv_mul_eq_div,
        le_div_iff₀ (by positivity)]
      exact_mod_cast scaled
    linarith

variable {ρ : ℚ} {j : ℕ}

/-- What is lost on the way is less than nothing, or no more than a power of two. -/
theorem lost_cases (number : Holds x n) (back : Holds y ρ) (short : n ≤ 2 ^ 53) (small : j ≤ 1074)
    (near : n - 2 ^ (-j : ℤ) ≤ ρ) :
    x - y < 0.0 ∨ ∃ l, Holds (x - y) l ∧ l ≤ 2 ^ (-j : ℤ) := by
  rcases lt_or_ge (n : ℚ) ρ with past | within
  · exact .inl (number.sub_lt_zero back past)
  · have range : (n : ℚ) - ρ ≤ 2 ^ (1023 : ℤ) :=
      (sub_le_self _ back.nonneg).trans (nat_le short)
    obtain ⟨l, rounds, lost⟩ := (number.sub back within).of_le range
    exact .inr ⟨l, lost, rounds.le_grid (onGrid_pow (by omega)) (by linarith)⟩

theorem zero_lt_slack : (0.0 : Float) < 1e-9 := by decide +kernel

theorem not_lt_add_slack (number : Holds x n) (short : n ≤ 2 ^ 53) :
    Amount.lt (x + Amount.slack) x = false := by
  obtain ⟨s, slack, _, half⟩ := holds_slack
  have above := slack.nonneg
  have range : (n : ℚ) + s ≤ 2 ^ (1023 : ℤ) := by
    have le : (n : ℚ) ≤ 2 ^ 53 := by exact_mod_cast short
    exact le_range (by linarith)
  obtain ⟨r, rounds, sum⟩ : ∃ r, Rounds (n + s) r ∧ Holds (x + Amount.slack) r :=
    (number.add slack).of_le range
  have le := rounds.grid_le (onGrid_nat short) (by linarith)
  rw [← Bool.not_eq_true, sum.lt_iff number]
  exact le.not_gt

/-- Unless it is within the slack, what is lost of a unit or less counts as one. -/
theorem ceil_lost (number : Holds x n) (back : Holds y ρ) (short : n ≤ 2 ^ 53)
    (near : n - 1 ≤ ρ) (unit : MeasureUnit Float) :
    (Quantity.ceil ⟨Amount.larger (x - y) 0.0, unit⟩).value =
      if x - y < 1e-9 then 0.0 else 1.0 := by
  rcases lost_cases (j := 0) number back short (Nat.zero_le _) (by simpa using near) with
    negative | ⟨l, lost, le⟩
  · have nothing := ceil_fraction holds_zero zero_le_one unit
    rw [larger_of_negative negative, if_pos (lt_trans negative zero_lt_slack), nothing]
    exact if_pos (decide_eq_true zero_lt_slack)
  · rw [lost.larger_zero, ceil_fraction lost (by simpa using le)]
    exact if_congr decide_eq_true_iff rfl rfl

theorem lost_lt_slack (number : Holds x n) (back : Holds y ρ) (short : n ≤ 2 ^ 53)
    (near : n - 2 ^ (-30 : ℤ) ≤ ρ) : x - y < 1e-9 := by
  obtain ⟨s, slack, above, _⟩ := holds_slack
  rcases lost_cases (j := 30) number back short (by decide) near with negative | ⟨l, lost, le⟩
  · exact lt_trans negative zero_lt_slack
  · exact of_decide_eq_true ((lost.lt_iff slack).mpr (le.trans_lt above))

end Double

/-! ### The bill of a whole number -/

open Double

namespace Calculation

variable {x : Float} {q φ : ℚ} {n : ℕ} {unit : MeasureUnit Float}

theorem past_eq (number : Holds x q) (unit : MeasureUnit Float) :
    past x unit none = ⟨x, .metric⟩ := by
  have uncovered : ((covered unit none).converted .metric).value = 0.0 :=
    if_pos ((holds_one.eq_iff holds_one).mpr rfl)
  rw [past, Quantity.positiveOrZero, uncovered, number.sub_zero_eq]
  exact congrArg (Quantity.mk · .metric) number.larger_zero

theorem converted_own {r : Float} {id id' : Option String} (factor : Holds unit.factor φ) :
    (Quantity.converted ⟨r, ⟨id, unit.factor⟩⟩ ⟨id', unit.factor⟩).value = r :=
  if_pos ((factor.eq_iff factor).mpr rfl)

theorem converted_bill (number : Holds x n) (short : n ≤ 2 ^ 53) (factor : Holds unit.factor φ) :
    (Quantity.converted ⟨x, .metric⟩ unit).value = x * unit.factor := by
  change (if Amount.eq 1.0 unit.factor then x else x / 1.0 * unit.factor) = _
  rw [number.div_one_eq (nat_le short)]
  -- a factor of one is not applied, which comes to the same
  split
  · rename_i same
    obtain rfl := (holds_one.eq_iff factor).mp same
    rw [factor.inj holds_one, number.mul_one_eq (nat_le short)]
  · rfl

theorem converted_back {id : Option String} {ρ : ℚ} (number : Holds x n) (short : n ≤ 2 ^ 53)
    (factor : Holds unit.factor φ) (back : Holds (x * unit.factor / unit.factor) ρ)
    (range : ρ ≤ 2 ^ (1023 : ℤ)) :
    (Quantity.converted ⟨x * unit.factor, ⟨id, unit.factor⟩⟩ .metric).value =
      x * unit.factor / unit.factor := by
  change (if Amount.eq unit.factor 1.0 then x * unit.factor
    else x * unit.factor / unit.factor * 1.0) = _
  rw [back.mul_one_eq range]
  split
  · rename_i same
    obtain rfl := (factor.eq_iff holds_one).mp same
    rw [factor.inj holds_one, number.mul_one_eq (nat_le short), number.div_one_eq (nat_le short)]
  · rfl

theorem converted_nothing (id : Option String) (factor : Holds unit.factor φ) (above : 0 < φ) :
    (Quantity.converted ⟨0.0, ⟨id, unit.factor⟩⟩ .metric).value = 0.0 := by
  have range : (0 : ℚ) ≤ 2 ^ (1023 : ℤ) := by positivity
  have quotient := holds_zero.div factor above
  rw [zero_div] at quotient
  have zero : 0.0 / unit.factor = 0.0 :=
    Holds.inj (quotient.exact holds_zero.onGrid range) holds_zero
  change (if Amount.eq unit.factor 1.0 then 0.0 else 0.0 / unit.factor * 1.0) = (0.0 : Float)
  rw [zero, holds_zero.mul_one_eq range, ite_self]

/-- What is due of a total beside a bill and nothing free. -/
theorem due_eq {r : Float} {p : ℚ} (id : Option String) (billed : Holds r p)
    (factor : Holds unit.factor φ) :
    let back := (Quantity.converted ⟨r, ⟨id, unit.factor⟩⟩ .metric).value
    due ⟨x, .metric⟩ ⟨r, ⟨id, unit.factor⟩⟩ ⟨0.0, ⟨id, unit.factor⟩⟩ =
      ⟨(Quantity.ceil ⟨Amount.larger (x - back) 0.0, .metric⟩).value, .metric⟩ := by
  intro back
  have unit := Quantity.ceil_unit ⟨Amount.larger (x - back) 0.0, .metric⟩
  simp only [due, converted_own factor, billed.add_zero_eq]
  exact congrArg (Quantity.mk _) unit

/-- The calculation that bills all of a total. -/
def whole (total : Float) (unit : MeasureUnit Float) : Calculation Float where
  factor := unit.factor
  applicable := total
  consumed := total
  billed := total * unit.factor
  newRemitted := total * unit.factor
  newGratis := 0.0
  gratis := false

theorem compute_first (number : Holds x n) (above : 0 < n) (short : n ≤ 2 ^ 53)
    (factor : Holds unit.factor φ) (positive : 0 < φ) {p : ℚ}
    (product : Holds (x * unit.factor) p) :
    compute x unit none none = .ok (whole x unit) := by
  have ceil := ceil_nat number above short .metric
  have consumed : due ⟨x, .metric⟩ ⟨0.0, unit⟩ ⟨0.0, unit⟩ = ⟨x, .metric⟩ := by
    refine (due_eq unit.metricId holds_zero factor).trans ?_
    rw [converted_nothing _ factor positive, number.sub_zero_eq, number.larger_zero, ceil]
  have bill := converted_bill number short factor
  have again : ((Quantity.converted ⟨x, .metric⟩ unit).converted unit).value = x * unit.factor :=
    (converted_own factor).trans bill
  have nothing : (Quantity.converted ⟨0.0, unit⟩ unit).value = 0.0 := converted_own factor
  rw [compute_eq]
  change Except.ok (settled x unit ⟨0.0, unit⟩ ⟨0.0, unit⟩ none) = _
  simp only [settled, past_eq number, consumed, bill, again, nothing, product.zero_add_eq,
    Option.any_none, Bool.false_eq_true, if_false, Calculation.whole]

/-- An observation of the same number again finds due what two roundings have lost. -/
theorem compute_again (unit : MeasureUnit Float) (row : Remittance Float) (number : Holds x n)
    (short : n ≤ 2 ^ 53) (usable : Amount.isUsableFactor unit.factor = true)
    (factor : Holds unit.factor φ) {p ρ : ℚ}
    (product : Holds (x * unit.factor) p) (back : Holds (x * unit.factor / unit.factor) ρ)
    (near : n - 1 ≤ ρ) (range : ρ ≤ 2 ^ (1023 : ℤ)) (same : row.factor = unit.factor)
    (remitted : row.remitted = x * unit.factor) (free : row.gratis = 0.0)
    (total : row.lastTotal = x) :
    ∃ calculation, compute x unit (some row) none = .ok calculation ∧
      calculation.consumed =
        if x - x * unit.factor / unit.factor < 1e-9 then 0.0 else 1.0 := by
  have follows : Amount.lt (x + Amount.slack) row.lastTotal = false := by
    rw [total]
    exact not_lt_add_slack number short
  have read : accounted x unit (some row) = .ok (⟨x * unit.factor, ⟨unit.metricId, unit.factor⟩⟩,
      ⟨0.0, ⟨unit.metricId, unit.factor⟩⟩) := by
    rw [accounted, follows, same, usable, remitted, free]
    rfl
  refine ⟨_, by rw [compute_eq, read]; rfl, ?_⟩
  change (due (past x unit none) _ _).value = _
  rw [past_eq number, due_eq _ product factor, converted_back number short factor back range]
  exact ceil_lost number back short near _

end Calculation

theorem Double.holds_of_usable {f : Float} (usable : Amount.isUsableFactor f = true) :
    ∃ φ, Holds f φ ∧ 0 < φ := by
  obtain ⟨bounded, positive⟩ := positive_of_usable usable
  rcases positive_cases (decide_eq_true positive) with infinite | ⟨m, e, pos, finite, fits⟩
  · have infinity : f.isFinite = false := congrArg UnpackedFloat.isFinite infinite
    rw [infinity] at bounded
    cases bounded
  · exact ⟨m * 2 ^ e, holds_of_unpack finite, by positivity⟩

theorem MeasureUnit.billing_ok {metricId : String} {factor : Float} {unit : MeasureUnit Float}
    (accepted : billing metricId factor = .ok unit) :
    Amount.isUsableFactor factor = true ∧ unit = ⟨some metricId, factor⟩ := by
  rw [billing] at accepted
  split at accepted
  · rename_i usable
    exact ⟨usable, (Except.ok.inj accepted).symm⟩
  · cases accepted

theorem World.row_first {w : World (Memory Float) Float} {usage : Usage Float}
    {unit : MeasureUnit Float} {calculation : Calculation Float}
    (first : w.storage.rows.get? usage.key = none)
    (computed : Calculation.compute usage.currentTotal unit none none = .ok calculation)
    (advances : calculation.advances = true) :
    (w.after (.observe usage unit none)).storage.rows.get? usage.key =
      some (Decision.nextRow usage none calculation w.now (w.mint (w.minted + 1))) := by
  rw [World.after_observe, Engine.decisionOn_eq, first, computed, Engine.map_ok]
  simp only [advances]
  exact RowTable.get?_put_self ..

/-- The first observation of a key counts a whole number, in a unit whose billing of it neither
overflows nor falls below the normal doubles. Observed again, the total bills nothing if what two
roundings have lost of it is within the slack, as it is up to `2 ^ 23`; one more unit is due if it
is not. -/
theorem replay_within_slack (w : World (Memory Float) Float) (usage : Usage Float) (n : ℕ)
    {metricId : String} {factor : Float} {unit : MeasureUnit Float}
    (accepted : MeasureUnit.billing metricId factor = .ok unit)
    (counted : usage.currentTotal = Float.ofNat n) (short : n ≤ 2 ^ 53)
    (finite : (usage.currentTotal * factor).isFinite = true)
    (normal : leastNormal ≤ usage.currentTotal * factor)
    (first : w.storage.rows.get? usage.key = none) :
    let w' := w.after (.observe usage unit none)
    let lost := usage.currentTotal - usage.currentTotal * factor / factor
    ∃ row calculation, w'.storage.rows.get? usage.key = some row ∧
      Calculation.compute usage.currentTotal unit (some row) none = .ok calculation ∧
      calculation.consumed = (if lost < 1e-9 then 0.0 else 1.0) ∧
      (n ≤ 2 ^ 23 → lost < 1e-9) ∧
      (lost < 1e-9 → ∀ again : Usage Float, again.key = usage.key →
        again.currentTotal = usage.currentTotal → w'.after (.observe again unit none) = w') := by
  intro w' lost
  obtain ⟨usable, rfl⟩ := MeasureUnit.billing_ok accepted
  obtain ⟨φ, held, positive⟩ := holds_of_usable usable
  have number : Holds usage.currentTotal n := by
    rw [counted]
    exact holds_ofScientific short
  obtain ⟨above, p, ρ, product, back, range, near⟩ :=
    round_trip number held positive short finite normal
  have billed : Calculation.compute usage.currentTotal ⟨metricId, factor⟩ none none =
      .ok (.whole usage.currentTotal ⟨metricId, factor⟩) :=
    Calculation.compute_first number above short held positive product
  have advances : Calculation.advances (.whole usage.currentTotal ⟨metricId, factor⟩) = true :=
    (holds_zero.lt_iff number).mpr (by exact_mod_cast above)
  have stored := World.row_first first billed advances
  have unit : (n : ℚ) - 1 ≤ ρ := by simpa using near 0 (Nat.zero_le _) (by simpa using short)
  obtain ⟨calculation, computed, consumed⟩ := Calculation.compute_again ⟨metricId, factor⟩
    (Decision.nextRow usage none (.whole usage.currentTotal ⟨metricId, factor⟩) w.now
      (w.mint (w.minted + 1)))
    number short usable held product back unit range rfl rfl rfl rfl
  refine ⟨_, calculation, stored, computed, consumed, fun few => ?_,
    fun within again sameKey sameTotal => ?_⟩
  · have fine : n * 2 ^ 30 ≤ 2 ^ 53 := by omega
    exact lost_lt_slack number back short (near 30 (by decide) fine)
  · rw [if_pos within] at consumed
    have idle : calculation.advances = false := by
      rw [Calculation.advances, consumed]
      exact not_lt_zero
    rw [World.after_observe, Engine.decisionOn_eq, sameKey, stored, sameTotal, computed,
      Engine.map_ok]
    simp only [idle]
    rfl

theorem replay_within_slack_tenths :
    let usage := hoursCounted 8388607
    let unit : MeasureUnit Float := ⟨some "hours", 0.1⟩
    let w' := noDoubles.withoutRows.after (.observe usage unit none)
    MeasureUnit.billing "hours" (0.1 : Float) = .ok unit ∧
      usage.currentTotal = Float.ofNat 8388607 ∧
      (usage.currentTotal * 0.1).isFinite = true ∧ leastNormal ≤ usage.currentTotal * 0.1 ∧
      w'.storage.rows.rows.length = 1 ∧
      ∀ again : Usage Float, again.key = usage.key → again.currentTotal = usage.currentTotal →
        w'.after (.observe again unit none) = w' := by
  have accepted : MeasureUnit.billing "hours" (0.1 : Float) = .ok ⟨some "hours", 0.1⟩ := by
    rw [MeasureUnit.billing, if_pos (by decide +kernel)]
  have finite : ((hoursCounted 8388607).currentTotal * 0.1).isFinite = true := by decide +kernel
  have normal : leastNormal ≤ (hoursCounted 8388607).currentTotal * 0.1 := by decide +kernel
  obtain ⟨_, _, _, _, _, small, same⟩ := replay_within_slack noDoubles.withoutRows
    (hoursCounted 8388607) 8388607 accepted rfl (by decide) finite normal rfl
  exact ⟨accepted, rfl, finite, normal, by decide +kernel, same (small (by decide))⟩

/-- Past that number, the loss can be a whole unit, which the replay bills once more. -/
theorem replay_past_slack :
    let usage := hoursCounted 10485762
    let unit : MeasureUnit Float := ⟨some "hours", 0.1⟩
    let w := noDoubles.withoutRows
    let w' := w.after (.observe usage unit none)
    MeasureUnit.billing "hours" (0.1 : Float) = .ok unit ∧
      usage.currentTotal = Float.ofNat 10485762 ∧
      (usage.currentTotal * 0.1).isFinite = true ∧ leastNormal ≤ usage.currentTotal * 0.1 ∧
      w.storage.rows.get? usage.key = none ∧
      ((w'.storage.rows.get? usage.key).bind fun row =>
        (Calculation.compute usage.currentTotal unit (some row) none).toOption.map (·.consumed)) =
          some 1.0 := by
  refine ⟨?_, rfl, by decide +kernel, by decide +kernel, rfl, by decide +kernel⟩
  rw [MeasureUnit.billing, if_pos (by decide +kernel)]

end MeteredBilling
