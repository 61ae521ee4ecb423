import Mathlib.Algebra.Order.Group.MinMax
import MeteredBilling.Proofs.Calculation
import MeteredBilling.Proofs.Exact
import MeteredBilling.Proofs.Upkeep

/-!
# Exact accounting

What one observation comes to on exact amounts. Rows are seen in units of the metric, in which a
row with a recorded factor and an observation with another one can be compared.
-/

namespace MeteredBilling

open Exact

def billedPart : Option (Remittance ℚ) → ℚ
  | some row => row.remitted / row.factor
  | none => 0

def freePart : Option (Remittance ℚ) → ℚ
  | some row => row.gratis / row.factor
  | none => 0

/-- What a row has accounted for, in units of the metric. -/
def accountedFor : Option (Remittance ℚ) → ℚ
  | some row => (row.remitted + row.gratis) / row.factor
  | none => 0

theorem accountedFor_eq (row : Option (Remittance ℚ)) :
    accountedFor row = billedPart row + freePart row := by
  cases row with
  | none => simp [accountedFor, billedPart, freePart]
  | some row => exact add_div ..

section Amounts

variable {row other : Option (Remittance ℚ)}

theorem billedPart_of_amounts (same : row.map (·.amounts) = other.map (·.amounts)) :
    billedPart row = billedPart other :=
  have read (row : Option (Remittance ℚ)) :
      billedPart row = ((row.map (·.amounts)).map fun a => a.remitted / a.factor).getD 0 := by
    cases row <;> rfl
  (read row).trans (same ▸ (read other).symm)

theorem freePart_of_amounts (same : row.map (·.amounts) = other.map (·.amounts)) :
    freePart row = freePart other :=
  have read (row : Option (Remittance ℚ)) :
      freePart row = ((row.map (·.amounts)).map fun a => a.gratis / a.factor).getD 0 := by
    cases row <;> rfl
  (read row).trans (same ▸ (read other).symm)

theorem accountedFor_of_amounts (same : row.map (·.amounts) = other.map (·.amounts)) :
    accountedFor row = accountedFor other := by
  rw [accountedFor_eq, accountedFor_eq, billedPart_of_amounts same, freePart_of_amounts same]

theorem usable_of_amounts (same : row.map (·.amounts) = other.map (·.amounts))
    (usable : ∀ stored ∈ other, 0 < stored.factor) : ∀ stored ∈ row, 0 < stored.factor := by
  rintro stored rfl
  obtain ⟨prior, rfl, equal⟩ := Option.map_eq_some_iff.mp same.symm
  have factor : prior.factor = stored.factor := congrArg Amounts.factor equal
  exact factor ▸ usable prior rfl

end Amounts

/-- What contracts cover, in units of the metric. -/
def coveredPart (factor : ℚ) : Option (Coverage ℚ) → ℚ
  | some coverage => coverage.total / factor
  | none => 0

/-- The whole units of the metric that an observation asks to be accounted for. -/
def required (total factor : ℚ) (coverage : Option (Coverage ℚ)) : ℚ :=
  (Quantity.ofMetric (max 0 (total - coveredPart factor coverage))).ceil.value

theorem required_eq (total factor : ℚ) (coverage : Option (Coverage ℚ)) :
    required total factor coverage = roundUp (max 0 (total - coveredPart factor coverage)) := by
  rw [required, ceil_eq, Quantity.ofMetric]

theorem required_nonneg (total factor : ℚ) (coverage : Option (Coverage ℚ)) :
    0 ≤ required total factor coverage := by
  rw [required_eq]
  exact_mod_cast roundUp_nonneg (le_max_left ..)

theorem required_mono {total other : ℚ} (factor : ℚ) (coverage : Option (Coverage ℚ))
    (le : total ≤ other) : required total factor coverage ≤ required other factor coverage := by
  rw [required_eq, required_eq]
  exact_mod_cast roundUp_mono (max_le_max_left 0 (sub_le_sub_right le _))

theorem whole_required (total factor : ℚ) (coverage : Option (Coverage ℚ)) :
    ∃ n : ℤ, required total factor coverage = n :=
  ⟨_, required_eq ..⟩

theorem whole_foldr {needs : List ℚ} (whole : ∀ need ∈ needs, ∃ n : ℤ, need = n) :
    ∃ n : ℤ, needs.foldr max 0 = n := by
  induction needs with
  | nil => exact ⟨0, by simp⟩
  | cons need rest ih =>
    obtain ⟨m, rfl⟩ := whole need List.mem_cons_self
    obtain ⟨n, same⟩ := ih fun need member => whole need (List.mem_cons_of_mem _ member)
    exact ⟨max m n, by simp [same]⟩

/-! ### Conversion -/

theorem converted_eq (value : ℚ) {unit : MeasureUnit ℚ} (target : MeasureUnit ℚ)
    (nonzero : unit.factor ≠ 0) :
    (Quantity.mk value unit).converted target = ⟨value / unit.factor * target.factor, target⟩ := by
  unfold Quantity.converted
  split
  · rename_i same
    rw [← eq_iff.mp same, div_mul_cancel₀ _ nonzero]
  · rfl

@[simp] theorem metric_factor : (MeasureUnit.metric : MeasureUnit ℚ).factor = 1 := rfl

theorem converted_metric (value : ℚ) {unit : MeasureUnit ℚ} (nonzero : unit.factor ≠ 0) :
    (Quantity.mk value unit).converted .metric = .ofMetric (value / unit.factor) := by
  rw [converted_eq _ _ nonzero]
  simp [Quantity.ofMetric]

theorem ofMetric_converted (value : ℚ) (target : MeasureUnit ℚ) :
    (Quantity.ofMetric value).converted target = ⟨value * target.factor, target⟩ := by
  rw [Quantity.ofMetric, converted_eq _ _ (by simp)]
  simp

/-! ### One observation -/

/-- The total is not below what the row has seen, or by no more than the slack. -/
def Follows (total : ℚ) (prior : Option (Remittance ℚ)) : Prop :=
  ∀ row ∈ prior, row.lastTotal ≤ total + slack

def exactly (total : ℚ) (unit : MeasureUnit ℚ) (prior : Option (Remittance ℚ))
    (coverage : Option (Coverage ℚ)) : Calculation ℚ :=
  let past := max (total - coveredPart unit.factor coverage) 0
  let consumed : ℚ := roundUp (max (past - accountedFor prior) 0)
  let gratis := coverage.any (·.gratis)
  { factor := unit.factor
    applicable := past
    consumed
    billed := if gratis then 0 else consumed * unit.factor
    newRemitted := (billedPart prior + if gratis then 0 else consumed) * unit.factor
    newGratis := (freePart prior + if gratis then consumed else 0) * unit.factor
    gratis }

theorem accounted_eq {total : ℚ} {unit : MeasureUnit ℚ} {prior : Option (Remittance ℚ)}
    (positive : 0 < unit.factor) (usable : ∀ row ∈ prior, 0 < row.factor)
    (follows : Follows total prior) :
    ∃ (remitted free : ℚ) (recorded : MeasureUnit ℚ),
      Calculation.accounted total unit prior = .ok (⟨remitted, recorded⟩, ⟨free, recorded⟩) ∧
      recorded.factor ≠ 0 ∧ remitted / recorded.factor = billedPart prior ∧
      free / recorded.factor = freePart prior := by
  cases prior with
  | none => exact ⟨_, _, _, rfl, positive.ne', by simp [billedPart], by simp [freePart]⟩
  | some row =>
    have last : ¬Amount.lt (total + Amount.slack) row.lastTotal = true := by
      rw [lt_iff, amount_slack, not_lt]
      exact follows row rfl
    have factor := usable row rfl
    rw [Calculation.accounted, if_neg last, if_pos (usable_iff.mpr factor)]
    exact ⟨_, _, _, rfl, factor.ne', rfl, rfl⟩

theorem past_eq (total : ℚ) {unit : MeasureUnit ℚ} (coverage : Option (Coverage ℚ))
    (nonzero : unit.factor ≠ 0) : Calculation.past total unit coverage =
      .ofMetric (max (total - coveredPart unit.factor coverage) 0) := by
  have covered : (Calculation.covered unit coverage).converted .metric =
      .ofMetric (coveredPart unit.factor coverage) := by
    cases coverage with
    | none => exact (ofMetric_converted 0 .metric).trans (by simp [coveredPart]; rfl)
    | some coverage =>
      have one : (1 : ℚ) ≠ 0 := one_ne_zero
      rw [Calculation.covered, converted_eq _ _ nonzero, converted_metric _ one]
      simp [coveredPart]
  rw [Calculation.past, covered]
  rfl

theorem due_eq (past remitted free : ℚ) {recorded : MeasureUnit ℚ} (nonzero : recorded.factor ≠ 0) :
    Calculation.due (.ofMetric past) ⟨remitted, recorded⟩ ⟨free, recorded⟩ =
      .ofMetric (roundUp (max (past - (remitted + free) / recorded.factor) 0)) := by
  simp only [Calculation.due, ceil_eq, converted_eq _ _ nonzero, div_mul_cancel₀ _ nonzero,
    metric_factor, mul_one]
  rfl

theorem compute_of_follows {total : ℚ} {unit : MeasureUnit ℚ} {prior : Option (Remittance ℚ)}
    (coverage : Option (Coverage ℚ)) (positive : 0 < unit.factor)
    (usable : ∀ row ∈ prior, 0 < row.factor) (follows : Follows total prior) :
    Calculation.compute total unit prior coverage = .ok (exactly total unit prior coverage) := by
  obtain ⟨remitted, free, recorded, read, nonzero, billed, given⟩ :=
    accounted_eq positive usable follows
  have accounted : accountedFor prior = (remitted + free) / recorded.factor := by
    rw [accountedFor_eq, ← billed, ← given, add_div]
  rw [Calculation.compute_eq, read]
  simp only [Except.map, Calculation.settled, past_eq total coverage positive.ne',
    due_eq _ _ _ nonzero, exactly, accounted, ← billed, ← given, converted_eq _ _ nonzero,
    ofMetric_converted, converted_eq _ _ positive.ne', div_mul_cancel₀ _ positive.ne']
  simp only [Quantity.ofMetric, Except.ok.injEq, Calculation.mk.injEq, true_and, and_true]
  split
  · simp [add_mul]
  · simp [add_mul]

theorem compute_of_not_follows {total : ℚ} {prior : Option (Remittance ℚ)} (unit : MeasureUnit ℚ)
    (coverage : Option (Coverage ℚ)) (falls : ¬Follows total prior) :
    ∃ row ∈ prior, Calculation.compute total unit prior coverage =
      .error (.usageRegression row.key.text (Amount.text row.lastTotal) (Amount.text total)) := by
  cases prior with
  | none => exact absurd (fun _ absent => by cases absent) falls
  | some row =>
    have last : Amount.lt (total + Amount.slack) row.lastTotal = true := by
      rw [lt_iff, amount_slack]
      by_contra above
      exact falls fun _ same => by cases same; exact not_lt.mp above
    refine ⟨row, rfl, ?_⟩
    rw [Calculation.compute_eq, Calculation.accounted, if_pos last]
    rfl

/-! ### The row that follows -/

theorem consumed_of_whole {total : ℚ} {unit : MeasureUnit ℚ} {prior : Option (Remittance ℚ)}
    {coverage : Option (Coverage ℚ)} {n : ℤ} (whole : accountedFor prior = n) :
    (exactly total unit prior coverage).consumed =
      max (accountedFor prior) (required total unit.factor coverage) - accountedFor prior := by
  have rounded : roundUp (max (max (total - coveredPart unit.factor coverage) 0 - n) 0) =
      max (roundUp (max 0 (total - coveredPart unit.factor coverage)) - n) 0 := by
    rw [roundUp_max, roundUp_sub_int, roundUp_zero, max_comm 0 (_ - _)]
  simp only [exactly, whole, rounded, required_eq]
  push_cast
  rw [← max_sub_sub_right, sub_self, max_comm]

theorem consumed_nonneg (total : ℚ) (unit : MeasureUnit ℚ) (prior : Option (Remittance ℚ))
    (coverage : Option (Coverage ℚ)) : 0 ≤ (exactly total unit prior coverage).consumed := by
  simp only [exactly]
  exact_mod_cast roundUp_nonneg (le_max_right _ 0)

section NextRow

open Calendar

variable (usage : Usage ℚ) {unit : MeasureUnit ℚ} (prior : Option (Remittance ℚ))
  (coverage : Option (Coverage ℚ)) (now : Instant) (fresh : Uuid)

/-- The row after an observation that is accepted and advances it. -/
def rowAfter (unit : MeasureUnit ℚ) : Remittance ℚ :=
  Decision.nextRow usage prior (exactly usage.currentTotal unit prior coverage) now fresh

variable (positive : 0 < unit.factor)

include positive in
theorem billedPart_rowAfter : billedPart (some (rowAfter usage prior coverage now fresh unit)) =
    billedPart prior + if coverage.any (·.gratis) then 0
      else (exactly usage.currentTotal unit prior coverage).consumed :=
  mul_div_cancel_right₀ _ positive.ne'

include positive in
theorem freePart_rowAfter : freePart (some (rowAfter usage prior coverage now fresh unit)) =
    freePart prior + if coverage.any (·.gratis)
      then (exactly usage.currentTotal unit prior coverage).consumed else 0 :=
  mul_div_cancel_right₀ _ positive.ne'

include positive in
theorem accountedFor_rowAfter :
    accountedFor (some (rowAfter usage prior coverage now fresh unit)) =
      accountedFor prior + (exactly usage.currentTotal unit prior coverage).consumed := by
  rw [accountedFor_eq, accountedFor_eq, billedPart_rowAfter _ _ _ _ _ positive,
    freePart_rowAfter _ _ _ _ _ positive]
  split <;> ring

end NextRow

end MeteredBilling
