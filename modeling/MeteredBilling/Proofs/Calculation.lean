import MeteredBilling.Remittance.Decision

/-!
# Calculations

An observation that the row accepts always comes to a calculation: conversions fail on different
metrics only, and the ledger converts between a metric and its own units.
-/

namespace MeteredBilling

variable {α : Type} [Amount α]

namespace Quantity

/-- The units do not name different metrics. -/
def Agree (unit target : MeasureUnit α) : Prop :=
  unit.metricId = none ∨ target.metricId = none ∨ unit.metricId = target.metricId

/-- The same amount in a unit of the same metric. -/
def converted (q : Quantity α) (target : MeasureUnit α) : Quantity α :=
  ⟨if Amount.eq q.unit.factor target.factor then q.value
    else q.value / q.unit.factor * target.factor, target⟩

theorem inUnit_eq {q : Quantity α} {target : MeasureUnit α} (agree : Agree q.unit target) :
    q.inUnit target = .ok (q.converted target) := by
  obtain ⟨value, ⟨metricId, factor⟩⟩ := q
  obtain ⟨targetId, targetFactor⟩ := target
  have compatible : (MeasureUnit.mk metricId factor).compatible ⟨targetId, targetFactor⟩ =
      .ok (PUnit.unit.{1}) := by
    cases metricId <;> cases targetId <;> simp_all [Agree, MeasureUnit.compatible]
  simp only [inUnit, compatible, converted]
  change (if _ then _ else _) = _
  split <;> rfl

theorem add_eq {q other : Quantity α} (agree : Agree other.unit q.unit) :
    q.add other = .ok ⟨q.value + (other.converted q.unit).value, q.unit⟩ := by
  rw [add, inUnit_eq agree]
  rfl

theorem subtract_eq {q other : Quantity α} (agree : Agree other.unit q.unit) :
    q.subtract other = .ok ⟨q.value - (other.converted q.unit).value, q.unit⟩ := by
  rw [subtract, inUnit_eq agree]
  rfl

theorem ceil_unit (q : Quantity α) : q.ceil.unit = q.unit := by
  simp only [ceil]
  split <;> rfl

theorem subtract_metric {q : Quantity α} (other : Quantity α) (metric : q.unit = .metric) :
    q.subtract other = .ok ⟨q.value - (other.converted .metric).value, .metric⟩ := by
  rw [subtract_eq (.inr (.inl (by rw [metric]; rfl))), metric]

end Quantity

namespace Calculation

open Quantity

def covered (unit : MeasureUnit α) : Option (Coverage α) → Quantity α
  | some coverage => converted ⟨coverage.total, unit⟩ ⟨unit.metricId, 1⟩
  | none => .ofMetric 0

def past (total : α) (unit : MeasureUnit α) (coverage : Option (Coverage α)) : Quantity α :=
  positiveOrZero ⟨total - ((covered unit coverage).converted .metric).value, .metric⟩

/-- The usage past coverage that was not accounted for, in whole units. -/
def due (past remitted free : Quantity α) : Quantity α :=
  let accounted : Quantity α := ⟨remitted.value + (free.converted remitted.unit).value, remitted.unit⟩
  (positiveOrZero ⟨past.value - (accounted.converted .metric).value, .metric⟩).ceil

/-- What an observation comes to beside what was billed and given free. -/
def settled (total : α) (unit : MeasureUnit α) (remitted free : Quantity α)
    (coverage : Option (Coverage α)) : Calculation α :=
  let past := past total unit coverage
  let consumed := due past remitted free
  let billable := consumed.converted unit
  let gratis := coverage.any (·.gratis)
  { factor := unit.factor
    applicable := past.value
    consumed := consumed.value
    billed := if gratis then 0 else billable.value
    newRemitted :=
      if gratis then (remitted.converted unit).value
      else (remitted.converted unit).value + (billable.converted unit).value
    newGratis :=
      if gratis then (free.converted unit).value + (billable.converted unit).value
      else (free.converted unit).value
    gratis }

theorem offset_eq (unit : MeasureUnit α) (coverage : Option (Coverage α)) :
    offset unit coverage = .ok (covered unit coverage) := by
  cases coverage with
  | none => rfl
  | some coverage => exact inUnit_eq (.inr (.inr rfl))

theorem accounted_units {total : α} {unit : MeasureUnit α} {prior : Option (Remittance α)}
    {remitted free : Quantity α} (h : accounted total unit prior = .ok (remitted, free)) :
    remitted.unit.metricId = unit.metricId ∧ free.unit = remitted.unit := by
  cases prior with
  | none =>
    obtain ⟨rfl, rfl⟩ := Prod.mk.inj (Except.ok.inj h)
    exact ⟨rfl, rfl⟩
  | some row =>
    simp only [accounted] at h
    split at h
    · cases h
    · split at h
      · obtain ⟨rfl, rfl⟩ := Prod.mk.inj (Except.ok.inj h)
        exact ⟨rfl, rfl⟩
      · cases h

theorem ok_bind {β γ : Type} (b : β) (f : β → Except BillingError γ) : (.ok b >>= f) = f b := rfl

theorem compute_eq (total : α) (unit : MeasureUnit α) (prior : Option (Remittance α))
    (coverage : Option (Coverage α)) :
    compute total unit prior coverage =
      (accounted total unit prior).map fun (remitted, free) =>
        settled total unit remitted free coverage := by
  cases read : accounted total unit prior with
  | error e => simp [compute, read, bind, Except.bind, Except.map]
  | ok parts =>
    obtain ⟨remitted, free⟩ := parts
    obtain ⟨sameMetric, sameUnit⟩ := accounted_units read
    have agree : Agree remitted.unit unit := .inr (.inr sameMetric)
    have agreeFree : Agree free.unit unit := sameUnit ▸ agree
    have toPast := subtract_metric (q := ofMetric total) (covered unit coverage) rfl
    have sum : remitted.add free = _ := add_eq (.inr (.inr (by rw [sameUnit])))
    have toDue := subtract_metric (q := past total unit coverage)
      ⟨remitted.value + (free.converted remitted.unit).value, remitted.unit⟩ rfl
    have billable : (due (past total unit coverage) remitted free).inUnit unit = _ :=
      inUnit_eq (.inl (by rw [due, ceil_unit]; rfl))
    have grow (q : Quantity α) : (q.converted unit).add
        ((due (past total unit coverage) remitted free).converted unit) = _ :=
      add_eq (.inr (.inr rfl))
    simp only [compute, read, ok_bind, offset_eq, toPast, sum]
    rw [show positiveOrZero ⟨(ofMetric total).value - _, .metric⟩ = past total unit coverage from rfl,
      toDue]
    simp only [ok_bind]
    rw [show (positiveOrZero ⟨(past total unit coverage).value - _, .metric⟩).ceil =
      due (past total unit coverage) remitted free from rfl, billable]
    simp only [ok_bind, inUnit_eq agree, inUnit_eq agreeFree, grow]
    unfold settled
    cases coverage.any (·.gratis) <;> rfl

theorem compute_ok {total : α} {unit : MeasureUnit α} {prior : Option (Remittance α)}
    {coverage : Option (Coverage α)} {calculation : Calculation α}
    (computed : compute total unit prior coverage = .ok calculation) :
    ∃ remitted free, accounted total unit prior = .ok (remitted, free) ∧
      calculation = settled total unit remitted free coverage := by
  rw [compute_eq] at computed
  cases read : accounted total unit prior with
  | error e =>
    rw [read] at computed
    cases computed
  | ok parts =>
    rw [read] at computed
    exact ⟨parts.1, parts.2, rfl, (Except.ok.inj computed).symm⟩

theorem compute_factor {total : α} {unit : MeasureUnit α} {prior : Option (Remittance α)}
    {coverage : Option (Coverage α)} {calculation : Calculation α}
    (computed : compute total unit prior coverage = .ok calculation) :
    calculation.factor = unit.factor := by
  obtain ⟨remitted, free, _, rfl⟩ := compute_ok computed
  rfl

theorem usable_of_compute {total : α} {unit : MeasureUnit α} {prior : Option (Remittance α)}
    {coverage : Option (Coverage α)} {calculation : Calculation α}
    (computed : compute total unit prior coverage = .ok calculation) :
    ∀ row ∈ prior, Amount.isUsableFactor row.factor = true := by
  rintro row rfl
  obtain ⟨remitted, free, read, _⟩ := compute_ok computed
  rw [accounted] at read
  split at read
  · cases read
  · split at read
    · assumption
    · cases read

theorem compute_error_iff (total : α) (unit : MeasureUnit α) {prior : Option (Remittance α)}
    (coverage : Option (Coverage α))
    (usable : ∀ row ∈ prior, Amount.isUsableFactor row.factor = true) (e : BillingError) :
    compute total unit prior coverage = .error e ↔
      ∃ row ∈ prior, Amount.lt (total + Amount.slack) row.lastTotal = true ∧
        e = .usageRegression row.key.text (Amount.text row.lastTotal) (Amount.text total) := by
  rw [compute_eq]
  cases prior with
  | none => simp [accounted, Except.map]
  | some row =>
    have sound := usable row rfl
    cases falls : Amount.lt (total + Amount.slack) row.lastTotal with
    | true =>
      rw [accounted, if_pos falls]
      constructor
      · intro refused
        exact ⟨row, rfl, falls, (Except.error.inj refused).symm⟩
      · rintro ⟨_, ⟨⟩, _, rfl⟩
        rfl
    | false => simp [accounted, Except.map, falls, sound]

end Calculation
end MeteredBilling
