import MeteredBilling.Contract.Basic
import MeteredBilling.Remittance.Row
import MeteredBilling.Unit

/-!
# Remittance arithmetic

From the total of a period, the coverage and the row so far to the increment that is due: the usage
past coverage, less what was accounted for, rounded up to whole units of the metric.
-/

namespace MeteredBilling

structure Calculation (α : Type) where
  factor : α
  /-- The usage past coverage, in metric units. -/
  applicable : α
  /-- The usage newly accounted for, in whole metric units. -/
  consumed : α
  /-- The increment to bill, in billing units; none under gratis coverage. -/
  billed : α
  newRemitted : α
  newGratis : α
  gratis : Bool

namespace Calculation

variable {α : Type} [Amount α]

/-- What the row has billed and given free, as quantities of the observed metric. A total below the
one that the row has seen is refused. -/
def accounted (currentTotal : α) (unit : MeasureUnit α) :
    Option (Remittance α) → Except BillingError (Quantity α × Quantity α)
  | none => .ok (⟨0, unit⟩, ⟨0, unit⟩)
  | some row =>
    if Amount.lt (currentTotal + Amount.slack) row.lastTotal then
      .error (.usageRegression row.key.text (Amount.text row.lastTotal) (Amount.text currentTotal))
    else if Amount.isUsableFactor row.factor then
      let recorded : MeasureUnit α := ⟨unit.metricId, row.factor⟩
      .ok (⟨row.remitted, recorded⟩, ⟨row.gratis, recorded⟩)
    else
      .error (.invalidUnit ("recorded billing factor " ++ Amount.text row.factor ++ " for "
        ++ row.key.text ++ " is not usable"))

/-- The coverage as an amount of the metric. -/
def offset (unit : MeasureUnit α) : Option (Coverage α) → Except BillingError (Quantity α)
  | some coverage => Quantity.toMetric ⟨coverage.total, unit⟩
  | none => .ok (.ofMetric 0)

def compute (currentTotal : α) (unit : MeasureUnit α) (prior : Option (Remittance α))
    (coverage : Option (Coverage α)) : Except BillingError (Calculation α) := do
  let (remitted, free) ← accounted currentTotal unit prior
  let covered ← offset unit coverage
  let applicable := (← (Quantity.ofMetric currentTotal).subtract covered).positiveOrZero
  let accounted ← remitted.add free
  let consumed := (← applicable.subtract accounted).positiveOrZero.ceil
  let billable ← consumed.inUnit unit
  let remitted ← remitted.inUnit unit
  let free ← free.inUnit unit
  let gratis := coverage.any (·.gratis)
  let (billed, newRemitted, newGratis) ←
    if gratis then do pure (0, remitted.value, (← free.add billable).value)
    else do pure (billable.value, (← remitted.add billable).value, free.value)
  return { factor := unit.factor, applicable := applicable.value, consumed := consumed.value,
           billed, newRemitted, newGratis, gratis }

/-- The row has to be written. -/
def advances (c : Calculation α) : Bool := Amount.lt 0 c.consumed

end Calculation
end MeteredBilling
