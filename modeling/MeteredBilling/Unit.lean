import MeteredBilling.Failure
import MeteredBilling.Json.Source

/-!
# Units and quantities

Amounts of a metric, in the metric's own unit or in billing units, which a factor relates to it.
Conversion goes through the metric's own unit and refuses units of different metrics.
-/

namespace MeteredBilling

/-- A unit of some metric, or of any metric if none is named. -/
structure MeasureUnit (α : Type) where
  metricId : Option String
  /-- Billing units for one unit of the metric. -/
  factor : α

namespace MeasureUnit

variable {α : Type} [Amount α]

/-- The metric's own unit, compatible with every metric. -/
def metric : MeasureUnit α := ⟨none, 1⟩

def billing (metricId : String) (factor : α) : Except BillingError (MeasureUnit α) :=
  if Amount.isUsableFactor factor then .ok ⟨some metricId, factor⟩
  else .error (.invalidUnit ("billing factor " ++ Amount.text factor ++ " for metric " ++ metricId
    ++ " must be finite and positive"))

def isCanonical (unit : MeasureUnit α) : Bool := Amount.eq unit.factor 1

def text (unit : MeasureUnit α) : String :=
  match unit.metricId with
  | some metricId => metricId ++ "@" ++ Amount.text unit.factor
  | none => "metric"

omit [Amount α] in
/-- Two units are compatible unless they name different metrics. -/
def compatible (unit other : MeasureUnit α) : Except BillingError PUnit :=
  match unit.metricId, other.metricId with
  | some left, some right =>
    if left = right then .ok ⟨⟩
    else .error (.invalidUnit ("cannot convert between " ++ left ++ " and " ++ right))
  | _, _ => .ok ⟨⟩

def record : Record (Json α) (MeasureUnit α) :=
  mk <$> .optional "metric_id" .text <*> .required "billing_factor" .amount

def toJson (unit : MeasureUnit α) : Json α :=
  .obj [("metric_id", .ofText? unit.metricId), ("billing_factor", .ofAmount unit.factor)]

end MeasureUnit

structure Quantity (α : Type) where
  value : α
  unit : MeasureUnit α

namespace Quantity

variable {α : Type} [Amount α]

/-- An amount in the metric's own unit. -/
def ofMetric (value : α) : Quantity α := ⟨value, .metric⟩

/-- The same amount in another unit. -/
def inUnit (q : Quantity α) (target : MeasureUnit α) : Except BillingError (Quantity α) := do
  q.unit.compatible target
  if Amount.eq q.unit.factor target.factor then return ⟨q.value, target⟩
  return ⟨q.value / q.unit.factor * target.factor, target⟩

def toMetric (q : Quantity α) : Except BillingError (Quantity α) := q.inUnit ⟨q.unit.metricId, 1⟩

/-- The sum in the unit of the first amount. -/
def add (q other : Quantity α) : Except BillingError (Quantity α) := do
  let other ← other.inUnit q.unit
  return ⟨q.value + other.value, q.unit⟩

def subtract (q other : Quantity α) : Except BillingError (Quantity α) := do
  let other ← other.inUnit q.unit
  return ⟨q.value - other.value, q.unit⟩

/-- Rounds up, unless a whole number lies within the slack. -/
def ceil (q : Quantity α) : Quantity α :=
  let nearest := Amount.nearest q.value
  if Amount.lt (Amount.abs (q.value - nearest)) Amount.slack then ⟨nearest, q.unit⟩
  else ⟨Amount.ceiling q.value, q.unit⟩

def positiveOrZero (q : Quantity α) : Quantity α := ⟨Amount.larger q.value 0, q.unit⟩

def scale (q : Quantity α) (factor : α) : Quantity α := ⟨q.value * factor, q.unit⟩

def text (q : Quantity α) : String := Amount.text q.value ++ " " ++ q.unit.text

def record : Record (Json α) (Quantity α) :=
  mk <$> .required "value" .amount <*> .required "unit" MeasureUnit.record.decoder

def toJson (q : Quantity α) : Json α :=
  .obj [("value", .ofAmount q.value), ("unit", q.unit.toJson)]

end Quantity
end MeteredBilling
