import MeteredBilling.Engine.Coverage
import MeteredBilling.Usage.Tally

/-!
# Billing of observations

One observation goes through its unit, its coverage and the ledger. A summary bills all of its
observations, whatever becomes of each, and fails afterwards if one of them failed.
-/

namespace MeteredBilling

open Calendar

structure EngineSettings (α : Type) where
  catalog : ProductCatalog α
  /-- For so long after the usage the lack of a contract is no cause for alarm. -/
  contractGrace : Span
  /-- Rows are kept for so long; for good if absent. -/
  retention : Option Span
  /-- Rows that have been pending for longer than this are given up. -/
  stuckPendingAfter : Span

/-- What the observations of a summary have come to so far. -/
structure Judgement (β : Type) where
  outcomes : List β := []
  failure : Option BillingError := none

namespace Judgement

variable {β : Type}

/-- A failure is put in the place of an earlier one only if it is worth another attempt and the
earlier one is not. -/
def add (judgement : Judgement β) : Except BillingError β → Judgement β
  | .ok outcome => { judgement with outcomes := judgement.outcomes ++ [outcome] }
  | .error e =>
    match judgement.failure with
    | none => { judgement with failure := some e }
    | some kept =>
      if kept.disposition = .reject ∧ e.disposition = .retry then
        { judgement with failure := some e }
      else judgement

def verdict (judgement : Judgement β) : Except BillingError (List β) :=
  match judgement.failure with
  | some e => .error e
  | none => .ok judgement.outcomes

end Judgement

namespace Engine

variable {σ α β : Type} [Amount α]

omit [Amount α] in
/-- Reports the lack of a contract, by the age of the usage. -/
def reportContractMissing (grace : Span) (usage : Usage α) : Engine σ α PUnit := do
  let start ← onCalendar ((← now).minus? grace)
  notice (if start < usage.snapshotDate then .contractPending grace.minutes
    else .contractOverdue grace.minutes)

def coverageOf (settings : EngineSettings α) (usage : Usage α) : Engine σ α (Coverage α) := do
  match ← attempt (resolveCoverage settings.catalog usage) with
  | .ok coverage => return coverage
  | .error e =>
    if let .contractMissing _ := e then reportContractMissing settings.contractGrace usage
    throw e

/-- Counts the part of the usage that coverage still took up; a total that had passed the coverage
before counts nothing. -/
def countCovered (usage : Usage α) (coverage : Coverage α) (factor : α) : Engine σ α PUnit := do
  let previous := usage.currentTotal - usage.value
  let covered := coverage.total / factor
  if !Amount.lt covered previous then
    count .covered (.ofUsage usage "covered") (Amount.smaller (covered - previous) usage.value)

/-- Records an observation in the ledger of its key. -/
def apply [RowStore σ α] (usage : Usage α) (unit : MeasureUnit α) (coverage : Option (Coverage α)) :
    Engine σ α (Outcome α) :=
  RowStore.reconcile usage.key (Decision.ofUsage usage unit coverage)

def process [RowStore σ α] (settings : EngineSettings α) (usage : Usage α) :
    Engine σ α (Outcome α) := do
  let unit ← ofResult (settings.catalog.billingUnit usage.productId usage.metricId)
  let coverage ←
    if settings.catalog.isContractEnabled usage.productId then do
      let coverage ← coverageOf settings usage
      countCovered usage coverage unit.factor
      pure (some coverage)
    else pure none
  let outcome ← apply usage unit coverage
  if let some row := outcome.row then
    let consumed ← ofResult ((Quantity.ofMetric outcome.calculation.consumed).inUnit unit)
    count .billable (.ofUsage usage row.status.text) consumed.value
  return outcome

omit [Amount α] in
/-- All outcomes, or the failure to report, once every observation was attempted. -/
def verdict (results : List (Except BillingError β)) : Except BillingError (List β) :=
  (results.foldl Judgement.add {}).verdict

def processSummary [RowStore σ α] (settings : EngineSettings α) (summary : TallySummary α) :
    Engine σ α (List (Outcome α)) := do
  let results ← (summary.usages settings.catalog).mapM fun usage => attempt (process settings usage)
  ofResult (verdict results)

end Engine
end MeteredBilling
