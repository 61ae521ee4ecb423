import MeteredBilling.Catalog.Basic
import MeteredBilling.Engine.World

/-!
# Coverage of an observation

From the contract service to the amount that contracts cover, named as the marketplace of the usage
names its metric.
-/

namespace MeteredBilling.Engine

open Calendar

variable {σ α : Type} [Amount α]

omit [Amount α] in
/-- A product under contract that has none, which may still be on its way. -/
def contractMissing (usage : Usage α) : BillingError :=
  .contractMissing ("no contracts for org " ++ usage.orgId ++ " product " ++ usage.productId
    ++ " account " ++ usage.accountId ++ " at " ++ usage.snapshotDate.text)

/-- The coverage of an observation, in billing units: none for a product that is sold without
contracts. -/
def resolveCoverage (catalog : ProductCatalog α) (usage : Usage α) : Engine σ α (Coverage α) := do
  if !catalog.isContractEnabled usage.productId then return .none
  let metricId ← ofResult (catalog.contractMetric usage.provider usage.productId usage.metricId)
  let contracts ← lookUpContracts (.ofUsage usage)
  if contracts.isEmpty then throw (contractMissing usage)
  return .ofContracts contracts metricId usage.snapshotDate
    (catalog.isGratisMetric usage.productId usage.metricId)

end MeteredBilling.Engine
