import MeteredBilling.Json.Source

/-!
# Contracts

Contracts are kept elsewhere and read here: a window of validity and the amounts covered in it.
-/

namespace MeteredBilling

open Calendar

/-- An amount covered, named as the contract service names metrics. -/
structure ContractMetric (α : Type) where
  metricId : String
  value : α

structure Contract (α : Type) where
  orgId : String
  productId : String
  vendorProductCode : Option String
  provider : Option String
  accountId : Option String
  startDate : Instant
  endDate : Option Instant
  metrics : List (ContractMetric α)
  gratis : Bool

/-- What the contracts active at a moment cover, in billing units. -/
structure Coverage (α : Type) where
  metricId : Option String
  total : α
  gratis : Bool

namespace ContractMetric

variable {ν α : Type} [Amount α] [Source ν] [AmountSource ν α]

omit [Amount α] in
def record : Record ν (ContractMetric α) :=
  mk <$> .required "metric_id" .text <*> .required "value" .amount

def toJson (metric : ContractMetric α) : Json α :=
  .obj [("metric_id", .str metric.metricId), ("value", .ofAmount metric.value)]

end ContractMetric

namespace Contract

variable {ν α : Type} [Amount α] [Source ν] [AmountSource ν α]

omit [Amount α] [AmountSource ν α] in
/-- Both ends belong to the window, and an open end never comes. -/
def isActiveAt (contract : Contract α) (date : Instant) : Bool :=
  contract.startDate ≤ date && contract.endDate.all (date ≤ ·)

omit [Amount α] in
def record : Record ν (Contract α) :=
  mk <$> .required "org_id" .text <*> .required "product_id" .text
    <*> .optional "vendor_product_code" .text <*> .optional "billing_provider" .text
    <*> .optional "billing_account_id" .text <*> .required "start_date" .instant
    <*> .optional "end_date" .instant
    <*> .defaulted "metrics" (.list ContractMetric.record.decoder) []
    <*> .defaulted "gratis" .bool false

def toJson (contract : Contract α) : Json α :=
  .obj [("org_id", .str contract.orgId), ("product_id", .str contract.productId),
    ("vendor_product_code", .ofText? contract.vendorProductCode),
    ("billing_provider", .ofText? contract.provider),
    ("billing_account_id", .ofText? contract.accountId),
    ("start_date", .str contract.startDate.timestamp),
    ("end_date", .ofText? (contract.endDate.map (·.timestamp))),
    ("metrics", .arr (contract.metrics.map (·.toJson))), ("gratis", .bool contract.gratis)]

end Contract

namespace Coverage

variable {α : Type} [Amount α]

/-- No coverage. -/
def none : Coverage α := ⟨.none, 0, false⟩

/-- The sum of the entries for a metric over the contracts active at `date`. Usage is free of charge
when the metric allows it and every active contract, of which there is one, says so. -/
def ofContracts (contracts : List (Contract α)) (metricId : String) (date : Instant)
    (gratisCapable : Bool) : Coverage α :=
  let active := contracts.filter (·.isActiveAt date)
  let entries := (active.flatMap (·.metrics)).filter (·.metricId == metricId)
  { metricId := some metricId
    total := (entries.map (·.value)).foldl (· + ·) 0
    gratis := gratisCapable && !active.isEmpty && active.all (·.gratis) }

end Coverage
end MeteredBilling
