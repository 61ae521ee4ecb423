import MeteredBilling.Usage.Key

/-!
# Observed usage

A normalised observation of usage for one billing key: how much was used, and how much in the
period so far.
-/

namespace MeteredBilling

open Calendar

structure Usage (α : Type) where
  orgId : String
  tallyId : Uuid
  productId : String
  metricId : String
  sla : String
  purpose : String
  provider : Provider
  accountId : String
  vendorProductCode : Option String
  value : α
  /-- The usage of the period up to now, in metric units. -/
  currentTotal : α
  snapshotDate : Instant

namespace Usage

variable {α : Type}

def period (usage : Usage α) : Period := .ofInstant usage.snapshotDate

def key (usage : Usage α) : RemittanceKey where
  orgId := usage.orgId
  productId := usage.productId
  metricId := usage.metricId
  sla := usage.sla
  purpose := usage.purpose
  provider := usage.provider
  accountId := usage.accountId
  period := usage.period

def record [Amount α] : Record (Json α) (Usage α) :=
  mk <$> .required "org_id" .text <*> .required "tally_id" .uuid <*> .required "product_id" .text
    <*> .required "metric_id" .text <*> .required "sla" .text <*> .required "usage" .text
    <*> .required "billing_provider" Provider.decoder <*> .required "billing_account_id" .text
    <*> .optional "vendor_product_code" .text <*> .required "value" .amount
    <*> .required "current_total" .amount <*> .required "snapshot_date" .instant

def toJson [Amount α] (usage : Usage α) : Json α :=
  .obj [("org_id", .str usage.orgId), ("tally_id", .str usage.tallyId.text),
    ("product_id", .str usage.productId), ("metric_id", .str usage.metricId),
    ("sla", .str usage.sla), ("usage", .str usage.purpose),
    ("billing_provider", .str usage.provider.text), ("billing_account_id", .str usage.accountId),
    ("vendor_product_code", .ofText? usage.vendorProductCode), ("value", .ofAmount usage.value),
    ("current_total", .ofAmount usage.currentTotal),
    ("snapshot_date", .str usage.snapshotDate.timestamp)]

end Usage
end MeteredBilling
