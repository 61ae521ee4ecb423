import MeteredBilling.Catalog.Basic
import MeteredBilling.Usage.Observation

/-!
# Tally summaries

The usage of an organisation as the tally service reports it, and the observations to bill that it
holds: one for each metric of each billable snapshot.
-/

namespace MeteredBilling

open Calendar

/-- The measurement that sums up all others. -/
def totalMeasurement : String := "TOTAL"

structure TallyMeasurement (α : Type) where
  hardwareType : String
  metricId : String
  value : α
  /-- The usage of the period up to now, in metric units. -/
  currentTotal : α

structure TallySnapshot (α : Type) where
  id : Uuid
  productId : String
  snapshotDate : Instant
  sla : String
  purpose : String
  provider : Provider
  accountId : Option String
  vendorProductCode : Option String
  granularity : Granularity
  measurements : Option (List (TallyMeasurement α))

structure TallySummary (α : Type) where
  orgId : String
  snapshots : List (TallySnapshot α)

namespace TallyMeasurement

variable {α : Type} [Amount α]

def record : Record (Json α) (TallyMeasurement α) :=
  .titled "TallyMeasurement" <| mk <$> .required "hardware_measurement_type" .text
    <*> .required "metric_id" .text <*> .required "value" .amount
    <*> .required "current_total" .amount

def toJson (m : TallyMeasurement α) : Json α :=
  .obj [("hardware_measurement_type", .str m.hardwareType), ("metric_id", .str m.metricId),
    ("value", .ofAmount m.value), ("current_total", .ofAmount m.currentTotal)]

end TallyMeasurement

namespace TallySnapshot

variable {α : Type} [Amount α]

def record : Record (Json α) (TallySnapshot α) :=
  .titled "TallySnapshot" <| mk <$> .required "id" .uuid <*> .required "product_id" .text
    <*> .required "snapshot_date" .instant <*> .required "sla" .text <*> .required "usage" .text
    <*> .required "billing_provider" Provider.decoder <*> .optional "billing_account_id" .text
    <*> .optional "vendor_product_code" .text <*> .required "granularity" Granularity.decoder
    <*> .optional "tally_measurements" (.list TallyMeasurement.record.decoder)

def toJson (s : TallySnapshot α) : Json α :=
  .obj [("id", .str s.id.text), ("product_id", .str s.productId),
    ("snapshot_date", .str s.snapshotDate.timestamp), ("sla", .str s.sla),
    ("usage", .str s.purpose), ("billing_provider", .str s.provider.text),
    ("billing_account_id", .ofText? s.accountId),
    ("vendor_product_code", .ofText? s.vendorProductCode), ("granularity", .str s.granularity.text),
    ("tally_measurements",
      match s.measurements with
      | some measurements => .arr (measurements.map (·.toJson))
      | none => .null)]

omit [Amount α] in
/-- Pay-as-you-go usage of one account with all dimensions given, at the granularity that the
product is billed by. -/
def isBillable (catalog : ProductCatalog α) (s : TallySnapshot α) : Bool :=
  let account := s.accountId.getD anyDimension
  catalog.isPaygEligible s.productId && s.sla != anyDimension && s.purpose != anyDimension
    && s.provider != .any && account != "" && account != anyDimension
    && catalog.granularity? s.productId == some s.granularity
    && s.measurements.any (!·.isEmpty)

omit [Amount α] in
def usage (orgId : String) (s : TallySnapshot α) (m : TallyMeasurement α) : Usage α where
  orgId := orgId
  tallyId := s.id
  productId := s.productId
  metricId := m.metricId
  sla := s.sla
  purpose := s.purpose
  provider := s.provider
  accountId := s.accountId.getD ""
  vendorProductCode := s.vendorProductCode
  value := m.value
  currentTotal := m.currentTotal
  snapshotDate := s.snapshotDate

/-- Adds a measurement to the observation of its metric, or starts one behind the others. -/
def accumulate (start : TallyMeasurement α → Usage α) (m : TallyMeasurement α) :
    List (Usage α) → List (Usage α)
  | [] => [start m]
  | u :: rest =>
    if u.metricId = m.metricId then
      { u with value := u.value + m.value, currentTotal := u.currentTotal + m.currentTotal } :: rest
    else u :: accumulate start m rest

/-- One observation for each metric, in the order of their first measurements. -/
def usages (orgId : String) (s : TallySnapshot α) : List (Usage α) :=
  let parts := (s.measurements.getD []).filter (·.hardwareType != totalMeasurement)
  parts.foldl (fun usages m => accumulate (s.usage orgId) m usages) []

end TallySnapshot

namespace TallySummary

variable {α : Type} [Amount α]

def record : Record (Json α) (TallySummary α) :=
  .titled "TallySummary" <| mk <$> .required "org_id" .text
    <*> .defaulted "tally_snapshots" (.list TallySnapshot.record.decoder) []

def toJson (summary : TallySummary α) : Json α :=
  .obj [("org_id", .str summary.orgId),
    ("tally_snapshots", .arr (summary.snapshots.map (·.toJson)))]

/-- The observations to bill, snapshot by snapshot. -/
def usages (catalog : ProductCatalog α) (summary : TallySummary α) : List (Usage α) :=
  (summary.snapshots.filter (·.isBillable catalog)).flatMap (·.usages summary.orgId)

end TallySummary
end MeteredBilling
