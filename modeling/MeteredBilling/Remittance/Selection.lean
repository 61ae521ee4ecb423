import MeteredBilling.Remittance.Row

/-!
# Selections of rows

The rows that a listing asks for, and those whose amounts an administrator resets.
-/

namespace MeteredBilling

open Calendar

/-- The rows of an organisation, narrowed by each part that is given. -/
structure RemittanceFilter where
  orgId : String
  productId : Option String
  metricId : Option String
  provider : Option Provider
  accountId : Option String
  beginning : Option Instant
  ending : Option Instant
  deriving DecidableEq, Repr

namespace RemittanceFilter

def forOrg (orgId : String) : RemittanceFilter := ⟨orgId, none, none, none, none, none, none⟩

def selects {α : Type} (filter : RemittanceFilter) (row : Remittance α) : Bool :=
  row.key.orgId == filter.orgId && filter.productId.all (row.key.productId == ·)
    && filter.metricId.all (row.key.metricId == ·) && filter.provider.all (row.key.provider == ·)
    && filter.accountId.all (row.key.accountId == ·) && filter.beginning.all (· ≤ row.pendingDate)
    && filter.ending.all (row.pendingDate ≤ ·)

def record {ν : Type} [Source ν] : Record ν RemittanceFilter :=
  mk <$> .required "org_id" .text <*> .optional "product_id" .text <*> .optional "metric_id" .text
    <*> .optional "billing_provider" Provider.decoder <*> .optional "billing_account_id" .text
    <*> .optional "beginning" .instant <*> .optional "ending" .instant

def toJson {α : Type} (filter : RemittanceFilter) : Json α :=
  .obj [("org_id", .str filter.orgId), ("product_id", .ofText? filter.productId),
    ("metric_id", .ofText? filter.metricId),
    ("billing_provider", .ofText? (filter.provider.map (·.text))),
    ("billing_account_id", .ofText? filter.accountId),
    ("beginning", .ofText? (filter.beginning.map (·.timestamp))),
    ("ending", .ofText? (filter.ending.map (·.timestamp)))]

end RemittanceFilter

/-- Sets the amounts of a product back to zero, over a range of pending dates, for the organisations
or accounts listed. -/
structure ResetRequest where
  productId : String
  start : Instant
  stop : Instant
  orgIds : List String
  accountIds : List String
  deriving DecidableEq, Repr

namespace ResetRequest

def selects {α : Type} (request : ResetRequest) (row : Remittance α) : Bool :=
  row.key.productId == request.productId && request.start ≤ row.pendingDate
    && row.pendingDate ≤ request.stop
    && (request.orgIds.contains row.key.orgId || request.accountIds.contains row.key.accountId)

def record {ν : Type} [Source ν] : Record ν ResetRequest :=
  mk <$> .required "product_id" .text <*> .required "start" .instant <*> .required "end" .instant
    <*> .defaulted "org_ids" (.list .text) []
    <*> .defaulted "billing_account_ids" (.list .text) []

def toJson {α : Type} (request : ResetRequest) : Json α :=
  .obj [("product_id", .str request.productId), ("start", .str request.start.timestamp),
    ("end", .str request.stop.timestamp), ("org_ids", .arr (request.orgIds.map .str)),
    ("billing_account_ids", .arr (request.accountIds.map .str))]

end ResetRequest
end MeteredBilling
