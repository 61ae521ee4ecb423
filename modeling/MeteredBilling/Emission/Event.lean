import MeteredBilling.Message.Basic
import MeteredBilling.Remittance.Row
import MeteredBilling.Usage.Observation

/-!
# Billing events

The message that bills one increment of a remittance.
-/

namespace MeteredBilling

open Calendar

structure BillingEvent (α : Type) where
  remittanceId : Uuid
  key : RemittanceKey
  vendorProductCode : Option String
  /-- The increment, in billing units. -/
  billedValue : α
  factor : α
  tallyId : Uuid
  snapshotDate : Instant

namespace BillingEvent

variable {α : Type} [Amount α]

omit [Amount α] in
def ofRow (row : Remittance α) (billedValue : α) (usage : Usage α) : BillingEvent α where
  remittanceId := row.id
  key := row.key
  vendorProductCode := usage.vendorProductCode
  billedValue := billedValue
  factor := row.factor
  tallyId := row.tallyId
  snapshotDate := usage.snapshotDate

def record : Record (Json α) (BillingEvent α) :=
  .titled "BillableUsageEvent" <| mk <$> .required "remittance_id" .uuid <*> RemittanceKey.record
    <*> .optional "vendor_product_code" .text <*> .required "billed_value" .amount
    <*> .required "billing_factor" .amount <*> .required "tally_id" .uuid
    <*> .required "snapshot_date" .instant

def toJson (event : BillingEvent α) : Json α :=
  .obj (("remittance_id", .str event.remittanceId.text) :: event.key.members ++
    [("vendor_product_code", .ofText? event.vendorProductCode),
      ("billed_value", .ofAmount event.billedValue), ("billing_factor", .ofAmount event.factor),
      ("tally_id", .str event.tallyId.text),
      ("snapshot_date", .str event.snapshotDate.timestamp)])

def toMessage (event : BillingEvent α) : Outbound α := .ofPayload Topic.billableUsage event.toJson

end BillingEvent
end MeteredBilling
