import MeteredBilling.Failure
import MeteredBilling.Message.Basic
import MeteredBilling.Remittance.Row

/-!
# Stored rows

Rows as the database holds them, with names in place of the values that they stand for, and moments
in whole microseconds.
-/

namespace MeteredBilling.Sql

open Calendar

/-- The 20 columns of a remittance. -/
structure StoredRemittance (α : Type) where
  id : Uuid
  orgId : String
  productId : String
  metricId : String
  sla : String
  purpose : String
  provider : String
  accountId : String
  period : String
  remitted : α
  gratis : α
  factor : α
  lastTotal : α
  status : String
  errorCode : Option String
  billedOn : Option Instant
  retryAfter : Option Instant
  tallyId : Uuid
  pendingDate : Instant
  updatedAt : Instant

namespace StoredRemittance

variable {α : Type}

def ofRow (row : Remittance α) : StoredRemittance α where
  id := row.id
  orgId := row.key.orgId
  productId := row.key.productId
  metricId := row.key.metricId
  sla := row.key.sla
  purpose := row.key.purpose
  provider := row.key.provider.text
  accountId := row.key.accountId
  period := row.key.period.text
  remitted := row.remitted
  gratis := row.gratis
  factor := row.factor
  lastTotal := row.lastTotal
  status := row.status.text
  errorCode := row.errorCode.map (·.text)
  billedOn := row.billedOn.map (·.toMicroseconds)
  retryAfter := row.retryAfter.map (·.toMicroseconds)
  tallyId := row.tallyId
  pendingDate := row.pendingDate.toMicroseconds
  updatedAt := row.updatedAt.toMicroseconds

/-- A name in the ledger that stands for nothing. -/
def unknown (kind name : String) : BillingError :=
  .invalidMessage ("unknown " ++ kind ++ " \x60" ++ name ++ "\x60 in ledger")

/-- The value of a name, or the complaint about it. -/
def read {β : Type} (kind : String) (ofText? : String → Option β) (name : String) :
    Except BillingError β :=
  match ofText? name with
  | some value => .ok value
  | none => .error (unknown kind name)

def toRow (stored : StoredRemittance α) : Except BillingError (Remittance α) := do
  let provider ← read "billing provider" Provider.ofText? stored.provider
  let status ← read "remittance status" RemittanceStatus.ofText? stored.status
  let errorCode ← stored.errorCode.mapM (read "error code" RemittanceErrorCode.ofText?)
  return {
    id := stored.id
    key := {
      orgId := stored.orgId
      productId := stored.productId
      metricId := stored.metricId
      sla := stored.sla
      purpose := stored.purpose
      provider
      accountId := stored.accountId
      period := ⟨stored.period⟩ }
    remitted := stored.remitted
    gratis := stored.gratis
    factor := stored.factor
    lastTotal := stored.lastTotal
    status
    errorCode
    billedOn := stored.billedOn
    retryAfter := stored.retryAfter
    tallyId := stored.tallyId
    pendingDate := stored.pendingDate
    updatedAt := stored.updatedAt }

def record [Amount α] : Record (Json α) (StoredRemittance α) :=
  mk <$> .required "id" .uuid <*> .required "org_id" .text <*> .required "product_id" .text
    <*> .required "metric_id" .text <*> .required "sla" .text <*> .required "usage" .text
    <*> .required "billing_provider" .text <*> .required "billing_account_id" .text
    <*> .required "accumulation_period" .text <*> .required "remitted_value" .amount
    <*> .required "gratis_value" .amount <*> .required "billing_factor" .amount
    <*> .required "last_current_total" .amount <*> .required "status" .text
    <*> .optional "error_code" .text <*> .optional "billed_on" .instant
    <*> .optional "retry_after" .instant <*> .required "tally_id" .uuid
    <*> .required "remittance_pending_date" .instant <*> .required "updated_at" .instant

end StoredRemittance

/-- The columns of a claimed message. -/
structure StoredDelivery (α : Type) where
  id : Int
  topic : String
  payload : Json α
  headers : Json α
  attempts : Int

namespace StoredDelivery

variable {α : Type}

def toDelivery [Amount α] (stored : StoredDelivery α) : Except BillingError (Delivery α) :=
  match Decoder.texts stored.headers with
  | .ok headers => .ok ⟨stored.id, stored.topic, stored.payload, headers, stored.attempts⟩
  | .error fault => .error (.serialization (fault.wording .operators))

def record [Amount α] : Record (Json α) (StoredDelivery α) :=
  mk <$> .required "id" .int <*> .required "topic" .text <*> .required "payload" .ok
    <*> .required "headers" .ok <*> .required "attempts" .int

end StoredDelivery
end MeteredBilling.Sql
