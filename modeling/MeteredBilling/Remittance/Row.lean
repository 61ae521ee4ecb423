import MeteredBilling.Remittance.Status
import MeteredBilling.Usage.Key

/-!
# Remittances

The ledger's row for a billing key: what was billed and what was given free so far, both in units
of the row's own factor, and the state of the last emission.
-/

namespace MeteredBilling

open Calendar

structure Remittance (α : Type) where
  id : Uuid
  key : RemittanceKey
  /-- Billed so far. -/
  remitted : α
  /-- Consumed against gratis contracts so far. -/
  gratis : α
  factor : α
  /-- The highest total that advanced the row, in metric units. -/
  lastTotal : α
  status : RemittanceStatus
  errorCode : Option RemittanceErrorCode
  billedOn : Option Instant
  retryAfter : Option Instant
  /-- The tally that the last emission came from. -/
  tallyId : Uuid
  pendingDate : Instant
  updatedAt : Instant

namespace Remittance

variable {α : Type} [Amount α]

def record : Record (Json α) (Remittance α) :=
  let build id remitted gratis factor lastTotal status errorCode billedOn retryAfter tallyId
      pendingDate updatedAt key : Remittance α :=
    ⟨id, key, remitted, gratis, factor, lastTotal, status, errorCode, billedOn, retryAfter, tallyId,
      pendingDate, updatedAt⟩
  .followedBy
    (build <$> .required "id" .uuid <*> .required "remitted_value" .amount
      <*> .required "gratis_value" .amount <*> .required "billing_factor" .amount
      <*> .required "last_current_total" .amount
      <*> .required "status" RemittanceStatus.decoder
      <*> .optional "error_code" RemittanceErrorCode.decoder <*> .optional "billed_on" .instant
      <*> .optional "retry_after" .instant <*> .required "tally_id" .uuid
      <*> .required "remittance_pending_date" .instant <*> .required "updated_at" .instant)
    RemittanceKey.record

def instantJson : Option Instant → Json α
  | some t => .str t.timestamp
  | none => .null

def toJson (row : Remittance α) : Json α :=
  .obj (("id", .str row.id.text) :: row.key.members ++
    [("remitted_value", .ofAmount row.remitted), ("gratis_value", .ofAmount row.gratis),
      ("billing_factor", .ofAmount row.factor), ("last_current_total", .ofAmount row.lastTotal),
      ("status", .str row.status.text), ("error_code", .ofText? (row.errorCode.map (·.text))),
      ("billed_on", instantJson row.billedOn), ("retry_after", instantJson row.retryAfter),
      ("tally_id", .str row.tallyId.text),
      ("remittance_pending_date", .str row.pendingDate.timestamp),
      ("updated_at", .str row.updatedAt.timestamp)])

omit [Amount α] in
/-- Earlier pending dates first, and smaller identifiers on a tie. -/
def listedBefore (a b : Remittance α) : Bool :=
  a.pendingDate < b.pendingDate || (a.pendingDate == b.pendingDate && a.id.bits ≤ b.id.bits)

omit [Amount α] in
def listing (rows : List (Remittance α)) : List (Remittance α) := rows.mergeSort listedBefore

end Remittance
end MeteredBilling
