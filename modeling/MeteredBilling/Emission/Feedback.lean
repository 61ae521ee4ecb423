import MeteredBilling.Failure
import MeteredBilling.Remittance.Status

/-!
# Feedback on emissions

A marketplace acknowledges emissions, or reports them failed, by remittance and tally. A dead letter
names the moment from which its emission may be delivered again.
-/

namespace MeteredBilling

open Calendar

/-- What feedback writes to the rows that still wait for the acknowledgement of a tally. -/
structure StatusUpdate where
  tallyId : Uuid
  status : RemittanceStatus
  errorCode : Option RemittanceErrorCode
  billedOn : Option Instant
  deriving DecidableEq, Repr

/-- Feedback on the emission of a tally for some remittances. -/
structure StatusFeedback where
  remittanceIds : List Uuid
  tallyId : Uuid
  status : RemittanceStatus
  errorCode : Option RemittanceErrorCode
  billedOn : Option Instant
  deriving DecidableEq, Repr

namespace StatusFeedback

/-- Success clears the error and dates the bill; failure has a cause and no date. -/
def toUpdate (feedback : StatusFeedback) (now : Instant) : Except BillingError StatusUpdate :=
  match feedback.status with
  | .succeeded => .ok ⟨feedback.tallyId, .succeeded, none, some (feedback.billedOn.getD now)⟩
  | .failed => .ok ⟨feedback.tallyId, .failed, some (feedback.errorCode.getD .unknown), none⟩
  | other => .error (.invalidMessage ("status feedback must be terminal, got " ++ other.text))

def record {ν : Type} [Source ν] : Record ν StatusFeedback :=
  .titled "BillableUsageStatus" <| mk <$> .required "remittance_ids" (.list .uuid)
    <*> .required "tally_id" .uuid
    <*> .required "status" RemittanceStatus.decoder
    <*> .optional "error_code" RemittanceErrorCode.decoder <*> .optional "billed_on" .instant

def toJson {α : Type} (feedback : StatusFeedback) : Json α :=
  .obj [("remittance_ids", .arr (feedback.remittanceIds.map fun id => .str id.text)),
    ("tally_id", .str feedback.tallyId.text), ("status", .str feedback.status.text),
    ("error_code", .ofText? (feedback.errorCode.map (·.text))),
    ("billed_on", .ofText? (feedback.billedOn.map (·.timestamp)))]

end StatusFeedback
end MeteredBilling
