import MeteredBilling.Failure
import MeteredBilling.Message.Basic
import MeteredBilling.Text.Blank

/-!
# Dead letters

The moment of redelivery that a dead letter carries in its header.
-/

namespace MeteredBilling.DeadLetter

open Calendar

/-- Blanks around the timestamp are allowed. -/
def parseRetryAfter (raw : String) : Except BillingError Instant :=
  (Instant.ofTimestamp (Text.trim raw)).mapError (.invalidRetryAfter raw)

/-- A dead letter without the header is rejected. -/
def retryAfter (remittanceId : Uuid) : Option String → Except BillingError Instant
  | some raw => parseRetryAfter raw
  | none =>
    .error (.invalidMessage ("dead letter for remittance " ++ remittanceId.text ++ " has no "
      ++ retryAfterHeader ++ " header"))

end MeteredBilling.DeadLetter
