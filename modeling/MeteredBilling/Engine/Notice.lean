import MeteredBilling.Remittance.Status

/-!
# Notices

What the engine reports to its operators.
-/

namespace MeteredBilling

inductive Severity
  | warning
  | error
  deriving DecidableEq, Repr

namespace Severity

def text : Severity → String
  | warning => "WARN"
  | error => "ERROR"

end Severity

inductive Notice
  | retryingLookup (attempt delayMillis : Nat)
  | contractPending (graceMinutes : Int)
  | contractOverdue (graceMinutes : Int)
  | staleFeedback (requested : Nat) (status : RemittanceStatus)
  | partialFeedback (requested changed : Nat) (status : RemittanceStatus)
  | missingRemittance
  | redelivery (messageId attempts : Int) (code : String)
  | remediation (messageId : Int) (code : String)
  | stuckFailed (count : Nat)
  | transactionConflict (attempt : Nat)
  | rollbackFailed
  deriving DecidableEq, Repr

namespace Notice

def severity : Notice → Severity
  | contractOverdue _ | remediation .. => .error
  | _ => .warning

def message : Notice → String
  | retryingLookup .. => "retrying contract lookup"
  | contractPending _ => "contract not yet available for recent usage"
  | contractOverdue _ => "contract not available for usage past the grace window"
  | staleFeedback .. =>
    "ignoring stale status feedback; rows are settled or were rewritten by a later tally"
  | partialFeedback .. => "status feedback skipped rows that are missing, settled, or rewritten"
  | missingRemittance => "dead-lettered billable usage references a missing remittance"
  | redelivery .. => "message processing failed; scheduling redelivery"
  | remediation .. => "message cannot be processed; preserving for remediation"
  | stuckFailed _ => "failed remittances stuck in pending"
  | transactionConflict _ => "retrying conflicting remittance transaction"
  | rollbackFailed => "failed to roll back remittance transaction"

/-- The values that are reported beside the message. -/
def fields {α : Type} : Notice → List (String × Json α)
  | retryingLookup attempt delay => [("attempt", .int attempt), ("delay_ms", .int delay)]
  | contractPending grace | contractOverdue grace => [("grace_minutes", .int grace)]
  | staleFeedback requested status => [("requested", .int requested), ("status", .str status.text)]
  | partialFeedback requested changed status =>
    [("requested", .int requested), ("changed", .int changed), ("status", .str status.text)]
  | redelivery messageId attempts code =>
    [("message_id", .int messageId), ("attempts", .int attempts), ("code", .str code)]
  | remediation messageId code => [("message_id", .int messageId), ("code", .str code)]
  | stuckFailed count => [("count", .int count)]
  | transactionConflict attempt => [("attempt", .int attempt)]
  | missingRemittance | rollbackFailed => []

end Notice
end MeteredBilling
