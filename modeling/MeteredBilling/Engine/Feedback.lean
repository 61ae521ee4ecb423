import MeteredBilling.Emission.DeadLetter
import MeteredBilling.Emission.Event
import MeteredBilling.Engine.World

/-!
# Feedback on what was emitted

Acknowledgements settle the rows that wait for them, and a dead letter puts its row back to pending
and its event back on the way.
-/

namespace MeteredBilling.Engine

open Calendar

variable {σ α : Type} [RowStore σ α]

/-- Tells operators of rows that feedback did not reach. -/
def reportUnsettled (feedback : StatusFeedback) (changed : Nat) : Engine σ α PUnit :=
  let requested := feedback.remittanceIds.length
  if changed = 0 then notice (.staleFeedback requested feedback.status)
  else if changed < requested then notice (.partialFeedback requested changed feedback.status)
  else pure ⟨⟩

/-- Applies feedback and tells how many rows it settled. -/
def handleStatus (feedback : StatusFeedback) : Engine σ α Nat := do
  if feedback.remittanceIds.isEmpty then
    throw (.invalidMessage "status feedback without remittance ids")
  let update ← ofResult (feedback.toUpdate (← now))
  let changed ← RowStore.updateStatus feedback.remittanceIds update
  reportUnsettled feedback changed
  return changed

/-- Redelivers the event of a dead letter at the moment that its header names, and returns the row,
unless it is gone. -/
def handleDeadLetter [Amount α] (event : BillingEvent α) (header : Option String) :
    Engine σ α (Option (Remittance α)) := do
  let moment ← ofResult (DeadLetter.retryAfter event.remittanceId header)
  let row ← RowStore.markRetry event.remittanceId moment (some (event.toMessage.deliverAt moment))
  if row.isNone then notice .missingRemittance
  return row

end MeteredBilling.Engine
