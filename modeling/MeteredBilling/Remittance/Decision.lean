import MeteredBilling.Emission.Event
import MeteredBilling.Remittance.Calculation

/-!
# Ledger decisions

What an observation does to the row of its key: nothing, or a new state of the row together with
the event that bills the increment.
-/

namespace MeteredBilling

open Calendar

inductive Decision (α : Type)
  | keep (calculation : Calculation α)
  /-- The row and its event are written together or not at all. -/
  | write (calculation : Calculation α) (row : Remittance α) (event : Option (Outbound α))

/-- What the ledger reports of an observation, with the row as written. -/
structure Outcome (α : Type) where
  calculation : Calculation α
  row : Option (Remittance α)

/-- Decides at a moment, with an identifier for a new row, on the row so far. -/
abbrev Decide (α : Type) :=
  Instant → Uuid → Option (Remittance α) → Except BillingError (Decision α)

namespace Decision

variable {α : Type} [Amount α]

/-- The row after an observation that advances it. -/
def nextRow (usage : Usage α) (prior : Option (Remittance α)) (calculation : Calculation α)
    (now : Instant) (fresh : Uuid) : Remittance α where
  id := (prior.map (·.id)).getD fresh
  key := usage.key
  remitted := calculation.newRemitted
  gratis := calculation.newGratis
  factor := calculation.factor
  lastTotal :=
    match prior with
    | some row => Amount.larger row.lastTotal usage.currentTotal
    | none => usage.currentTotal
  status := if calculation.gratis then .gratis else .pending
  errorCode := none
  billedOn := none
  retryAfter := none
  tallyId := usage.tallyId
  pendingDate := now
  updatedAt := now

def ofUsage (usage : Usage α) (unit : MeasureUnit α) (coverage : Option (Coverage α)) : Decide α :=
  fun now fresh prior => do
    let calculation ← Calculation.compute usage.currentTotal unit prior coverage
    if calculation.advances then
      let row := nextRow usage prior calculation now fresh
      let event := (BillingEvent.ofRow row calculation.billed usage).toMessage
      return .write calculation row (if Amount.lt 0 calculation.billed then some event else none)
    else return .keep calculation

omit [Amount α] in
/-- A decision takes the fresh identifier exactly when it writes a row that was not there. -/
def takesIdentifier (prior : Option (Remittance α)) : Except BillingError (Decision α) → Bool
  | .ok (.write ..) => prior.isNone
  | _ => false

end Decision

namespace Outcome

variable {α : Type} [Amount α]

/-- The billing units emitted for the observation. -/
def billed (outcome : Outcome α) : α := if outcome.row.isSome then outcome.calculation.billed else 0

end Outcome
end MeteredBilling
