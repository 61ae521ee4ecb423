import MeteredBilling.Engine.Billing

/-!
# Retention

Rows of an organisation that have been kept for longer than the settings ask for are deleted, on a
message that names the organisation.
-/

namespace MeteredBilling

/-- The message that asks for the old rows of an organisation to be deleted. -/
structure EnabledOrg where
  orgId : String
  deriving DecidableEq, Repr

namespace EnabledOrg

def record {ν : Type} [Source ν] : Record ν EnabledOrg :=
  .titled "EnabledOrg" <| mk <$> .required "org_id" .text

def toJson {α : Type} (org : EnabledOrg) : Json α := .obj [("org_id", .str org.orgId)]

end EnabledOrg

namespace Engine

variable {σ α : Type} [RowStore σ α]

/-- Deletes the rows past retention and tells how many; nothing is done if all are kept. -/
def purge (settings : EngineSettings α) (orgId : String) : Engine σ α (Option Nat) :=
  match settings.retention with
  | none => return none
  | some retention => do
    let cutoff ← onCalendar ((← now).minus? retention)
    return some (← RowStore.deleteOlderThan orgId cutoff)

end Engine
end MeteredBilling
