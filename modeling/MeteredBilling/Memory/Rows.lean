import MeteredBilling.Emission.Feedback
import MeteredBilling.Remittance.Selection

/-!
# Rows in memory

The ledger's rows by key, and what feedback, dead letters, retention and administration do to them.
Every change of a row keeps the key that it is stored under.
-/

namespace MeteredBilling

open Calendar

structure RowTable (α : Type) where
  entries : List (RemittanceKey × Remittance α)

namespace RowTable

variable {α : Type}

def empty : RowTable α := ⟨[]⟩

def rows (t : RowTable α) : List (Remittance α) := t.entries.map (·.2)

def get? (t : RowTable α) (key : RemittanceKey) : Option (Remittance α) := t.entries.lookup key

def putEntry (key : RemittanceKey) (row : Remittance α) :
    List (RemittanceKey × Remittance α) → List (RemittanceKey × Remittance α)
  | [] => [(key, row)]
  | entry :: rest => if entry.1 = key then (key, row) :: rest else entry :: putEntry key row rest

/-- Stores a row under a key, in the place of the one that was there. -/
def put (t : RowTable α) (key : RemittanceKey) (row : Remittance α) : RowTable α :=
  ⟨putEntry key row t.entries⟩

def collect (t : RowTable α) (select : Remittance α → Bool) : List (Remittance α) :=
  Remittance.listing (t.rows.filter select)

def count (t : RowTable α) (select : Remittance α → Bool) : Nat := (t.rows.filter select).length

/-- Changes the selected rows. -/
def modify (t : RowTable α) (select : Remittance α → Bool)
    (change : Remittance α → Remittance α) : RowTable α :=
  ⟨t.entries.map fun (key, row) => (key, if select row then change row else row)⟩

def changeFirst (select : Remittance α → Bool) (change : Remittance α → Remittance α) :
    List (RemittanceKey × Remittance α) → List (RemittanceKey × Remittance α)
  | [] => []
  | entry :: rest =>
    if select entry.2 then (entry.1, change entry.2) :: rest
    else entry :: changeFirst select change rest

/-- Changes the first of the selected rows. -/
def modifyFirst (t : RowTable α) (select : Remittance α → Bool)
    (change : Remittance α → Remittance α) : RowTable α :=
  ⟨changeFirst select change t.entries⟩

def remove (t : RowTable α) (select : Remittance α → Bool) : RowTable α :=
  ⟨t.entries.filter fun (_, row) => !select row⟩

/-- Feedback concerns the listed rows that wait for the acknowledgement of its tally. -/
def awaits (ids : List Uuid) (update : StatusUpdate) (row : Remittance α) : Bool :=
  ids.contains row.id && row.tallyId == update.tallyId && row.status == .pending

def acknowledge (update : StatusUpdate) (now : Instant) (row : Remittance α) : Remittance α :=
  { row with
    status := update.status
    errorCode := update.errorCode
    billedOn := update.billedOn
    updatedAt := now }

/-- Puts a row back to pending, to be delivered again. -/
def reschedule (retryAfter now : Instant) (row : Remittance α) : Remittance α :=
  { row with
    status := .pending
    retryAfter := some retryAfter
    billedOn := none
    errorCode := none
    updatedAt := now }

def resetAmounts [Zero α] (now : Instant) (row : Remittance α) : Remittance α :=
  { row with remitted := 0, gratis := 0, lastTotal := 0, updatedAt := now }

/-- Still pending, and since before the cutoff. -/
def isStuck (cutoff : Instant) (row : Remittance α) : Bool :=
  row.status == .pending && row.pendingDate < cutoff

def giveUp (now : Instant) (row : Remittance α) : Remittance α :=
  { row with status := .failed, errorCode := some .unknown, updatedAt := now }

def isExpired (orgId : String) (cutoff : Instant) (row : Remittance α) : Bool :=
  row.key.orgId == orgId && row.pendingDate < cutoff

end RowTable
end MeteredBilling
