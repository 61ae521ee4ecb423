import MeteredBilling.Engine.World
import MeteredBilling.Message.Backoff
import MeteredBilling.Sql.Statement

/-!
# Sessions

A connection to a database: statements and the replies to them, and transactions that run anew as a
whole after a conflict with another one. A transaction is a block of statements: its start, its
isolation, the work, and its end.
-/

namespace MeteredBilling.Sql

open Calendar Engine

inductive Reply (α : Type)
  | remittances (rows : List (StoredRemittance α))
  | deliveries (rows : List (StoredDelivery α))
  | numbers (rows : List Int)
  | affected (count : Nat)
  /-- The statement failed with a state code and a text. -/
  | refused (code text : String)
  /-- The connection is gone. -/
  | closed

namespace Reply

variable {α : Type}

def remittanceRows : Reply α → List (StoredRemittance α)
  | remittances rows => rows
  | _ => []

def deliveryRows : Reply α → List (StoredDelivery α)
  | deliveries rows => rows
  | _ => []

def numberRows : Reply α → List Int
  | numbers rows => rows
  | _ => []

def rowsAffected : Reply α → Nat
  | affected count => count
  | _ => 0

end Reply

/-- A database server. -/
class Server (ρ : Type) (α : outParam Type) where
  answer : Statement α → ρ → Reply α × ρ

structure Session (ρ α : Type) where
  server : ρ
  /-- The statements sent, the latest last. -/
  sent : List (Statement α)
  /-- How often a transaction is attempted. -/
  maxAttempts : Nat
  policy : DeliveryPolicy

namespace Session

variable {ρ α β : Type} [Server ρ α]

/-- Sends a statement; a reply that is a failure becomes an error. -/
def send (statement : Statement α) : Engine (Session ρ α) α (Reply α) := do
  let w ← get
  let (reply, server) := Server.answer statement w.storage.server
  set { w with storage := { w.storage with server, sent := w.storage.sent ++ [statement] } }
  match reply with
  | .refused code text => throw (.persistence (.refused code text))
  | .closed => throw (.persistence .disconnected)
  | reply => return reply

/-- The first row of a reply. -/
def firstOf (rows : List β) : Engine (Session ρ α) α β :=
  match rows with
  | row :: _ => return row
  | [] => throw (.persistence .rowNotFound)

/-! ### Transactions -/

/-- Serialization failures and violations of uniqueness pass with another attempt. -/
def isConflict : BillingError → Bool
  | .persistence (.refused code _) => code = "40001" || code = "23505"
  | _ => false

/-- Gives up a transaction: it is rolled back, whatever comes of that, unless the connection is
gone. -/
def abandon (cause : BillingError) : Engine (Session ρ α) α PUnit := do
  if cause ≠ .persistence .disconnected then discard (attempt (send .rollback))

/-- Starts a block. -/
def openBlock : Engine (Session ρ α) α PUnit := do
  discard (send .begin)
  match ← attempt (send .serializable) with
  | .ok _ => return
  | .error e => do
    abandon e
    throw e

/-- Rolls a failed block back. A failure to do so is reported, and the block is given up. -/
def rollBack (cause : BillingError) : Engine (Session ρ α) α PUnit := do
  if cause = .persistence .disconnected then notice .rollbackFailed
  else match ← attempt (send .rollback) with
    | .ok _ => return
    | .error e => do
      notice .rollbackFailed
      abandon e

/-- Ends a block by what came of its work. -/
def closeBlock (result : Except BillingError β) :
    Engine (Session ρ α) α (Except BillingError β) := do
  match result with
  | .ok value =>
    match ← attempt (send .commit) with
    | .ok _ => return .ok value
    | .error e => do
      abandon e
      return .error e
  | .error e => do
    rollBack e
    return .error e

/-- Runs work in a block of its own, and after a conflict up to `left` times anew, where the first
block counts as the `number`-th. -/
def withinFrom (work : Engine (Session ρ α) α β) :
    (left number : Nat) → Engine (Session ρ α) α β
  | left, number => do
    openBlock
    let result ← attempt work
    match ← closeBlock result, left with
    | .ok value, _ => return value
    | .error e, 0 => throw e
    | .error e, left + 1 =>
      if isConflict e then do
        notice (.transactionConflict number)
        withinFrom work left (number + 1)
      else throw e

/-- Runs work in a transaction, with the session's number of attempts, and one at the least. -/
def within (work : Engine (Session ρ α) α β) : Engine (Session ρ α) α β := do
  withinFrom work ((← get).storage.maxAttempts - 1) 1

end Session
end MeteredBilling.Sql
