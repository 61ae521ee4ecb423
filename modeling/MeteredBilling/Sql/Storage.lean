import MeteredBilling.Sql.Session

/-!
# Storage in a database

The rows and messages of the engine behind a session. A row and its event are written in one
transaction; every other operation is a statement by itself.
-/

namespace MeteredBilling.Sql

open Calendar Engine

namespace Session

variable {ρ α β : Type} [Server ρ α]

/-- The rows of a reply as remittances; the first one that makes no sense is an error. -/
def rowsOf (statement : Statement α) : Engine (Session ρ α) α (List (Remittance α)) := do
  let reply ← send statement
  ofResult (reply.remittanceRows.mapM (·.toRow))

/-- The first row of a reply, if it has one. -/
def rowOf? (statement : Statement α) : Engine (Session ρ α) α (Option (Remittance α)) := do
  let reply ← send statement
  ofResult (reply.remittanceRows.head?.mapM (·.toRow))

def countOf (statement : Statement α) : Engine (Session ρ α) α Nat := do
  return (← send statement).rowsAffected

def enqueue (message : Outbound α) : Engine (Session ρ α) α Int := do
  firstOf (← send (.enqueue message)).numberRows

def putRow (row : Remittance α) : Engine (Session ρ α) α (Remittance α) := do
  let stored ← firstOf (← send (.putRow (.ofRow row))).remittanceRows
  ofResult stored.toRow

/-- The work of a transaction that reconciles a key. -/
def reconcileWork (key : RemittanceKey) (decide : Decide α) :
    Engine (Session ρ α) α (Outcome α) := do
  match ← Engine.decide decide (← rowOf? (.lockRow key)) with
  | .keep calculation => return ⟨calculation, none⟩
  | .write calculation row event =>
    let written ← putRow row
    if let some event := event then discard (enqueue event)
    return ⟨calculation, some written⟩

/-- The work of a transaction that puts a row back to pending; its event goes out before the row is
looked at. -/
def markRetryWork (id : Uuid) (retryAfter : Instant) (republish : Option (Outbound α)) :
    Engine (Session ρ α) α (Option (Remittance α)) := do
  match (← send (.reschedule id retryAfter)).remittanceRows with
  | [] => return none
  | stored :: _ =>
    if let some event := republish then discard (enqueue event)
    return some (← ofResult stored.toRow)

instance : RowStore (Session ρ α) α where
  reconcile key decide := within (reconcileWork key decide)
  findByKey key := rowOf? (.rowOfKey key)
  find filter := return Remittance.listing (← rowsOf (.rowsOf filter))
  findByTally tallyId := return Remittance.listing (← rowsOf (.rowsOfTally tallyId))
  updateStatus ids update := countOf (.settleRows ids update)
  markRetry id retryAfter republish := within (markRetryWork id retryAfter republish)
  deleteOlderThan orgId cutoff := countOf (.deleteOlder orgId cutoff)
  deleteByOrg orgId := countOf (.deleteOrg orgId)
  resetRemitted request := countOf (.resetAmounts request)
  failStuck cutoff := countOf (.failStuck cutoff)

/-- Deliveries claimed before this moment count as abandoned. -/
def staleBefore : Engine (Session ρ α) α Instant := do
  let w ← get
  onCalendar (w.now.minus? w.storage.policy.visibilityTimeout.toSpan)

/-- Gives up what was abandoned for good, and takes the message that is due the longest. -/
def claimNext [Amount α] (topic : String) : Engine (Session ρ α) α (Option (Delivery α)) := do
  let stale ← staleBefore
  discard (send (.expire topic stale (← get).storage.policy.maxAttempts))
  let reply ← send (.claim topic stale)
  ofResult (reply.deliveryRows.head?.mapM (·.toDelivery))

instance [Amount α] : MessageBus (Session ρ α) α where
  publish := enqueue
  claim := claimNext
  ack delivery := do discard (send (.ack delivery.id))
  retry delivery reason := do
    let w ← get
    let policy := w.storage.policy
    let time ← onCalendar (w.now.plus? (policy.backoff delivery.attempts).toSpan)
    discard (send (.release delivery.id policy.maxAttempts time reason))
  poison delivery reason := do discard (send (.poison delivery.id reason))

end Session
end MeteredBilling.Sql
