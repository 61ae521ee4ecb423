import MeteredBilling.Emission.Feedback
import MeteredBilling.Remittance.Selection
import MeteredBilling.Sql.Stored

/-!
# Statements

What is sent to the database: the operations on the ledger and on the message table, their texts
and their parameters.
-/

namespace MeteredBilling.Sql

open Calendar

/-- A parameter of a statement. -/
inductive Parameter (α : Type)
  | null
  | text (value : String)
  | uuid (value : Uuid)
  | int (value : Int)
  | real (value : α)
  | instant (value : Instant)
  | texts (values : List String)
  | uuids (values : List Uuid)
  | json (value : Json α)

namespace Parameter

variable {α : Type}

def orNull {β : Type} (parameter : β → Parameter α) : Option β → Parameter α
  | some value => parameter value
  | none => null

def toJson : Parameter α → Json α
  | null => .null
  | text value => .str value
  | uuid value => .str value.text
  | int value => .int value
  | real value => .real value
  | instant value => .str value.toMicroseconds.timestamp
  | texts values => .arr (values.map .str)
  | uuids values => .arr (values.map fun id => .str id.text)
  | json value => value

end Parameter

inductive Statement (α : Type)
  | begin
  | serializable
  | commit
  | rollback
  /-- Reads the row of a key and locks it. -/
  | lockRow (key : RemittanceKey)
  | rowOfKey (key : RemittanceKey)
  | rowsOf (filter : RemittanceFilter)
  | rowsOfTally (tallyId : Uuid)
  /-- Writes a row in the place of the one with its key. -/
  | putRow (row : StoredRemittance α)
  | settleRows (ids : List Uuid) (update : StatusUpdate)
  | reschedule (id : Uuid) (retryAfter : Instant)
  | deleteOlder (orgId : String) (cutoff : Instant)
  | deleteOrg (orgId : String)
  | resetAmounts (request : ResetRequest)
  | failStuck (cutoff : Instant)
  | enqueue (message : Outbound α)
  /-- Gives up messages whose last delivery was abandoned. -/
  | expire (topic : String) (staleBefore : Instant) (maxAttempts : Int)
  | claim (topic : String) (staleBefore : Instant)
  | ack (id : Int)
  | release (id maxAttempts : Int) (availableAt : Instant) (reason : Complaint)
  | poison (id : Int) (reason : Complaint)

namespace Statement

variable {α : Type}

def keyColumns : List String :=
  ["org_id", "product_id", "metric_id", "sla", "usage", "billing_provider", "billing_account_id",
    "accumulation_period"]

/-- The columns that a later write of a key replaces. -/
def valueColumns : List String :=
  ["remitted_value", "gratis_value", "billing_factor", "last_current_total", "status",
    "error_code", "billed_on", "retry_after", "tally_id", "remittance_pending_date", "updated_at"]

def columns : String := ", ".intercalate ("id" :: keyColumns ++ valueColumns)

/-- The place of the parameter of that number, counted from 0. -/
def place (i : Nat) : String := "$" ++ String.ofList (Decimal.natText (i + 1))

def selectRows (rest : String) : String :=
  "SELECT " ++ columns ++ " FROM billable_usage_remittance WHERE " ++ rest

/-- The conditions on a key. -/
def keyCondition : String :=
  " AND ".intercalate (keyColumns.zipIdx.map fun (column, i) => column ++ " = " ++ place i)

/-- A condition that is dropped for a parameter that is absent. -/
def ifGiven (i : Nat) (type comparison : String) : String :=
  "(" ++ place i ++ "::" ++ type ++ " IS NULL OR " ++ comparison ++ " " ++ place i ++ ")"

def filterCondition : String :=
  " AND ".intercalate ["org_id = $1", ifGiven 1 "text" "product_id =",
    ifGiven 2 "text" "metric_id =", ifGiven 3 "text" "billing_provider =",
    ifGiven 4 "text" "billing_account_id =", ifGiven 5 "timestamptz" "remittance_pending_date >=",
    ifGiven 6 "timestamptz" "remittance_pending_date <="]

def putText : String :=
  "INSERT INTO billable_usage_remittance ( " ++ columns ++ " ) VALUES ( "
    ++ ", ".intercalate ((List.range 20).map place) ++ " ) ON CONFLICT ( "
    ++ ", ".intercalate keyColumns ++ " ) DO UPDATE SET "
    ++ ", ".intercalate (valueColumns.map fun column => column ++ " = EXCLUDED." ++ column)
    ++ " RETURNING " ++ columns

def text : Statement α → String
  | begin => "BEGIN"
  | serializable => "SET TRANSACTION ISOLATION LEVEL SERIALIZABLE"
  | commit => "COMMIT"
  | rollback => "ROLLBACK"
  | lockRow _ => selectRows (keyCondition ++ " FOR UPDATE")
  | rowOfKey _ => selectRows keyCondition
  | rowsOf _ => selectRows (filterCondition ++ " ORDER BY remittance_pending_date")
  | rowsOfTally _ => selectRows "tally_id = $1 ORDER BY remittance_pending_date"
  | putRow _ => putText
  | settleRows .. =>
    "UPDATE billable_usage_remittance SET status = $2, error_code = $3, billed_on = $4, "
      ++ "updated_at = NOW() WHERE id = ANY($1) AND tally_id = $5 AND status = 'pending'"
  | reschedule .. =>
    "UPDATE billable_usage_remittance SET status = 'pending', retry_after = $2, billed_on = NULL, "
      ++ "error_code = NULL, updated_at = NOW() WHERE id = $1 RETURNING " ++ columns
  | deleteOlder .. =>
    "DELETE FROM billable_usage_remittance WHERE org_id = $1 AND remittance_pending_date < $2"
  | deleteOrg _ => "DELETE FROM billable_usage_remittance WHERE org_id = $1"
  | resetAmounts _ =>
    "UPDATE billable_usage_remittance SET remitted_value = 0, gratis_value = 0, "
      ++ "last_current_total = 0, updated_at = NOW() WHERE product_id = $1 "
      ++ "AND remittance_pending_date BETWEEN $2 AND $3 "
      ++ "AND (org_id = ANY($4) OR billing_account_id = ANY($5))"
  | failStuck _ =>
    "UPDATE billable_usage_remittance SET status = 'failed', error_code = 'unknown', "
      ++ "updated_at = NOW() WHERE status = 'pending' AND remittance_pending_date < $1"
  | enqueue _ =>
    "INSERT INTO message_queue (topic, payload, headers, available_at) "
      ++ "VALUES ($1, $2, $3, COALESCE($4, NOW())) RETURNING id"
  | expire .. =>
    "UPDATE message_queue SET status = 'dead', locked_at = NULL, "
      ++ "last_error = 'visibility timeout exceeded' WHERE topic = $1 AND status = 'processing' "
      ++ "AND locked_at < $2 AND attempts >= $3"
  | claim .. =>
    "UPDATE message_queue SET status = 'processing', locked_at = NOW(), attempts = attempts + 1 "
      ++ "WHERE id = ( SELECT id FROM message_queue WHERE topic = $1 AND available_at <= NOW() "
      ++ "AND (status = 'queued' OR (status = 'processing' AND locked_at < $2)) "
      ++ "ORDER BY available_at, id FOR UPDATE SKIP LOCKED LIMIT 1 ) "
      ++ "RETURNING id, topic, payload, headers, attempts"
  | ack _ => "DELETE FROM message_queue WHERE id = $1"
  | release .. =>
    "UPDATE message_queue SET status = CASE WHEN attempts >= $2 THEN 'dead' ELSE 'queued' END, "
      ++ "available_at = $3, locked_at = NULL, last_error = $4 WHERE id = $1"
  | poison .. =>
    "UPDATE message_queue SET status = 'poisoned', locked_at = NULL, last_error = $2 WHERE id = $1"

/-- The first word of the text. -/
def verb (statement : Statement α) : String :=
  String.ofList (statement.text.toList.takeWhile (· != ' '))

def keyParameters (key : RemittanceKey) : List (Parameter α) :=
  [.text key.orgId, .text key.productId, .text key.metricId, .text key.sla, .text key.purpose,
    .text key.provider.text, .text key.accountId, .text key.period.text]

def rowParameters (row : StoredRemittance α) : List (Parameter α) :=
  [.uuid row.id, .text row.orgId, .text row.productId, .text row.metricId, .text row.sla,
    .text row.purpose, .text row.provider, .text row.accountId, .text row.period,
    .real row.remitted, .real row.gratis, .real row.factor, .real row.lastTotal, .text row.status,
    .orNull .text row.errorCode, .orNull .instant row.billedOn, .orNull .instant row.retryAfter,
    .uuid row.tallyId, .instant row.pendingDate, .instant row.updatedAt]

def parameters : Statement α → List (Parameter α)
  | begin | serializable | commit | rollback => []
  | lockRow key | rowOfKey key => keyParameters key
  | rowsOf filter =>
    [.text filter.orgId, .orNull .text filter.productId, .orNull .text filter.metricId,
      .orNull .text (filter.provider.map (·.text)), .orNull .text filter.accountId,
      .orNull .instant filter.beginning, .orNull .instant filter.ending]
  | rowsOfTally tallyId => [.uuid tallyId]
  | putRow row => rowParameters row
  | settleRows ids update =>
    [.uuids ids, .text update.status.text, .orNull .text (update.errorCode.map (·.text)),
      .orNull .instant update.billedOn, .uuid update.tallyId]
  | reschedule id retryAfter => [.uuid id, .instant retryAfter]
  | deleteOlder orgId cutoff => [.text orgId, .instant cutoff]
  | deleteOrg orgId => [.text orgId]
  | resetAmounts request =>
    [.text request.productId, .instant request.start, .instant request.stop,
      .texts request.orgIds, .texts request.accountIds]
  | failStuck cutoff => [.instant cutoff]
  | enqueue message =>
    [.text message.topic, .json message.payload, .json message.headers.toJson,
      .orNull .instant message.availableAt]
  | expire topic staleBefore maxAttempts =>
    [.text topic, .instant staleBefore, .int maxAttempts]
  | claim topic staleBefore => [.text topic, .instant staleBefore]
  | ack id => [.int id]
  | release id maxAttempts availableAt reason =>
    [.int id, .int maxAttempts, .instant availableAt, .text (reason.wording .operators)]
  | poison id reason => [.int id, .text (reason.wording .operators)]

/-- Statements about the transaction itself, which answer with nothing. -/
def isControl : Statement α → Bool
  | begin | serializable | commit | rollback => true
  | _ => false

end Statement
end MeteredBilling.Sql
