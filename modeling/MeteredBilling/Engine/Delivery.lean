import MeteredBilling.Engine.Feedback
import MeteredBilling.Engine.Retention

/-!
# Deliveries

A claimed message is decoded and handled by its topic, and settled by what came of it: done with,
left for redelivery, or kept for remediation.
-/

namespace MeteredBilling

inductive Settlement
  | acked
  | retried
  | poisoned
  deriving DecidableEq, Repr

namespace Settlement

def text : Settlement → String
  | acked => "acked"
  | retried => "retried"
  | poisoned => "poisoned"

end Settlement

namespace Engine

variable {σ α β : Type} [RowStore σ α] [MessageBus σ α]

omit [RowStore σ α] [MessageBus σ α] in
/-- The payload as a value of the topic. -/
def decodePayload [Amount α] (delivery : Delivery α) (record : Record (Json α) β) : Engine σ α β :=
  match record.decoder delivery.payload.canonical with
  | .ok value => return value
  | .error e =>
    throw (.undecodable delivery.topic delivery.id e)

omit [MessageBus σ α] in
def handle [Amount α] (settings : EngineSettings α) (delivery : Delivery α) : Engine σ α PUnit := do
  if delivery.topic = Topic.tallySummary then
    discard (processSummary settings (← decodePayload delivery TallySummary.record))
  else if delivery.topic = Topic.usageStatus then
    discard (handleStatus (← decodePayload delivery StatusFeedback.record))
  else if delivery.topic = Topic.deadLetter then
    let event ← decodePayload delivery BillingEvent.record
    discard (handleDeadLetter event (delivery.headers.value? retryAfterHeader))
  else if delivery.topic = Topic.enabledOrgs then
    discard (purge settings (← decodePayload delivery EnabledOrg.record).orgId)
  else throw (.invalidMessage ("no handler for topic " ++ delivery.topic))

omit [RowStore σ α] in
/-- Settles a delivery by what came of it. -/
def settle (delivery : Delivery α) : Except BillingError PUnit → Engine σ α Settlement
  | .ok _ => do
    MessageBus.ack delivery
    return .acked
  | .error e =>
    match e.disposition with
    | .retry => do
      notice (.redelivery delivery.id delivery.attempts e.code)
      MessageBus.retry delivery (.failure e)
      return .retried
    | .reject => do
      notice (.remediation delivery.id e.code)
      MessageBus.poison delivery (.failure e)
      return .poisoned

/-- Claims, handles and settles one message, if one is due. -/
def processNext [Amount α] (settings : EngineSettings α) (topic : String) :
    Engine σ α (Option Settlement) := do
  match ← MessageBus.claim topic with
  | none => return none
  | some delivery =>
    let outcome ← attempt (handle settings delivery)
    return some (← settle delivery outcome)

/-- Processes messages of a topic until none is due, `limit` at the most. -/
def drain [Amount α] (settings : EngineSettings α) (topic : String) : Nat → Engine σ α PUnit
  | 0 => return
  | limit + 1 => do
    if (← processNext settings topic).isSome then drain settings topic limit

/-- Processes messages until none is due on the topics that are consumed, `limit` of each at the
most. -/
def drainAll [Amount α] (settings : EngineSettings α) (limit : Nat) : Engine σ α PUnit :=
  Topic.consumed.forM fun topic => drain settings topic limit

/-- There are as many workers for each topic as are asked for, and one at the least. -/
def workerCount (concurrency : Nat) : Nat := max concurrency 1 * Topic.consumed.length

end Engine
end MeteredBilling
