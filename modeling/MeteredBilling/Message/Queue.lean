import MeteredBilling.Message.Backoff
import MeteredBilling.Message.Basic

/-!
# Message queues

A queue in memory. Messages stay on record under the number of their arrival; a claim takes the
message that is due the longest, and the settlement of a delivery decides what becomes of it.
-/

namespace MeteredBilling

open Calendar

structure QueuedMessage (α : Type) where
  id : Nat
  topic : String
  payload : Json α
  headers : Headers
  status : MessageStatus
  attempts : Int
  availableAt : Instant
  lastError : Option Complaint

namespace QueuedMessage

variable {α : Type}

def isDue (m : QueuedMessage α) (topic : String) (now : Instant) : Bool :=
  m.topic == topic && m.status == .queued && m.availableAt ≤ now

/-- Due the longer of two, and on a tie the first to arrive. -/
def precedes (m other : QueuedMessage α) : Bool :=
  m.availableAt < other.availableAt || (m.availableAt == other.availableAt && m.id < other.id)

/-- The message as its next delivery. -/
def deliver (m : QueuedMessage α) : Delivery α :=
  ⟨m.id, m.topic, m.payload, m.headers, m.attempts + 1⟩

end QueuedMessage

structure MessageQueue (α : Type) where
  policy : DeliveryPolicy
  /-- All messages in the order of their arrival. -/
  messages : List (QueuedMessage α)

namespace MessageQueue

variable {α : Type}

def empty (policy : DeliveryPolicy) : MessageQueue α := ⟨policy, []⟩

/-- Messages are numbered from 1. -/
def nextId (q : MessageQueue α) : Nat := q.messages.length + 1

def publish (q : MessageQueue α) (message : Outbound α) (now : Instant) : MessageQueue α :=
  { q with messages := q.messages ++
      [⟨q.nextId, message.topic, message.payload, message.headers, .queued, 0,
        message.availableAt.getD now, none⟩] }

def publish? (q : MessageQueue α) (message : Option (Outbound α)) (now : Instant) :
    MessageQueue α :=
  match message with
  | some message => q.publish message now
  | none => q

/-- The message of a topic that is due the longest. -/
def next? (q : MessageQueue α) (topic : String) (now : Instant) : Option (QueuedMessage α) :=
  (q.messages.filter (·.isDue topic now)).foldl
    (fun best m => match best with
      | some b => if m.precedes b then some m else some b
      | none => some m)
    none

/-- Changes the message of that number. -/
def modify (q : MessageQueue α) (id : Int) (change : QueuedMessage α → QueuedMessage α) :
    MessageQueue α :=
  { q with messages := q.messages.map fun m => if (m.id : Int) = id then change m else m }

def claim (q : MessageQueue α) (topic : String) (now : Instant) :
    Option (Delivery α) × MessageQueue α :=
  match q.next? topic now with
  | some m =>
    (some m.deliver,
      q.modify m.id fun m => { m with status := .processing, attempts := m.attempts + 1 })
  | none => (none, q)

/-- Settles the message of that number, which has to be on record. -/
def settle (q : MessageQueue α) (id : Int) (change : QueuedMessage α → QueuedMessage α) :
    Except BillingError (MessageQueue α) :=
  if q.messages.any fun m => (m.id : Int) = id then .ok (q.modify id change)
  else .error (.invalidMessage ("unknown message " ++ toString id))

def ack (q : MessageQueue α) (delivery : Delivery α) : Except BillingError (MessageQueue α) :=
  q.settle delivery.id fun m => { m with status := .acked }

/-- Releases a message for redelivery from a later moment, or for good once its attempts are used
up. -/
def retry (q : MessageQueue α) (delivery : Delivery α) (reason : Complaint)
    (availableAt : Instant) : Except BillingError (MessageQueue α) :=
  q.settle delivery.id fun m =>
    { m with
      status := if q.policy.maxAttempts ≤ m.attempts then .dead else .queued
      availableAt
      lastError := some reason }

/-- The moment from which a failed delivery is due again. -/
def redeliveryTime? (policy : DeliveryPolicy) (delivery : Delivery α) (now : Instant) :
    Option Instant :=
  now.plus? (policy.backoff delivery.attempts).toSpan

def poison (q : MessageQueue α) (delivery : Delivery α) (reason : Complaint) :
    Except BillingError (MessageQueue α) :=
  q.settle delivery.id fun m => { m with status := .poisoned, lastError := some reason }

def payloads (q : MessageQueue α) (topic : String) : List (Json α) :=
  (q.messages.filter (·.topic == topic)).map (·.payload)

/-- No more claims than this can be made before every message is settled for good. -/
def claimsLeft (q : MessageQueue α) : Nat :=
  q.messages.foldl (fun claims m => claims + max 1 (q.policy.maxAttempts - m.attempts).toNat) 0

end MessageQueue
end MeteredBilling
