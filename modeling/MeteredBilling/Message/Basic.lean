import MeteredBilling.Failure
import MeteredBilling.Json.Source

/-!
# Messages

What is written to a topic, and what is taken from one. Delivery is at least once.
-/

namespace MeteredBilling

open Calendar

namespace Topic

def tallySummary : String := "tally-summary"
def billableUsage : String := "billable-usage-out"
def usageStatus : String := "billable-usage-status"
def deadLetter : String := "billable-usage-dead-letter"
def enabledOrgs : String := "enabled-orgs"

/-- The topics that workers empty, in the order in which they are named. -/
def consumed : List String := [tallySummary, usageStatus, deadLetter, enabledOrgs]

end Topic

/-- Carries the moment of redelivery on a dead letter. -/
def retryAfterHeader : String := "retry_after"

abbrev Headers := List (String × String)

namespace Headers

/-- The last header of that name. -/
def value? (headers : Headers) (name : String) : Option String :=
  (headers.reverse.find? (·.1 == name)).map (·.2)

def toJson {α : Type} (headers : Headers) : Json α :=
  .obj (headers.map fun (name, value) => (name, .str value))

end Headers

/-- A message that waits to be written. -/
structure Outbound (α : Type) where
  topic : String
  payload : Json α
  headers : Headers
  /-- The moment from which it may be delivered; at once if absent. -/
  availableAt : Option Instant

namespace Outbound

variable {α : Type}

def ofPayload (topic : String) (payload : Json α) : Outbound α := ⟨topic, payload, [], none⟩

def deliverAt (message : Outbound α) (at_ : Instant) : Outbound α :=
  { message with availableAt := some at_ }

end Outbound

/-- A claimed message; `attempts` counts this delivery. -/
structure Delivery (α : Type) where
  id : Int
  topic : String
  payload : Json α
  headers : Headers
  attempts : Int

/-- Why a delivery is released or kept. -/
inductive Complaint
  | failure (cause : BillingError)
  | remark (text : String)
  deriving DecidableEq, Repr

namespace Complaint

def wording (audience : Audience) : Complaint → String
  | failure cause => cause.code ++ ": " ++ cause.wording audience
  | remark text => text

end Complaint

inductive MessageStatus
  | queued
  | processing
  | poisoned
  | dead
  | acked
  deriving DecidableEq, Repr

namespace MessageStatus

def text : MessageStatus → String
  | queued => "queued"
  | processing => "processing"
  | poisoned => "poisoned"
  | dead => "dead"
  | acked => "acked"

end MessageStatus
end MeteredBilling
