import MeteredBilling.Calendar.Rfc3339
import MeteredBilling.Reading.Fault

/-!
# Failures

What can go wrong in billing, what to do with a message that met it, and the wording of each cause.
-/

namespace MeteredBilling

/-- How a message that failed is settled. -/
inductive Disposition
  /-- Left for redelivery. -/
  | retry
  /-- Kept for manual remediation. -/
  | reject
  deriving DecidableEq, Repr

inductive DatabaseError
  | rowNotFound
  /-- The server refused a statement with a state code and a text of its own. -/
  | refused (code text : String)
  | disconnected
  deriving DecidableEq, Repr

namespace DatabaseError

def wording (audience : Audience) : DatabaseError → String
  | rowNotFound => "no rows returned by a query that expected to return at least one row"
  | refused _ text => "error returned from database: " ++ text
  | disconnected =>
    "error communicating with database: "
      ++ audience.hears "expected to read 5 bytes, got 0 bytes at EOF"

end DatabaseError

inductive BillingError
  | configuration (text : String)
  | contractMissing (text : String)
  | externalService (text : String)
  | invalidUnit (text : String)
  | usageRegression (key previous current : String)
  | invalidMessage (text : String)
  /-- A message whose payload is no value of its topic. -/
  | undecodable (topic : String) (messageId : Int) (cause : DecodeError)
  /-- A dead letter whose header names no moment. -/
  | invalidRetryAfter (raw : String) (fault : Calendar.TimestampFault)
  | persistence (cause : DatabaseError)
  /-- A value that cannot be read or written, in the words of the reader. -/
  | serialization (detail : String)
  deriving DecidableEq, Repr

namespace BillingError

def disposition : BillingError → Disposition
  | contractMissing _ | externalService _ | persistence _ => .retry
  | configuration _ | invalidUnit _ | usageRegression .. | invalidMessage _ | undecodable ..
  | invalidRetryAfter .. | serialization _ => .reject

def code : BillingError → String
  | configuration _ => "configuration_error"
  | contractMissing _ => "contract_missing"
  | externalService _ => "external_service_error"
  | invalidUnit _ => "invalid_unit"
  | usageRegression .. => "usage_regression"
  | invalidMessage _ | undecodable .. | invalidRetryAfter .. => "invalid_message"
  | persistence _ => "persistence_error"
  | serialization _ => "serialization_error"

def wording (audience : Audience) : BillingError → String
  | configuration text => "configuration error: " ++ text
  | contractMissing text => "contract missing: " ++ text
  | externalService text => "external service error: " ++ text
  | invalidUnit text => "invalid unit: " ++ text
  | usageRegression key previous current =>
    "usage regressed from " ++ previous ++ " to " ++ current ++ " for " ++ key
  | invalidMessage text => "invalid message: " ++ text
  | undecodable topic messageId cause =>
    "invalid message: undecodable " ++ topic ++ " message " ++ toString messageId ++ ": "
      ++ cause.wording audience
  | invalidRetryAfter raw fault =>
    "invalid message: invalid retry_after header \x60" ++ raw ++ "\x60: "
      ++ audience.hears fault.message
  | persistence cause => "database error: " ++ cause.wording audience
  | serialization detail => "serialization error: " ++ audience.hears detail

def message : BillingError → String := wording .callers

end BillingError

/-- A failed request to the administration interface. -/
inductive RequestError
  | storage (cause : DatabaseError)
  | billing (cause : BillingError)
  | notFound
  | badRequest (text : String)
  | other (text : String)
  deriving DecidableEq, Repr

namespace RequestError

def status : RequestError → Nat
  | notFound => 404
  | badRequest _ => 400
  | billing cause => if cause.code = "invalid_message" then 400 else 500
  | storage _ | other _ => 500

def message : RequestError → String
  | storage cause => "database error: " ++ cause.wording .callers
  | billing cause => "billing error: " ++ cause.message
  | notFound => "not found"
  | badRequest text => "bad request: " ++ text
  | other text => text

end RequestError
end MeteredBilling
