import MeteredBilling.Json.Source

/-!
# States of a remittance

The states of the cumulative bill of a key, and the causes that a marketplace gives for a failure.
-/

namespace MeteredBilling

inductive RemittanceStatus
  /-- Emitted and not yet acknowledged. -/
  | pending
  | succeeded
  | failed
  /-- Covered free of charge. -/
  | gratis
  deriving DecidableEq, Repr

namespace RemittanceStatus

def text : RemittanceStatus → String
  | pending => "pending"
  | succeeded => "succeeded"
  | failed => "failed"
  | gratis => "gratis"

def names : List (String × RemittanceStatus) :=
  [pending, succeeded, failed, gratis].map fun s => (s.text, s)

def ofText? (name : String) : Option RemittanceStatus := names.lookup name

def decoder {ν : Type} [Source ν] : Decoder ν RemittanceStatus := .variant names

end RemittanceStatus

inductive RemittanceErrorCode
  | inactive
  | subscriptionNotFound
  | usageContextLookup
  | marketplaceRateLimit
  | redundant
  | unknown
  deriving DecidableEq, Repr

namespace RemittanceErrorCode

def text : RemittanceErrorCode → String
  | inactive => "inactive"
  | subscriptionNotFound => "subscription_not_found"
  | usageContextLookup => "usage_context_lookup"
  | marketplaceRateLimit => "marketplace_rate_limit"
  | redundant => "redundant"
  | unknown => "unknown"

def names : List (String × RemittanceErrorCode) :=
  [inactive, subscriptionNotFound, usageContextLookup, marketplaceRateLimit, redundant,
    unknown].map fun c => (c.text, c)

def ofText? (name : String) : Option RemittanceErrorCode := names.lookup name

def decoder {ν : Type} [Source ν] : Decoder ν RemittanceErrorCode := .variant names

end RemittanceErrorCode
end MeteredBilling
