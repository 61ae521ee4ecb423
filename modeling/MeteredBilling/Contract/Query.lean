import MeteredBilling.Contract.Basic
import MeteredBilling.Failure
import MeteredBilling.Usage.Observation

/-!
# Contract lookups

The dimensions by which the contracts that cover an observation are asked for.
-/

namespace MeteredBilling

open Calendar

structure ContractQuery where
  orgId : String
  productId : String
  vendorProductCode : Option String
  provider : Provider
  accountId : String
  timestamp : Instant
  deriving DecidableEq, Repr

namespace ContractQuery

def ofUsage {α : Type} (usage : Usage α) : ContractQuery where
  orgId := usage.orgId
  productId := usage.productId
  vendorProductCode := usage.vendorProductCode
  provider := usage.provider
  accountId := usage.accountId
  timestamp := usage.snapshotDate

/-- The parameters in the order of the request; the product code is left out if it is absent. -/
def parameters (query : ContractQuery) : List (String × String) :=
  let code := match query.vendorProductCode with
    | some code => [("vendor_product_code", code)]
    | none => []
  [("org_id", query.orgId), ("product_tag", query.productId)] ++ code
    ++ [("billing_provider", query.provider.text), ("billing_account_id", query.accountId),
      ("timestamp", query.timestamp.timestamp)]

def record {ν : Type} [Source ν] : Record ν ContractQuery :=
  mk <$> .required "org_id" .text <*> .required "product_id" .text
    <*> .optional "vendor_product_code" .text <*> .required "billing_provider" Provider.decoder
    <*> .required "billing_account_id" .text <*> .required "timestamp" .instant

end ContractQuery

/-- What the contract service answers. -/
abbrev ContractService (α : Type) := ContractQuery → Except BillingError (List (Contract α))

namespace ContractService

/-- Answers with the contracts of the organisation and product, unless the service is down. -/
def ofList {α : Type} (failure : Option BillingError) (contracts : List (Contract α)) :
    ContractService α := fun query =>
  match failure with
  | some e => .error e
  | none => .ok (contracts.filter fun c => c.orgId == query.orgId && c.productId == query.productId)

end ContractService
end MeteredBilling
