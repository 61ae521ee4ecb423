import MeteredBilling.Unit
import MeteredBilling.Usage.Key

/-!
# Product catalog

The metrics of each product, how they are billed, and what the marketplaces call them.
-/

namespace MeteredBilling

inductive Granularity
  | hourly
  | daily
  | weekly
  | monthly
  | quarterly
  | yearly
  deriving DecidableEq, Repr

namespace Granularity

def text : Granularity → String
  | hourly => "HOURLY"
  | daily => "DAILY"
  | weekly => "WEEKLY"
  | monthly => "MONTHLY"
  | quarterly => "QUARTERLY"
  | yearly => "YEARLY"

def names : List (String × Granularity) :=
  [hourly, daily, weekly, monthly, quarterly, yearly].map fun g => (g.text, g)

def default : Granularity := hourly

def decoder {ν : Type} [Source ν] : Decoder ν Granularity := .variant names

end Granularity

structure MetricDefinition (α : Type) where
  metricId : String
  factor : α
  /-- Contracts may cover the metric free of charge. -/
  gratis : Bool
  awsDimension : Option String
  azureDimension : Option String
  rhmMetricId : Option String

structure ProductDefinition (α : Type) where
  productId : String
  paygEligible : Bool
  contractEnabled : Bool
  granularity : Granularity
  metrics : List (MetricDefinition α)

namespace MetricDefinition

variable {α : Type} [Amount α]

def record {ν : Type} [Source ν] [AmountSource ν α] : Record ν (MetricDefinition α) :=
  mk <$> .required "metric_id" .text <*> .defaulted "billing_factor" .amount 1
    <*> .defaulted "gratis" .bool false <*> .optional "aws_dimension" .text
    <*> .optional "azure_dimension" .text <*> .optional "rhm_metric_id" .text

def toJson (metric : MetricDefinition α) : Json α :=
  .obj [("metric_id", .str metric.metricId), ("billing_factor", .ofAmount metric.factor),
    ("gratis", .bool metric.gratis), ("aws_dimension", .ofText? metric.awsDimension),
    ("azure_dimension", .ofText? metric.azureDimension),
    ("rhm_metric_id", .ofText? metric.rhmMetricId)]

end MetricDefinition

namespace ProductDefinition

variable {α : Type} [Amount α]

def record {ν : Type} [Source ν] [AmountSource ν α] : Record ν (ProductDefinition α) :=
  mk <$> .required "product_id" .text <*> .defaulted "payg_eligible" .bool false
    <*> .defaulted "contract_enabled" .bool false
    <*> .defaulted "billable_granularity" Granularity.decoder Granularity.default
    <*> .defaulted "metrics" (.list MetricDefinition.record.decoder) []

def toJson (product : ProductDefinition α) : Json α :=
  .obj [("product_id", .str product.productId), ("payg_eligible", .bool product.paygEligible),
    ("contract_enabled", .bool product.contractEnabled),
    ("billable_granularity", .str product.granularity.text),
    ("metrics", .arr (product.metrics.map (·.toJson)))]

end ProductDefinition

/-- Definitions in the order of the document. Of products with one identifier the last counts. -/
structure ProductCatalog (α : Type) where
  products : List (ProductDefinition α)

namespace ProductCatalog

variable {α : Type} [Amount α]

omit [Amount α] in
def product? (catalog : ProductCatalog α) (productId : String) : Option (ProductDefinition α) :=
  catalog.products.reverse.find? (·.productId == productId)

omit [Amount α] in
/-- Of metrics with one identifier the first counts. -/
def metric (catalog : ProductCatalog α) (productId metricId : String) :
    Except BillingError (MetricDefinition α) :=
  match (catalog.product? productId).bind fun p => p.metrics.find? (·.metricId == metricId) with
  | some metric => .ok metric
  | none =>
    .error (.configuration ("no metric " ++ metricId ++ " defined for product " ++ productId))

omit [Amount α] in
def isPaygEligible (catalog : ProductCatalog α) (productId : String) : Bool :=
  (catalog.product? productId).any (·.paygEligible)

omit [Amount α] in
def isContractEnabled (catalog : ProductCatalog α) (productId : String) : Bool :=
  (catalog.product? productId).any (·.contractEnabled)

omit [Amount α] in
def isGratisMetric (catalog : ProductCatalog α) (productId metricId : String) : Bool :=
  match catalog.metric productId metricId with
  | .ok metric => metric.gratis
  | .error _ => false

omit [Amount α] in
def granularity? (catalog : ProductCatalog α) (productId : String) : Option Granularity :=
  (catalog.product? productId).map (·.granularity)

def billingUnit (catalog : ProductCatalog α) (productId metricId : String) :
    Except BillingError (MeasureUnit α) := do
  let metric ← catalog.metric productId metricId
  MeasureUnit.billing metric.metricId metric.factor

omit [Amount α] in
/-- What the contract service calls a metric for a provider. -/
def contractMetric (catalog : ProductCatalog α) (provider : Provider)
    (productId metricId : String) : Except BillingError String := do
  let metric ← catalog.metric productId metricId
  let mapped := match provider with
    | .aws => metric.awsDimension
    | .azure => metric.azureDimension
    | .redHat => metric.rhmMetricId
    | .any => none
  match mapped with
  | some name => .ok name
  | none => .error (.configuration ("no " ++ provider.text ++ " metric mapping for " ++ productId
      ++ "/" ++ metricId))

omit [Amount α] in
/-- The definitions that count, in the order of the document. -/
def effective (catalog : ProductCatalog α) : List (ProductDefinition α) :=
  go catalog.products
where
  go : List (ProductDefinition α) → List (ProductDefinition α)
    | [] => []
    | p :: rest => if rest.any (·.productId == p.productId) then go rest else p :: go rest

/-- The catalog with the given products, all of whose factors are usable; else the wording of the
first one that is not. -/
def checked (products : List (ProductDefinition α)) : Except String (ProductCatalog α) :=
  let catalog : ProductCatalog α := ⟨products⟩
  let faults := catalog.effective.flatMap fun p => p.metrics.filterMap fun m =>
    match MeasureUnit.billing m.metricId m.factor with
    | .ok _ => none
    | .error e => some ("invalid billing factor for " ++ p.productId ++ ": " ++ e.message)
  match faults with
  | [] => .ok catalog
  | fault :: _ => .error fault

end ProductCatalog
end MeteredBilling
