import MeteredBilling.Catalog.Basic
import MeteredBilling.Yaml.Repetition

/-!
# Catalog documents

The catalog as a document: its products in order, with usable factors.
-/

namespace MeteredBilling.ProductCatalog

open Yaml

variable {α : Type} [Amount α]

def record : Record Part (List (ProductDefinition α)) :=
  .required "products" (.list ProductDefinition.record.decoder)

/-- The simple members of a record. -/
def leaves {β : Type} (record : Record Part β) : List (String × Shape) :=
  (record.names.getD []).map (·, .leaf)

variable (α) in
/-- What is read of a document. -/
def shape : Shape :=
  let metric : Shape := .record (leaves (MetricDefinition.record (α := α)))
  let product : Shape :=
    .record (("metrics", .list metric) :: leaves (ProductDefinition.record (α := α)))
  .record [("products", .list product)]

/-- The catalog of a document, or the reason why there is none. -/
def ofDocument (source : String) : Except String (ProductCatalog α) :=
  match ((Part.ofText? source).filter (·.isBounded (shape α))).map record.decoder with
  | some (.ok products) => checked products
  | _ => .error "failed to parse product catalog"

/-- What is reported of a document that cannot be read. -/
def unreadable (path : String) : String := "failed to read product catalog " ++ path

end MeteredBilling.ProductCatalog
