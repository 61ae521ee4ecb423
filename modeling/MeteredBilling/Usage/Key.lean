import MeteredBilling.Json.Source

/-!
# Billing keys

The eight dimensions that usage is billed by, the last of them the calendar month in universal
time. One remittance is kept for each key.
-/

namespace MeteredBilling

open Calendar

/-- Stands for the aggregate over all values of a dimension, which is never billed. -/
def anyDimension : String := "_ANY"

inductive Provider
  | aws
  | azure
  | redHat
  | any
  deriving DecidableEq, Repr

namespace Provider

def text : Provider → String
  | aws => "aws"
  | azure => "azure"
  | redHat => "red hat"
  | any => anyDimension

def names : List (String × Provider) := [aws, azure, redHat, any].map fun p => (p.text, p)

/-- The provider of a recorded name, of which one has older spellings. -/
def ofText? (name : String) : Option Provider :=
  if name = "red_hat" ∨ name = "rhm" then some redHat else names.lookup name

def decoder {ν : Type} [Source ν] : Decoder ν Provider := .variant names

end Provider

/-- A billing window, named by its year and month. -/
structure Period where
  text : String
  deriving DecidableEq, Repr

/-! Windows are ordered as their names are. -/

instance : LT Period := ⟨fun p q => p.text < q.text⟩

instance : LE Period := ⟨fun p q => p.text ≤ q.text⟩

instance (p q : Period) : Decidable (p < q) := inferInstanceAs (Decidable (p.text < q.text))

instance (p q : Period) : Decidable (p ≤ q) := inferInstanceAs (Decidable (p.text ≤ q.text))

namespace Period

/-- The four-place year, whose sign takes one of the places. -/
def yearText (year : Int) : List Char :=
  if year < 0 then '-' :: Decimal.padded 3 year.natAbs else Decimal.padded 4 year.natAbs

/-- The calendar month that holds an instant. -/
def ofInstant (t : Instant) : Period :=
  let d := t.date
  ⟨String.ofList (yearText d.year ++ '-' :: Decimal.padded 2 d.month)⟩

end Period

structure RemittanceKey where
  orgId : String
  productId : String
  metricId : String
  sla : String
  purpose : String
  provider : Provider
  accountId : String
  period : Period
  deriving DecidableEq, Repr

namespace RemittanceKey

def text (key : RemittanceKey) : String :=
  "/".intercalate [key.orgId, key.productId, key.metricId, key.sla, key.purpose, key.provider.text,
    key.accountId, key.period.text]

def record {ν : Type} [Source ν] : Record ν RemittanceKey :=
  mk <$> .required "org_id" .text <*> .required "product_id" .text
    <*> .required "metric_id" .text <*> .required "sla" .text <*> .required "usage" .text
    <*> .required "billing_provider" Provider.decoder <*> .required "billing_account_id" .text
    <*> .required "accumulation_period" fun json => (Decoder.text json).map Period.mk

def members {α : Type} (key : RemittanceKey) : List (String × Json α) :=
  [("org_id", .str key.orgId), ("product_id", .str key.productId), ("metric_id", .str key.metricId),
    ("sla", .str key.sla), ("usage", .str key.purpose),
    ("billing_provider", .str key.provider.text), ("billing_account_id", .str key.accountId),
    ("accumulation_period", .str key.period.text)]

end RemittanceKey
end MeteredBilling
