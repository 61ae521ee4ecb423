import MeteredBilling.Usage.Observation

/-!
# Usage counters

Totals of billed and of covered usage by product, metric, provider and state, and their text
exposition in the order of names and labels.
-/

namespace MeteredBilling

inductive UsageCounter
  | billable
  | covered
  deriving DecidableEq, Repr

namespace UsageCounter

def name : UsageCounter → String
  | billable => "billable_usage_total"
  | covered => "contract_usage_total"

end UsageCounter

structure CounterLabels where
  product : String
  metricId : String
  provider : String
  status : String
  deriving DecidableEq, Repr

namespace CounterLabels

def ofUsage {α : Type} (usage : Usage α) (status : String) : CounterLabels :=
  ⟨usage.productId, usage.metricId, usage.provider.text, status⟩

/-- The parts in the order that they are compared in. -/
def parts (labels : CounterLabels) : List String :=
  [labels.product, labels.metricId, labels.provider, labels.status]

def pair (name value : String) : String := name ++ "=\"" ++ value ++ "\""

def text (labels : CounterLabels) : String :=
  "\x7b" ++ ",".intercalate [pair "product" labels.product, pair "metric_id" labels.metricId,
    pair "billing_provider" labels.provider, pair "status" labels.status] ++ "\x7d"

end CounterLabels

/-- A counter and its value. -/
structure CounterEntry (α : Type) where
  counter : UsageCounter
  labels : CounterLabels
  value : α

/-- One entry for each counter and labels that were counted. -/
structure Counters (α : Type) where
  entries : List (CounterEntry α)

namespace Counters

variable {α : Type} [Amount α]

omit [Amount α] in
def empty : Counters α := ⟨[]⟩

def addTo (counter : UsageCounter) (labels : CounterLabels) (value : α) :
    List (CounterEntry α) → List (CounterEntry α)
  | [] => [⟨counter, labels, 0 + value⟩]
  | e :: rest =>
    if e.counter = counter ∧ e.labels = labels then { e with value := e.value + value } :: rest
    else e :: addTo counter labels value rest

/-- Counts a finite positive value; any other is left out. -/
def increment (counters : Counters α) (counter : UsageCounter) (labels : CounterLabels)
    (value : α) : Counters α :=
  if Amount.isUsableFactor value then ⟨addTo counter labels value counters.entries⟩ else counters

def get (counters : Counters α) (counter : UsageCounter) (labels : CounterLabels) : α :=
  match counters.entries.find? fun e => e.counter = counter ∧ e.labels = labels with
  | some e => e.value
  | none => 0

/-- The order of lists of texts, part by part. -/
def listedBefore : List String → List String → Bool
  | [], _ => true
  | _, [] => false
  | a :: as, b :: bs => if a == b then listedBefore as bs else a < b

omit [Amount α] in
def sortKey (e : CounterEntry α) : List String := e.counter.name :: e.labels.parts

def section_ (counter : UsageCounter) (entries : List (CounterEntry α)) : String :=
  let lines := (entries.filter (·.counter = counter)).map fun e =>
    counter.name ++ e.labels.text ++ " " ++ Amount.text e.value ++ "\n"
  if lines.isEmpty then "" else "# TYPE " ++ counter.name ++ " counter\n" ++ String.join lines

/-- The text exposition, each counter under a heading of its own. -/
def render (counters : Counters α) : String :=
  let entries := counters.entries.mergeSort fun a b => listedBefore (sortKey a) (sortKey b)
  section_ .billable entries ++ section_ .covered entries

end Counters
end MeteredBilling
