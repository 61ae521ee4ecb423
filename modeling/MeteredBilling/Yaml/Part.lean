import MeteredBilling.Decimal.Numeral
import MeteredBilling.Reading.Decoder
import MeteredBilling.Text.Utf8
import MeteredBilling.Yaml.Document

/-!
# Reading from documents

What can be read from a node of a document. What a scalar stands for depends on what is asked of it:
every scalar is a text, and only one without quotes, or a literal one with a tag that says so, can
be a number, a truth value, or nothing at all.
-/

namespace MeteredBilling.Yaml

open Decimal

/-- A node and what the references in it stand for: the nodes with anchors, of which the last one of
a number counts. -/
structure Part where
  node : Node
  anchors : List (Nat × Node)

namespace Part

/-- The root of a text that is one document. -/
def ofText? (text : String) : Option Part :=
  (Document.parse? text).map fun root => ⟨root, root.anchored.reverse⟩

/-- The node that is meant, which is no reference. -/
def target (part : Part) : Node :=
  match part.node with
  | .reference anchor => (part.anchors.lookup anchor).getD .empty
  | node => node

def isReference (part : Part) : Bool :=
  match part.node with
  | .reference _ => true
  | _ => false

def text? (part : Part) : Option String :=
  match part.target with
  | .scalar _ text _ => some text
  | _ => none

/-! ### Tags -/

/-- A tag of the common kinds of values. -/
def commonTag (kind : String) : String := "tag:yaml.org,2002:" ++ kind

/-- A plain scalar, or a literal one with the tag of the kind that is asked for. -/
def literal? (kind : String) (part : Part) : Option String :=
  match part.target with
  | .scalar _ text .plain => some text
  | .scalar properties text .literal =>
    if properties.tag == some (commonTag kind) then some text else none
  | _ => none

/-- The name that a tag of the document's own gives; its octets have to make up a text. -/
def localName? (properties : Properties) : Option String := do
  let octets := (← properties.tag).toList
  guard (octets.head? == some '!')
  let octets := if octets.length = 1 then octets else octets.drop 1
  Text.Utf8.decode? (octets.map fun octet => octet.toNat.toUInt8)

/-! ### Values -/

def isNullWord (text : String) : Bool := ["~", "null", "Null", "NULL"].contains text

def bool? (part : Part) : Option Bool :=
  (part.literal? "bool").bind fun text =>
    if ["true", "True", "TRUE"].contains text then some true
    else if ["false", "False", "FALSE"].contains text then some false
    else none

/-- A plain scalar with a tag says that there is nothing only if its tag does. -/
def isNull (part : Part) : Except String Bool :=
  match part.target with
  | .scalar properties text .plain =>
    match properties.tag with
    | none => .ok (text.isEmpty || isNullWord text)
    | some tag =>
      if tag != commonTag "null" then .ok false
      else if isNullWord text then .ok true
      else .error ("invalid value: string " ++ text ++ ", expected null")
  | _ => .ok false

/-- Nothing at all is an empty sequence. -/
def items? (part : Part) : Option (List Part) :=
  match part.target with
  | .sequence _ items => some (items.map fun item => { part with node := item })
  | .scalar _ "" .plain => some []
  | _ => none

/-- The entries of a mapping; nothing at all has none. -/
def entries? (part : Part) : Option (List (Part × Part)) :=
  match part.target with
  | .mapping _ entries =>
    some (entries.map fun (key, value) => ({ part with node := key }, { part with node := value }))
  | .scalar _ "" .plain => some []
  | _ => none

/-- The entries by name. -/
def members? (part : Part) : Option (List (String × Part)) := do
  (← part.entries?).mapM fun (key, value) => key.text?.map (·, value)

/-- The kind of a node. -/
def describe (part : Part) : String :=
  match part.target with
  | .scalar _ text _ => "scalar " ++ text
  | .sequence _ _ => "sequence"
  | .mapping _ _ => "mapping"
  | .reference _ => "reference"

/-- The name in a tag in front of nothing, or the text of a scalar. -/
def choice (part : Part) : Except String (String × Option String) :=
  match part.target with
  | .scalar properties text style =>
    match localName? properties with
    | none => .ok (text, none)
    | some name =>
      if style == .plain && (text.isEmpty || isNullWord text) then .ok (name, none)
      else .ok (name, some (DecodeError.mismatch part.describe "unit"))
  | _ => .error (DecodeError.mismatch part.describe "a scalar")

variable {α : Type} [Amount α]

/-- A decimal whose value is finite. -/
def decimal? (text : List Char) : Option α := do
  let n ← lenient? text
  let x : α := Amount.ofDecimal n.negative n.mantissa n.exponent
  guard (Amount.isFinite x)
  some x

def number? (text : String) : Option α :=
  let unsigned := match text.toList with
    | '+' :: rest => rest
    | chars => chars
  let infinite := [".inf", ".Inf", ".INF"]
  if infinite.contains (String.ofList unsigned) then some (1 / 0)
  else if (infinite.map ("-" ++ ·)).contains text then some ((0 - 1) / 0)
  else if [".nan", ".NaN", ".NAN"].contains text then some (0 / 0)
  else if text.startsWith "+" && unsigned.head?.any (fun c => c == '+' || c == '-') then none
  else decimal? unsigned

/-- A record is read from a mapping only. -/
instance : Source Part where
  text? := text?
  bool? := bool?
  isNull := isNull
  items? := items?
  unnamed? _ := none
  members? := members?
  choice := choice
  describe := describe

instance : AmountSource Part α := ⟨fun part => (part.literal? "float").bind number?⟩

end Part
end MeteredBilling.Yaml
