import MeteredBilling.Decimal.Positional
import MeteredBilling.Json.Draft
import MeteredBilling.Reading.Record
import MeteredBilling.Text.Quoted

/-!
# Reading from JSON

What can be read from a JSON value, and the decoders that only this format has.
-/

namespace MeteredBilling

namespace Json

variable {α : Type}

def text? : Json α → Option String
  | str text => some text
  | _ => none

def bool? : Json α → Option Bool
  | bool value => some value
  | _ => none

def amount? [Amount α] : Json α → Option α
  | int n => some (Amount.ofInt n)
  | real x => some x
  | _ => none

def isNull : Json α → Bool
  | null => true
  | _ => false

def items? : Json α → Option (List (Json α))
  | arr items => some items
  | _ => none

def members? : Json α → Option (List (String × Json α))
  | obj members => some members
  | _ => none

/-- The kind of a value, with the value itself if it is a simple one. -/
def describe [Amount α] : Json α → String
  | null => "null"
  | bool value => "boolean \x60" ++ toString value ++ "\x60"
  | int n => "integer \x60" ++ String.ofList (Decimal.intText n) ++ "\x60"
  | real x => "floating point \x60" ++ Amount.numeral x ++ "\x60"
  | str text => "string " ++ Text.quoted text
  | arr _ => "sequence"
  | obj _ => "map"

/-- A name alone, or as the only member of an object that should hold nothing. -/
def choice [Amount α] : Json α → Except String (String × Option String)
  | str name => .ok (name, none)
  | obj [(name, null)] => .ok (name, none)
  | obj [(name, content)] => .ok (name, some (DecodeError.mismatch content.describe "unit"))
  | obj _ => .error "invalid value: map, expected map with a single key"
  | v => .error (DecodeError.mismatch v.describe "string or map")

def setAside : Json α → Json α
  | obj [(name, obj [])] => obj [(name, null)]
  | v => v

instance [Amount α] : Source (Json α) where
  text? := text?
  bool? := bool?
  isNull v := .ok v.isNull
  items? := items?
  members? := members?
  choice := choice
  setAside := setAside
  describe := describe

instance [Amount α] : AmountSource (Json α) α := ⟨amount?⟩

/-! ### Reading from drafts -/

namespace Draft

/-- The value of a draft that is neither an array nor an object. -/
def simple? : Draft α → Option (Json α)
  | simple value => some value
  | _ => none

def items? : Draft α → Option (List (Draft α))
  | arr items => some items
  | _ => none

/-- The members up to the first one without a name. -/
def named : List (Option String × Draft α) → List (String × Draft α)
  | (some name, value) :: rest => (name, value) :: named rest
  | _ => []

def members? : Draft α → Option (List (String × Draft α))
  | obj members => some (named members)
  | _ => none

def isCut : Draft α → Bool
  | obj members => members.any (·.1.isNone)
  | _ => false

def describe [Amount α] : Draft α → String
  | simple value => value.describe
  | void => ""
  | arr _ => "sequence"
  | obj _ => "map"

instance [Amount α] : Source (Draft α) where
  text? draft := draft.simple?.bind text?
  bool? draft := draft.simple?.bind bool?
  isNull draft := .ok (draft.simple?.any isNull)
  items? := items?
  members? := members?
  choice draft := (draft.simple?.getD (.arr [])).choice
  describe := describe
  isMalformed
    | void => true
    | _ => false
  isCut := isCut
  surplus _ _ := .malformed

instance [Amount α] : AmountSource (Draft α) α := ⟨fun draft => draft.simple?.bind amount?⟩

end Draft

end Json

namespace Decoder

variable {α : Type} [Amount α]

def int : Decoder (Json α) Int
  | .int n => .ok n
  | v => expecting "i64" v none

/-- The texts of an object by name. -/
def texts : Decoder (Json α) (List (String × String)) := fun v => do
  (← expecting "a map" v v.members?).mapM fun (name, value) => (text value).map (name, ·)

end Decoder
end MeteredBilling
