import MeteredBilling.Amount
import MeteredBilling.Calendar.Rfc3339
import MeteredBilling.Reading.Fault
import MeteredBilling.Uuid

/-!
# Decoders

Values of a data format, seen through what can be read from them, and decoders of single values on
top of that.
-/

namespace MeteredBilling

open Calendar

/-- What can be read from a value of a format. -/
class Source (ν : Type) where
  text? : ν → Option String
  bool? : ν → Option Bool
  /-- Whether a value says that there is none, or why that cannot be told. -/
  isNull : ν → Except String Bool
  items? : ν → Option (List ν)
  /-- The values of the members of a record that is written without their names. -/
  unnamed? : ν → Option (List ν) := items?
  members? : ν → Option (List (String × ν))
  /-- The name of a choice, and a complaint about what is given with it; or why there is none. -/
  choice : ν → Except String (String × Option String)
  /-- A value as it is read after it was set aside, when a choice may be given with an empty
  object. -/
  setAside : ν → ν := id
  /-- The kind of a value and the value itself, in words. -/
  describe : ν → String
  /-- Whether there is no value. -/
  isMalformed : ν → Bool := fun _ => false
  /-- Whether there is no value behind the members of an object that can be read. -/
  isCut : ν → Bool := fun _ => false
  /-- The fault of an array with more items than asked for, by their number. -/
  surplus : ν → Nat → DecodeError :=
    fun _ found => DecodeError.length found "fewer elements in array"

/-- A format that holds amounts of a carrier. -/
class AmountSource (ν α : Type) where
  amount? : ν → Option α

/-- Reads a value of a type. -/
abbrev Decoder (ν β : Type) := ν → Except DecodeError β

namespace Decoder

variable {ν α β : Type} [Source ν]

/-- The fault of a value that is not what was expected. -/
def unexpected (expected : String) (v : ν) : DecodeError :=
  if Source.isMalformed v then .malformed
  else .unfit (DecodeError.mismatch (Source.describe v) expected)

/-- What was read from a value, or the complaint that it is not what was expected. -/
def expecting (expected : String) (v : ν) : Option β → Except DecodeError β
  | some value => .ok value
  | none => .error (unexpected expected v)

def text : Decoder ν String := fun v => expecting "a string" v (Source.text? v)

def bool : Decoder ν Bool := fun v => expecting "a boolean" v (Source.bool? v)

def amount [AmountSource ν α] : Decoder ν α := fun v => expecting "f64" v (AmountSource.amount? v)

/-- A value that is written as a text. -/
def parsed (expected : String) (parse : String → Except String β) : Decoder ν β := fun v => do
  let text ← expecting expected v (Source.text? v)
  (parse text).mapError .unfit

def instant : Decoder ν Instant :=
  parsed "an RFC 3339 formatted date and time string" fun text =>
    (Instant.ofLooseTimestamp text).mapError (·.message)

def uuid : Decoder ν Uuid :=
  parsed "a UUID string" fun text => (Uuid.parse text).mapError ("UUID parsing failed: " ++ ·)

def list (item : Decoder ν β) : Decoder ν (List β) := fun v => do
  (← expecting "a sequence" v (Source.items? v)).mapM item

def optional (value : Decoder ν β) : Decoder ν (Option β) := fun v =>
  match Source.isNull v with
  | .error detail => .error (.unfit detail)
  | .ok true => .ok none
  | .ok false => (value v).map some

/-- One of several names. -/
def variant (names : List (String × β)) : Decoder ν β := fun v =>
  match Source.choice v with
  | .error detail => .error (.unfit detail)
  | .ok (given, complaint) =>
    match names.lookup given, complaint with
    | none, _ => .error (.unknownVariant given (names.map (·.1)))
    | some value, none => .ok value
    | some _, some detail => .error (.unfit detail)

end Decoder
end MeteredBilling
