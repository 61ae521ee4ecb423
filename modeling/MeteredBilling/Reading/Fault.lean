import MeteredBilling.Failure.Wording

/-!
# Faults of values

Why a value of a data format cannot be read as a value of a type.
-/

namespace MeteredBilling

inductive DecodeError
  | missingField (name : String)
  | unknownVariant (given : String) (known : List String)
  /-- A value that is not what was asked for, in the words of the reader. -/
  | unfit (detail : String)
  /-- Something that is no value of the format at all. -/
  | malformed
  deriving DecidableEq, Repr

namespace DecodeError

def quoteName (name : String) : String := "\x60" ++ name ++ "\x60"

def wording (audience : Audience) : DecodeError → String
  | missingField name => "missing field " ++ quoteName name
  | unknownVariant given known =>
    "unknown variant " ++ quoteName given ++ ", expected one of "
      ++ ", ".intercalate (known.map quoteName)
  | unfit detail => audience.hears detail
  | malformed => audience.hears "malformed value"

def message : DecodeError → String := wording .callers

/-- A value of another kind than the one asked for. -/
def mismatch (found expected : String) : String :=
  "invalid type: " ++ found ++ ", expected " ++ expected

/-- A complaint about the number of items, of which others were expected. -/
def length (found : Nat) (expected : String) : DecodeError :=
  .unfit ("invalid length " ++ toString found ++ ", expected " ++ expected)

end DecodeError

end MeteredBilling
