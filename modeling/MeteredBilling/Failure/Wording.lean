/-!
# Wording

Errors are told to two audiences. Operators find all that is known in the record; callers are spared
the words of the readers of foreign formats.
-/

namespace MeteredBilling

inductive Audience
  | operators
  | callers
  deriving DecidableEq, Repr

namespace Audience

/-- Stands for words that are not told. -/
def withheld : String := "<detail>"

/-- The words of a reader as an audience hears them. -/
def hears (audience : Audience) (words : String) : String :=
  match audience with
  | operators => words
  | callers => withheld

end Audience
end MeteredBilling
