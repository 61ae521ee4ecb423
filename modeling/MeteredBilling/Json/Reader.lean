import MeteredBilling.Json.Draft

/-!
# Reading JSON

The values of complete texts. All that stands in them has to have a value, and nesting is limited.
-/

namespace MeteredBilling.Json

variable {α : Type} [Amount α]

/-- Arrays and objects may stand this deep in each other. -/
def nestingLimit : Nat := 127

namespace Draft

mutual

/-- The value of a draft, where `depth` arrays and objects may stand in each other. -/
def value? : Nat → Draft α → Option (Json α)
  | _, .simple value => some value
  | _, .void => none
  | 0, .arr _ => none
  | 0, .obj _ => none
  | depth + 1, .arr items => (values? depth items).map .arr
  | depth + 1, .obj members => (memberValues? depth members).map .obj

def values? (depth : Nat) : List (Draft α) → Option (List (Json α))
  | [] => some []
  | item :: rest => do
    let value ← value? depth item
    let values ← values? depth rest
    some (value :: values)

def memberValues? (depth : Nat) : List (Option String × Draft α) → Option (List (String × Json α))
  | [] => some []
  | (name, item) :: rest => do
    let name ← name
    let value ← value? depth item
    let members ← memberValues? depth rest
    some ((name, value) :: members)

end

end Draft

/-- The value that makes up the whole text. -/
def parse? (text : String) : Option (Json α) :=
  (Draft.whole? (.ofText text)).bind (Draft.value? nestingLimit)

end MeteredBilling.Json
