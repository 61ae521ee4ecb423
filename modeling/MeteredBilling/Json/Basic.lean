import MeteredBilling.Amount

/-!
# JSON values

Values of the interchange format over a carrier of amounts. Whole numbers stay apart from reals,
and an object keeps its members in the order of the text.
-/

namespace MeteredBilling

inductive Json (α : Type)
  | null
  | bool (value : Bool)
  | int (value : Int)
  | real (value : α)
  | str (value : String)
  | arr (items : List (Json α))
  | obj (members : List (String × Json α))
  deriving Inhabited

namespace Json

variable {α : Type}

/-- A real member; a value that is no finite number has no JSON form and is written as null. -/
def ofAmount [Amount α] (x : α) : Json α := if Amount.isFinite x then .real x else .null

def ofText? : Option String → Json α
  | some text => .str text
  | none => .null

/-- The last member of that name. -/
def get? (name : String) : Json α → Option (Json α)
  | obj members => (members.reverse.find? (·.1 == name)).map (·.2)
  | _ => none

/-- Puts a member in the place of its name; an equal name is replaced. -/
def insertMember (member : String × Json α) : List (String × Json α) → List (String × Json α)
  | [] => [member]
  | head :: rest =>
    if member.1 < head.1 then member :: head :: rest
    else if member.1 = head.1 then member :: rest
    else head :: insertMember member rest

mutual

/-- The value with the members of each object in the order of their names, the last of equal names
standing for all. -/
def canonical : Json α → Json α
  | arr items => arr (canonicalItems items)
  | obj members => obj (canonicalMembers members [])
  | other => other

def canonicalItems : List (Json α) → List (Json α)
  | [] => []
  | item :: rest => canonical item :: canonicalItems rest

def canonicalMembers : List (String × Json α) → List (String × Json α) → List (String × Json α)
  | [], done => done
  | (name, value) :: rest, done => canonicalMembers rest (insertMember (name, canonical value) done)

end

end Json
end MeteredBilling
