/-!
# Tables of characters

Characters by their places in the tables of a standard.
-/

namespace MeteredBilling.Text.Wide

/-- Runs of characters in the order of their places: the place of the first one, and all of them. -/
structure Table where
  runs : List (Nat × String)

namespace Table

def find? (table : Table) (place : Nat) : Option Char := do
  let (first, chars) ← (table.runs.takeWhile (·.1 ≤ place)).getLast?
  chars.toList[place - first]?

/-- The characters between two of them, both included, that have no place. -/
def absent (table : Table) (first last : Nat) : Array Char :=
  let places := Array.replicate (last + 1 - first) true
  let mark (places : Array Bool) (c : Char) : Array Bool :=
    if first ≤ c.toNat then places.setIfInBounds (c.toNat - first) false else places
  let places := table.runs.foldl (fun places run => run.2.toList.foldl mark places) places
  ((List.range places.size).filter (places.getD · false)).toArray.map fun n =>
    Char.ofNat (first + n)

end Table
end MeteredBilling.Text.Wide
