import MeteredBilling.Yaml.Part

/-!
# Repetition

Anchors let a short document stand for a long one. So the references that are followed while a
document is read are counted, and there is a limit to them that grows with its size.
-/

namespace MeteredBilling.Yaml

/-- What is read of a node: the node alone, all of its items, or the members of those names. -/
inductive Shape
  | leaf
  | list (item : Shape)
  | record (members : List (String × Shape))

namespace Shape

/-- What is left of a number of references after this node was reached. -/
def follow? (part : Part) (left : Nat) : Option Nat :=
  if part.isReference then if left = 0 then none else some (left - 1) else some left

mutual

/-- What is left of a number of references after a node was read in this shape. -/
def read? : Shape → Part → Nat → Option Nat
  | leaf, part, left => follow? part left
  | list item, part, left => do
    let left ← follow? part left
    (part.items?.getD []).foldlM (fun left part => read? item part left) left
  | record members, part, left => do
    let left ← follow? part left
    (part.entries?.getD []).foldlM (fun left (key, value) => do
      let left ← follow? key left
      readMember? members (key.text?.getD "") value left) left

/-- The same after the member of a record was read, if the record has one of that name. -/
def readMember? : List (String × Shape) → String → Part → Nat → Option Nat
  | [], _, _, left => some left
  | (name, shape) :: members, given, part, left =>
    if name == given then read? shape part left else readMember? members given part left

end

end Shape

/-- The references that are followed in a document, for each node of it. -/
def Part.repetitionLimit : Nat := 100

/-- A document can be read in this shape within the limit. -/
def Part.isBounded (shape : Shape) (root : Part) : Bool :=
  (shape.read? root (repetitionLimit * root.node.size)).isSome

end MeteredBilling.Yaml
