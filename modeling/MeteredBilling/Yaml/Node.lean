import MeteredBilling.Yaml.Token

/-!
# Nodes

The nodes of a document, as they are written: a reference is a node of its own.
-/

namespace MeteredBilling.Yaml

/-- What stands in front of a node. -/
structure Properties where
  anchor : Option Nat := none
  tag : Option String := none
  deriving DecidableEq, Repr

inductive Node
  | reference (anchor : Nat)
  | scalar (properties : Properties) (text : String) (style : Style)
  | sequence (properties : Properties) (items : List Node)
  | mapping (properties : Properties) (entries : List (Node × Node))

namespace Node

/-- The scalar that stands where nothing is written. -/
def empty (properties : Properties := {}) : Node := scalar properties "" .plain

def anchor? : Node → Option Nat
  | reference _ => none
  | scalar properties _ _ | sequence properties _ | mapping properties _ => properties.anchor

mutual

/-- The nodes with anchors in a node, in the order of the document, by their anchors. -/
def anchored : Node → List (Nat × Node)
  | reference _ => []
  | node@(scalar _ _ _) => node.anchor?.toList.map (·, node)
  | node@(sequence _ items) => node.anchor?.toList.map (·, node) ++ anchoredItems items
  | node@(mapping _ entries) => node.anchor?.toList.map (·, node) ++ anchoredEntries entries

def anchoredItems : List Node → List (Nat × Node)
  | [] => []
  | item :: items => anchored item ++ anchoredItems items

def anchoredEntries : List (Node × Node) → List (Nat × Node)
  | [] => []
  | (key, value) :: entries => anchored key ++ anchored value ++ anchoredEntries entries

end

mutual

/-- The number of marks that make up a node: the ends of sequences and mappings count too. -/
def size : Node → Nat
  | reference _ | scalar _ _ _ => 1
  | sequence _ items => 2 + sizeItems items
  | mapping _ entries => 2 + sizeEntries entries

def sizeItems : List Node → Nat
  | [] => 0
  | item :: items => size item + sizeItems items

def sizeEntries : List (Node × Node) → Nat
  | [] => 0
  | (key, value) :: entries => size key + size value + sizeEntries entries

end

end Node
end MeteredBilling.Yaml
