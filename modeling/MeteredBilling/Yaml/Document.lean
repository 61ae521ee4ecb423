import MeteredBilling.Yaml.Lexer
import MeteredBilling.Yaml.Node

/-!
# Documents

The node of a text that holds one document, read from its tokens. Every step takes a token or goes
a level down, so a multiple of their number bounds the depth of the reader.
-/

namespace MeteredBilling.Yaml

namespace Document

/-- The meanings of handles. -/
abbrev Handles := List (String × String)

/-! ### Directives -/

/-- The directives at the head of a document, none of which may be repeated. -/
def directives? (versioned : Bool) (handles : Handles) :
    List Token → Option (Handles × List Token)
  | .version major minor :: tokens => do
    guard (!versioned && major == 1 && (minor == 1 || minor == 2))
    directives? true handles tokens
  | .handle name meaning :: tokens => do
    guard (handles.lookup name).isNone
    directives? versioned ((name, meaning) :: handles) tokens
  | tokens => some (handles, tokens)

/-- The meanings of handles that no directive tells. -/
def defaultHandles : Handles := [("!", "!"), ("!!", "tag:yaml.org,2002:")]

/-- A tag without a handle stands for itself. -/
def tag? (handles : Handles) (handle suffix : String) : Option String :=
  if handle.isEmpty then some suffix else (handles.lookup handle).map (· ++ suffix)

/-! ### Nodes -/

/-- An anchor and a tag, in either order. -/
def properties? (handles : Handles) : List Token → Option (Properties × List Token)
  | .anchor n :: .tag handle suffix :: tokens
  | .tag handle suffix :: .anchor n :: tokens =>
    (tag? handles handle suffix).map fun tag => (⟨some n, some tag⟩, tokens)
  | .anchor n :: tokens => some (⟨some n, none⟩, tokens)
  | .tag handle suffix :: tokens =>
    (tag? handles handle suffix).map fun tag => (⟨none, some tag⟩, tokens)
  | tokens => some ({}, tokens)

/-- One of these tokens comes next. -/
def isNext (tokens : List Token) (expected : List Token) : Bool :=
  tokens.head?.any (expected.contains ·)

/-- The tokens that end an entry of a block, in front of which its node is empty. -/
def blockStops : List Token := [.key, .value, .blockEnd]

mutual

/-- A node, which is a block only where one may stand. The dashes of a sequence need no block of
their own below a key. -/
def node? (handles : Handles) :
    Nat → (isBlock isBelowKey : Bool) → List Token → Option (Node × List Token)
  | 0, _, _, _ => none
  | _ + 1, _, _, .reference n :: tokens => some (.reference n, tokens)
  | fuel + 1, isBlock, isBelowKey, tokens => do
    let (properties, tokens) ← properties? handles tokens
    let sequence (read : Option (List Node × List Token)) : Option (Node × List Token) :=
      read.map fun (items, rest) => (.sequence properties items, rest)
    let mapping (read : Option (List (Node × Node) × List Token)) : Option (Node × List Token) :=
      read.map fun (entries, rest) => (.mapping properties entries, rest)
    let empty : Option (Node × List Token) := do
      guard (properties != {})
      some (.empty properties, tokens)
    match tokens with
    | .scalar text style :: rest => some (.scalar properties text style, rest)
    | .flowSequence :: rest => sequence (flowItems? handles fuel true rest)
    | .flowMapping :: rest => mapping (flowEntries? handles fuel true rest)
    | .dash :: _ => if isBelowKey then sequence (dashes? handles fuel tokens) else empty
    | .blockSequence :: rest => if isBlock then sequence (items? handles fuel rest) else empty
    | .blockMapping :: rest => if isBlock then mapping (entries? handles fuel rest) else empty
    | _ => empty

/-- A node in front of one of these tokens is empty. -/
def nodeOrEmpty? (handles : Handles) :
    Nat → (isBlock isBelowKey : Bool) → List Token → List Token → Option (Node × List Token)
  | 0, _, _, _, _ => none
  | fuel + 1, isBlock, isBelowKey, stops, tokens =>
    if isNext tokens stops then some (.empty, tokens)
    else node? handles fuel isBlock isBelowKey tokens

/-- The items of a block. -/
def items? (handles : Handles) : Nat → List Token → Option (List Node × List Token)
  | 0, _ => none
  | fuel + 1, .dash :: tokens => do
    let (item, tokens) ← nodeOrEmpty? handles fuel true false [.dash, .blockEnd] tokens
    let (items, tokens) ← items? handles fuel tokens
    some (item :: items, tokens)
  | _ + 1, .blockEnd :: tokens => some ([], tokens)
  | _, _ => none

/-- The items below a key, which end with their dashes. -/
def dashes? (handles : Handles) : Nat → List Token → Option (List Node × List Token)
  | 0, _ => none
  | fuel + 1, .dash :: tokens => do
    let (item, tokens) ← nodeOrEmpty? handles fuel true false (.dash :: blockStops) tokens
    let (items, tokens) ← dashes? handles fuel tokens
    some (item :: items, tokens)
  | _ + 1, tokens => some ([], tokens)

/-- The entries of a block. -/
def entries? (handles : Handles) : Nat → List Token → Option (List (Node × Node) × List Token)
  | 0, _ => none
  | fuel + 1, .key :: tokens => do
    let (key, tokens) ← nodeOrEmpty? handles fuel true true blockStops tokens
    let (value, tokens) ← match tokens with
      | .value :: tokens => nodeOrEmpty? handles fuel true true blockStops tokens
      | tokens => some (.empty, tokens)
    let (entries, tokens) ← entries? handles fuel tokens
    some ((key, value) :: entries, tokens)
  | _ + 1, .blockEnd :: tokens => some ([], tokens)
  | _, _ => none

/-- The items of a flow, with commas between them. An item may be a single entry, whose key may
be left out together with the token behind its mark. -/
def flowItems? (handles : Handles) : Nat → Bool → List Token → Option (List Node × List Token)
  | 0, _, _ => none
  | _ + 1, _, .flowSequenceEnd :: tokens => some ([], tokens)
  | _ + 1, false, .comma :: .flowSequenceEnd :: tokens => some ([], tokens)
  | fuel + 1, isFirst, tokens => do
    let tokens ← match isFirst, tokens with
      | true, tokens => some tokens
      | false, .comma :: tokens => some tokens
      | false, _ => none
    let (item, tokens) ← match tokens with
      | .key :: tokens => do
        let (key, tokens) ←
          if isNext tokens [.value, .comma, .flowSequenceEnd] then
            some (Node.empty, tokens.drop 1)
          else node? handles fuel false false tokens
        let (value, tokens) ← match tokens with
          | .value :: tokens =>
            nodeOrEmpty? handles fuel false false [.comma, .flowSequenceEnd] tokens
          | tokens => some (.empty, tokens)
        some (Node.mapping {} [(key, value)], tokens)
      | tokens => node? handles fuel false false tokens
    let (items, tokens) ← flowItems? handles fuel false tokens
    some (item :: items, tokens)

/-- The entries of a flow, with commas between them. A key without its mark has no value. -/
def flowEntries? (handles : Handles) :
    Nat → Bool → List Token → Option (List (Node × Node) × List Token)
  | 0, _, _ => none
  | _ + 1, _, .flowMappingEnd :: tokens => some ([], tokens)
  | _ + 1, false, .comma :: .flowMappingEnd :: tokens => some ([], tokens)
  | fuel + 1, isFirst, tokens => do
    let tokens ← match isFirst, tokens with
      | true, tokens => some tokens
      | false, .comma :: tokens => some tokens
      | false, _ => none
    let (entry, tokens) ← match tokens with
      | .key :: tokens => do
        let stops : List Token := [.comma, .flowMappingEnd]
        let (key, tokens) ← nodeOrEmpty? handles fuel false false (.value :: stops) tokens
        let (value, tokens) ← match tokens with
          | .value :: tokens => nodeOrEmpty? handles fuel false false stops tokens
          | tokens => some (.empty, tokens)
        some ((key, value), tokens)
      | tokens =>
        (node? handles fuel false false tokens).map fun (key, tokens) => ((key, .empty), tokens)
    let (entries, tokens) ← flowEntries? handles fuel false tokens
    some (entry :: entries, tokens)

end

/-! ### Documents -/

/-- The root of a document behind its directives, which have to end with the mark of its start. -/
def root? (tokens : List Token) : Option (Node × List Token) := do
  let fuel := 4 * tokens.length + 4
  let (handles, content) ← directives? false [] tokens
  let all := handles ++ defaultHandles
  match content with
  | .documentStart :: content =>
    if content.head?.all fun t => t == .documentStart || t == .documentEnd || isDirective t then
      some (.empty, content)
    else node? all fuel true false content
  | _ =>
    guard (content.length == tokens.length)
    node? all fuel true false content
where
  isDirective : Token → Bool
    | .version _ _ | .handle _ _ => true
    | _ => false

/-- The root of a text that is one document, behind which only marks of its end may stand. -/
def parse? (text : String) : Option Node := do
  let (root, rest) ← root? (← Token.ofText? text)
  guard (rest.all (· == .documentEnd))
  some root

end Document
end MeteredBilling.Yaml
