import MeteredBilling.Uuid
import MeteredBilling.Yaml.Place

/-!
# Scalars

Plain, quoted and block scalars, read from their place in a document. Line breaks inside of a
scalar are folded: one break is a space, and of several in a row the first one is dropped. The
separators of lines and paragraphs are breaks that folding keeps.
-/

namespace MeteredBilling.Yaml.Scalar

/-- The blanks and line breaks between two words of a scalar. -/
structure Pause where
  /-- The blanks in front of the first break. -/
  blanks : List Char := []
  first : List Char := []
  others : List Char := []
  isBroken : Bool := false

namespace Pause

/-- What stands for the pause between its words. -/
def text (pause : Pause) : List Char :=
  if !pause.isBroken then pause.blanks
  else if pause.first == ['\n'] then if pause.others.isEmpty then [' '] else pause.others
  else pause.first ++ pause.others

/-- The pause from here on. -/
def take (pause : Pause) (p : Place) : Pause × Place := go p.left pause p
where
  go : Nat → Pause → Place → Pause × Place
    | 0, pause, p => (pause, p)
    | fuel + 1, pause, p =>
      match p.text with
      | [] => (pause, p)
      | c :: _ =>
        if isBlank c then
          go fuel (if pause.isBroken then pause else { pause with blanks := pause.blanks ++ [c] })
            p.next
        else if isBreak c then
          let (line, p) := p.takeBreak
          go fuel (if pause.isBroken then { pause with others := pause.others ++ line }
            else { pause with first := line, isBroken := true }) p
        else (pause, p)

end Pause

/-! ### Plain scalars -/

def isFlowIndicator (c : Char) : Bool := ",[]\x7b\x7d".toList.contains c

/-- A plain scalar starts with no indicator, unless it is a dash, a question mark or a colon in
front of something else. -/
def startsPlain (inFlow : Bool) (text : List Char) : Bool :=
  match text with
  | [] => false
  | c :: rest =>
    !(endsToken text || "-?:,[]\x7b\x7d#&*!|>'\"%@\x60".toList.contains c)
      || (c == '-' && !rest.head?.any isBlank)
      || (!inFlow && (c == '?' || c == ':') && !endsToken rest)

/-- The length of a word of a plain scalar, which ends before a colon with a blank, and in a flow
before each of its indicators. A colon in front of one of those is not allowed. -/
def wordLength? (inFlow : Bool) : List Char → Option Nat
  | [] => some 0
  | c :: rest =>
    if endsToken (c :: rest) then some 0
    else if inFlow && c == ':' && rest.head?.any (",?[]\x7b\x7d".toList.contains ·) then none
    else if (c == ':' && endsToken rest) || (inFlow && isFlowIndicator c) then some 0
    else (wordLength? inFlow rest).map (· + 1)

/-- A tab stands in the indentation of a line that belongs to a scalar of that indentation. -/
def hasTabIn (indent : Int) (p : Place) : Bool := go p.left false p
where
  go : Nat → Bool → Place → Bool
    | 0, _, _ => false
    | fuel + 1, broken, p =>
      match p.text with
      | [] => false
      | c :: _ =>
        if isBlank c then (broken && c == '\t' && p.column < indent) || go fuel broken p.next
        else if isBreak c then go fuel true p.nextLine
        else false

/-- What was read of a scalar. -/
structure Read where
  text : List Char
  /-- The place of what follows. -/
  place : Place
  /-- What follows stands on another line. -/
  isBroken : Bool

/-- What was read, in pieces of which the last one comes first. -/
def Read.ofPieces (pieces : List (List Char)) (place : Place) (isBroken : Bool) : Read :=
  ⟨pieces.reverse.flatten, place, isBroken⟩

/-- A plain scalar whose lines are indented at least so far. -/
def plain? (inFlow : Bool) (indent : Int) (p : Place) : Option Read :=
  go (p.left + 1) [] {} p
where
  go : Nat → List (List Char) → Pause → Place → Option Read
    | 0, _, _, _ => none
    | fuel + 1, read, pause, p =>
      if p.isAtBoundary || p.text.head? == some '#' then some (.ofPieces read p pause.isBroken)
      else do
        let length ← wordLength? inFlow p.text
        if length = 0 then some (.ofPieces read p pause.isBroken)
        else
          let read := p.text.take length :: pause.text :: read
          let p := p.skip length
          if p.text.isEmpty || !endsToken p.text then some (.ofPieces read p false)
          else if hasTabIn indent p then none
          else
            let (pause, p) := ({} : Pause).take p
            if !inFlow && p.column < indent then some (.ofPieces read p pause.isBroken)
            else go fuel read pause p

/-! ### Quoted scalars -/

def escapes : List (Char × Nat) :=
  [('0', 0), ('a', 7), ('b', 8), ('t', 9), ('\t', 9), ('n', 10), ('v', 11), ('f', 12), ('r', 13),
    ('e', 27), (' ', 32), ('"', 34), ('/', 47), ('\\', 92), ('N', 0x85), ('_', 0xA0), ('L', 0x2028),
    ('P', 0x2029)]

/-- The lengths of escapes in hexadecimal digits. -/
def hexEscapes : List (Char × Nat) := [('x', 2), ('u', 4), ('U', 8)]

/-- The character of an escape, whose length comes with it. -/
def escape? (c : Char) (rest : List Char) : Option (Char × Nat) :=
  match escapes.lookup c, hexEscapes.lookup c with
  | some n, _ => some (Char.ofNat n, 1)
  | none, some count => do
    guard (count ≤ rest.length)
    let n ← Uuid.hexNumber? (rest.take count)
    guard n.isValidChar
    some (Char.ofNat n, count + 1)
  | none, none => none

/-- The characters up to the next pause or the closing quote, and whether the break at their end is
escaped. -/
def quotedWord? (double : Bool) : Nat → Place → Option (List Char × Bool × Place)
  | 0, _ => none
  | fuel + 1, p =>
    let read (c : Char) (length : Nat) : Option (List Char × Bool × Place) :=
      (quotedWord? double fuel (p.skip length)).map fun (rest, escaped, p) =>
        (c :: rest, escaped, p)
    match p.text with
    | [] => some ([], false, p)
    | c :: rest =>
      if isBlank c || isBreak c then some ([], false, p)
      else if !double && c == '\'' && rest.head? == some '\'' then read '\'' 2
      else if c == (if double then '"' else '\'') then some ([], false, p)
      else if double && c == '\\' then
        match rest with
        | [] => none
        | e :: after =>
          if isBreak e then some ([], true, p.next.nextLine)
          else do
            let (value, length) ← escape? e after
            read value (length + 1)
      else read c 1

/-- A quoted scalar behind its opening quote. -/
def quoted? (double : Bool) (p : Place) : Option Read := go (p.left + 1) [] p
where
  go : Nat → List (List Char) → Place → Option Read
    | 0, _, _ => none
    | fuel + 1, read, p => do
      guard (!p.isAtBoundary && !p.text.isEmpty)
      let (word, escaped, p) ← quotedWord? double (p.left + 1) p
      if p.text.head? == some (if double then '"' else '\'') then
        some (.ofPieces (word :: read) p.next false)
      else
        let (pause, p) := ({ isBroken := escaped } : Pause).take p
        go fuel (pause.text :: word :: read) p

/-! ### Block scalars -/

/-- How the line breaks at the end of a block scalar are kept. -/
inductive Chomping
  | clip
  | strip
  | keep
  deriving DecidableEq

def chomping? : List Char → Option (Chomping × List Char)
  | '+' :: rest => some (.keep, rest)
  | '-' :: rest => some (.strip, rest)
  | _ => none

/-- An indentation of one digit, which is not zero; none if there is no digit. -/
def indentation? (text : List Char) : Option (Option Nat × List Char) :=
  match text with
  | c :: rest =>
    if c == '0' then none
    else if c.isDigit then some (some (c.toNat - '0'.toNat), rest)
    else some (none, text)
  | [] => some (none, [])

/-- The indicators behind the mark of a block scalar, in either order, and the line below. -/
def header? (p : Place) : Option (Chomping × Option Nat × Place) := do
  let (chomping, given, rest) ← match chomping? p.text with
    | some (chomping, rest) => (indentation? rest).map fun (given, rest) => (chomping, given, rest)
    | none => do
      let (given, rest) ← indentation? p.text
      match given, chomping? rest with
      | some _, some (chomping, rest) => some (chomping, given, rest)
      | _, _ => some (.clip, given, rest)
  let p := ((p.skip (p.left - rest.length)).blanks).comment
  guard (endsLine p.text)
  some (chomping, given, p.nextLine)

/-- The empty lines from here on: their breaks, the indentation, which is found from them if it is
zero, and the place of what follows. -/
def emptyLines? (least : Nat) : Nat → Nat → Nat → List Char → Place →
    Option (List Char × Nat × Place)
  | 0, _, _, _, _ => none
  | fuel + 1, indent, deepest, breaks, p =>
    let isIndentation (p : Place) : Bool := indent == 0 || p.column < indent
    let spaces := (p.text.takeWhile (· == ' ')).length
    let p := p.skip (if indent = 0 then spaces else min spaces (indent - p.column))
    let deepest := max deepest p.column
    if isIndentation p && p.text.head? == some '\t' then none
    else if p.text.head?.any isBreak then
      let (line, p) := p.takeBreak
      emptyLines? least fuel indent deepest (breaks ++ line) p
    else some (breaks, if indent = 0 then max (max deepest least) 1 else indent, p)

/-- The content of a block scalar so far, with the breaks that come before the next line. -/
structure Block where
  /-- The lines and the breaks between them, the last ones first. -/
  text : List (List Char) := []
  first : List Char := []
  others : List Char := []
  /-- The last line starts with a blank. -/
  isDeep : Bool := false

/-- The breaks in front of a line: those between lines that do not start with a blank are folded. -/
def Block.join (block : Block) (folded isDeep : Bool) : List Char :=
  if folded && block.first == ['\n'] && !block.isDeep && !isDeep then
    if block.others.isEmpty then [' '] else block.others
  else block.first ++ block.others

/-- The lines of a block scalar of that indentation. -/
def blockLines? (folded : Bool) (indent : Nat) : Nat → Block → Place → Option (Block × Place)
  | 0, _, _ => none
  | fuel + 1, block, p =>
    if p.column ≠ indent || p.text.isEmpty then some (block, p)
    else do
      let isDeep := p.text.head?.any isBlank
      let (line, p) := p.takeWhile (!isBreak ·)
      let (first, p) := p.takeBreak
      let (others, _, p) ← emptyLines? 0 (p.left + 1) indent 0 [] p
      blockLines? folded indent fuel
        ⟨line :: block.join folded isDeep :: block.text, first, others, isDeep⟩ p

/-- A block scalar behind its mark, in a block of that indentation, which is -1 for the outermost
one. -/
def block? (folded : Bool) (outer : Int) (p : Place) : Option Read := do
  let (chomping, given, p) ← header? p
  let indent := match given with
    | some n => outer.toNat + n
    | none => 0
  let (others, indent, p) ←
    emptyLines? (outer + 1).toNat (p.left + 1) indent 0 [] p
  let (block, p) ← blockLines? folded indent (p.left + 1) { others } p
  let ending := match chomping with
    | .strip => []
    | .clip => block.first
    | .keep => block.first ++ block.others
  some (.ofPieces (ending :: block.text) p true)

end MeteredBilling.Yaml.Scalar
