import MeteredBilling.Yaml.Property
import MeteredBilling.Yaml.Scalar

/-!
# Lexer

Splits a document into its tokens. A block starts where the indentation grows and ends where it
shrinks. What may be a key is remembered until the colon behind it is found, which has to stand on
the same line and not too far away; then its mark is inserted in front of it.
-/

namespace MeteredBilling.Yaml

/-- The start of what a colon makes a key. -/
structure Candidate where
  /-- The number of tokens in front of it. -/
  number : Nat
  place : Place
  /-- Nothing but a key can stand here. -/
  required : Bool

/-- The colon of a key can no longer follow at this place. -/
def Candidate.isStale (p : Place) (candidate : Candidate) : Bool :=
  candidate.place.line < p.line || p.left + 1024 < candidate.place.left

structure Lexer where
  place : Place
  tokens : Array Token := #[]
  /-- The column of the innermost block. -/
  indent : Int := -1
  /-- The columns of the blocks around it. -/
  outer : List Int := []
  candidate : Option Candidate := none
  /-- The candidates in front of the flows around this place. -/
  enclosing : List (Option Candidate) := []
  /-- A key may start here. -/
  keyAllowed : Bool := true
  /-- The numbers of the anchors by their names. -/
  names : List (String × Nat) := []

namespace Lexer

def inFlow (lexer : Lexer) : Bool := !lexer.enclosing.isEmpty

def emit (token : Token) (lexer : Lexer) : Lexer :=
  { lexer with tokens := lexer.tokens.push token }

def insert (number : Nat) (token : Token) (lexer : Lexer) : Lexer :=
  { lexer with tokens := lexer.tokens.insertIdxIfInBounds number token }

/-! ### Blocks -/

/-- Ends the blocks that are indented more than that. -/
def unroll (column : Int) (lexer : Lexer) : Lexer :=
  if lexer.inFlow then lexer else go lexer.outer lexer
where
  go : List Int → Lexer → Lexer
    | [], lexer => lexer
    | indent :: outer, lexer =>
      if column < lexer.indent then go outer { lexer.emit .blockEnd with indent, outer }
      else lexer

/-- Starts a block in front of a token if it is indented more than the block around it. -/
def roll (column : Int) (number : Nat) (start : Token) (lexer : Lexer) : Lexer :=
  if lexer.inFlow || column ≤ lexer.indent then lexer
  else
    { lexer.insert number start with indent := column, outer := lexer.indent :: lexer.outer }

/-! ### Candidates -/

/-- Gives up the candidate, which must not be required. -/
def dismiss? (lexer : Lexer) : Option Lexer := do
  guard (!lexer.candidate.any (·.required))
  some { lexer with candidate := none }

/-- Gives up all candidates that are stale. -/
def refresh? (lexer : Lexer) : Option Lexer := do
  let isStale := Candidate.isStale lexer.place
  let all := lexer.candidate :: lexer.enclosing
  guard (!all.any fun candidate => candidate.any fun c => c.required && isStale c)
  some { lexer with
    candidate := lexer.candidate.filter (!isStale ·)
    enclosing := lexer.enclosing.map fun candidate => candidate.filter (!isStale ·) }

/-- Remembers this place if a key may start here. -/
def propose? (lexer : Lexer) : Option Lexer :=
  if !lexer.keyAllowed then some lexer
  else do
    let required := !lexer.inFlow && lexer.indent == lexer.place.column
    let candidate : Candidate := ⟨lexer.tokens.size, lexer.place, required⟩
    some { ← lexer.dismiss? with candidate := some candidate }

/-! ### Tokens -/

/-- Takes a token of so many characters. -/
def take (token : Token) (length : Nat) (keyAllowed : Bool) (lexer : Lexer) : Lexer :=
  { lexer.emit token with place := lexer.place.skip length, keyAllowed }

/-- Takes what may be the start of a key, up to that place. -/
def content? (token : Token) (place : Place) (keyAllowed : Bool) (lexer : Lexer) :
    Option Lexer := do
  some { (← lexer.propose?).emit token with place, keyAllowed }

def scalar? (style : Style) (read : Scalar.Read) (lexer : Lexer) : Option Lexer :=
  lexer.content? (.scalar (String.ofList read.text) style) read.place read.isBroken

/-- Block scalars are no keys. -/
def blockScalar? (style : Style) (lexer : Lexer) : Option Lexer := do
  let lexer ← lexer.dismiss?
  let read ← Scalar.block? (style == .folded) lexer.indent lexer.place.next
  some { lexer.emit (.scalar (String.ofList read.text) style) with
    place := read.place, keyAllowed := true }

/-- Between documents there are no blocks. -/
def boundary? (token : Token) (lexer : Lexer) : Option Lexer := do
  some ((← (lexer.unroll (-1)).dismiss?).take token 3 false)

def directive? (lexer : Lexer) : Option Lexer := do
  let (token, place) ← Property.directive? lexer.place.next
  some { (← (lexer.unroll (-1)).dismiss?).emit token with place, keyAllowed := false }

def openFlow? (token : Token) (lexer : Lexer) : Option Lexer := do
  let lexer := (← lexer.propose?).take token 1 true
  some { lexer with candidate := none, enclosing := lexer.candidate :: lexer.enclosing }

def closeFlow? (token : Token) (lexer : Lexer) : Option Lexer := do
  let lexer := (← lexer.dismiss?).take token 1 false
  match lexer.enclosing with
  | [] => some lexer
  | candidate :: enclosing => some { lexer with candidate, enclosing }

/-- The indicator of an entry in a block, which it may start. -/
def indicator? (start token : Token) (keyAllowed : Bool) (lexer : Lexer) : Option Lexer := do
  guard (lexer.inFlow || lexer.keyAllowed)
  let lexer := lexer.roll lexer.place.column lexer.tokens.size start
  some ((← lexer.dismiss?).take token 1 keyAllowed)

/-- The colon of a value, which makes the candidate a key. -/
def value? (lexer : Lexer) : Option Lexer :=
  match lexer.candidate with
  | none => lexer.indicator? .blockMapping .value (!lexer.inFlow)
  | some { number, place, .. } =>
    let lexer := (lexer.insert number .key).roll place.column number .blockMapping
    some ({ lexer with candidate := none }.take .value 1 false)

/-- An anchor is numbered by the names that are known before it. -/
def anchor? (lexer : Lexer) : Option Lexer := do
  let (name, place) ← Property.name? lexer.place.next
  let number := lexer.names.length
  let names := (name, number) :: lexer.names.filter (·.1 != name)
  { lexer with names }.content? (.anchor number) place false

def reference? (lexer : Lexer) : Option Lexer := do
  let (name, place) ← Property.name? lexer.place.next
  lexer.content? (.reference (← lexer.names.lookup name)) place false

/-- Takes the token at this place. -/
def token? (lexer : Lexer) : Option Lexer :=
  let p := lexer.place
  let inFlow := lexer.inFlow
  match p.text with
  | [] => none
  | c :: rest =>
    if c == '%' && p.column == 0 then lexer.directive?
    else if p.isAtMarker '-' then lexer.boundary? .documentStart
    else if p.isAtMarker '.' then lexer.boundary? .documentEnd
    else if c == '-' && endsToken rest then lexer.indicator? .blockSequence .dash true
    else if c == '?' && (inFlow || endsToken rest) then
      lexer.indicator? .blockMapping .key (!inFlow)
    else if c == ':' && (inFlow || endsToken rest) then lexer.value?
    else match c with
      | '[' => lexer.openFlow? .flowSequence
      | '\x7b' => lexer.openFlow? .flowMapping
      | ']' => lexer.closeFlow? .flowSequenceEnd
      | '\x7d' => lexer.closeFlow? .flowMappingEnd
      | ',' => lexer.dismiss?.map (·.take .comma 1 true)
      | '*' => lexer.reference?
      | '&' => lexer.anchor?
      | '!' => do
        let (token, place) ← Property.tagToken? inFlow p
        lexer.content? token place false
      | '\'' => do lexer.scalar? .singleQuoted (← Scalar.quoted? false p.next)
      | '"' => do lexer.scalar? .doubleQuoted (← Scalar.quoted? true p.next)
      | _ =>
        if c == '|' && !inFlow then lexer.blockScalar? .literal
        else if c == '>' && !inFlow then lexer.blockScalar? .folded
        else do
          guard (Scalar.startsPlain inFlow p.text)
          lexer.scalar? .plain (← Scalar.plain? inFlow (lexer.indent + 1) p)

/-- Goes to the next token. A byte order mark may start a line, tabs may not stand where a key may
start, and behind a line break one may start. -/
def gap (lexer : Lexer) : Lexer := go (lexer.place.left + 1) lexer
where
  go : Nat → Lexer → Lexer
    | 0, lexer => lexer
    | fuel + 1, lexer =>
      let p := lexer.place
      let p := if p.column == 0 && p.text.head? == some '\ufeff' then p.next else p
      let tabs := lexer.inFlow || !lexer.keyAllowed
      let p := (p.skipWhile fun c => c == ' ' || (tabs && c == '\t')).comment
      if p.text.head?.any isBreak then
        go fuel { lexer with place := p.nextLine, keyAllowed := lexer.keyAllowed || !lexer.inFlow }
      else { lexer with place := p }

/-- All tokens from here on. -/
def run? : Nat → Lexer → Option (List Token)
  | 0, _ => none
  | fuel + 1, lexer => do
    let lexer ← lexer.gap.refresh?
    let lexer := lexer.unroll lexer.place.column
    if lexer.place.text.isEmpty then
      (lexer.unroll (-1)).dismiss?.map (·.tokens.toList)
    else run? fuel (← lexer.token?)

end Lexer

/-- The tokens of a document; every one of them takes a character. -/
def Token.ofText? (text : String) : Option (List Token) := do
  let place := Place.ofText text
  guard (place.text.all isAllowed)
  Lexer.run? (place.left + 1) { place }

end MeteredBilling.Yaml
