import MeteredBilling.Decimal.Numeral
import MeteredBilling.Json.Basic
import MeteredBilling.Uuid
import MeteredBilling.Word

/-!
# Drafts of JSON values

What stands in a text, as far as it follows the grammar. A draft may hold words that have no value,
such as half of a character, and it may end early where the text leaves the grammar; who reads a
part of it does not meet the faults of other parts. Places of the text may lack a character, which
is a fault of the word that holds them. Each step takes at least one place, so the length of the
text bounds the reader's depth.
-/

namespace MeteredBilling.Json

open Decimal

inductive Draft (α : Type)
  | simple (value : Json α)
  /-- A word without a value, or none where one should stand. -/
  | void
  | arr (items : List (Draft α))
  /-- An object; a name lacks where its words have no value, or the text leaves the grammar. -/
  | obj (members : List (Option String × Draft α))
  deriving Inhabited

/-- A text, where nothing stands for bytes that make no character. -/
abbrev Raw := List (Option Char)

def Raw.ofText (text : String) : Raw := text.toList.map some

namespace Draft

variable {α : Type} [Amount α]

def isSpace (c : Char) : Bool := c == ' ' || c == '\n' || c == '\r' || c == '\t'

def skipSpace (text : Raw) : Raw := text.dropWhile (·.any isSpace)

/-! ### Texts in quotes -/

/-- A character, one half of a pair that makes a character, or neither. -/
inductive Piece
  | char (c : Char)
  | half (unit : Nat)
  | fault
  deriving DecidableEq, Repr

/-- Pairs of halves make characters, and no half may stand alone. -/
def join? : List Piece → Option (List Char)
  | [] => some []
  | .char c :: rest => (join? rest).map (c :: ·)
  | .half high :: .half low :: rest =>
    if high < 0xDC00 && 0xDC00 ≤ low then
      (join? rest).map (Char.ofNat (0x10000 + (high - 0xD800) * 0x400 + (low - 0xDC00)) :: ·)
    else none
  | .half _ :: _ | .fault :: _ => none

def ofUnit (unit : Nat) : Piece :=
  if 0xD800 ≤ unit && unit < 0xE000 then .half unit else .char (Char.ofNat unit)

/-- What the escapes of one character stand for. -/
def escapes : List (Char × Char) :=
  [('"', '"'), ('\\', '\\'), ('/', '/'), ('b', '\x08'), ('f', '\x0c'), ('n', '\n'), ('r', '\r'),
    ('t', '\t')]

/-- The pieces up to the closing quote, and the text behind it. -/
def pieces? : Raw → Option (List Piece × Raw)
  | [] => none
  | some '"' :: rest => some ([], rest)
  | some '\\' :: some 'u' :: some a :: some b :: some c :: some d :: rest => do
    let unit ← Uuid.hexNumber? [a, b, c, d]
    let (tail, rest) ← pieces? rest
    some (ofUnit unit :: tail, rest)
  | some '\\' :: some name :: rest => do
    let c ← escapes.lookup name
    let (tail, rest) ← pieces? rest
    some (.char c :: tail, rest)
  | some c :: rest =>
    if c.toNat < 0x20 || c == '\\' then none
    else (pieces? rest).map fun (tail, rest) => (.char c :: tail, rest)
  | none :: rest => (pieces? rest).map fun (tail, rest) => (.fault :: tail, rest)

/-- The text behind an opening quote, if it is one, and the rest behind the closing quote. -/
def quoted? (text : Raw) : Option (Option String × Raw) :=
  (pieces? text).map fun (pieces, rest) => ((join? pieces).map String.ofList, rest)

/-! ### Values -/

/-- Whole numerals in 64 bits stay whole; every other numeral is a real, which has to be finite. -/
def ofNumeral (n : Numeral) : Draft α :=
  let value : Int := if n.negative then -n.mantissa else n.mantissa
  if n.whole && (Word.holds 64 value || (0 ≤ value && n.mantissa ≤ Word.greatest 64))
      && !(n.negative && n.mantissa == 0) then
    .simple (.int value)
  else
    let x : α := Amount.ofDecimal n.negative n.mantissa n.exponent
    if Amount.isFinite x then .simple (.real x) else .void

def keyword (word : String) (value : Json α) (text : Raw) : Draft α × Option Raw :=
  if (Raw.ofText word).isPrefixOf text then (.simple value, some (text.drop word.length))
  else (.void, none)

/-- The characters at the front that may stand in a numeral. -/
def numeralFront : Raw → List Char
  | some c :: rest =>
    if c.isDigit || "+-.eE".toList.contains c then c :: numeralFront rest else []
  | _ => []

/-- A value that is neither an array nor an object. -/
def readSimple : Raw → Draft α × Option Raw
  | some '"' :: rest =>
    match quoted? rest with
    | some (some text, rest) => (.simple (.str text), some rest)
    | some (none, rest) => (.void, some rest)
    | none => (.void, none)
  | some 'n' :: rest => keyword "null" .null (some 'n' :: rest)
  | some 't' :: rest => keyword "true" (.bool true) (some 't' :: rest)
  | some 'f' :: rest => keyword "false" (.bool false) (some 'f' :: rest)
  | text =>
    let front := numeralFront text
    match strict? front with
    | some (numeral, rest) =>
      (ofNumeral numeral, some (text.drop (front.length - rest.length)))
    | none => (.void, none)

mutual

/-- The value at the front and what stands behind it, if the text follows the grammar up to
there. -/
def readValue : Nat → Raw → Draft α × Option Raw
  | 0, _ => (.void, none)
  | fuel + 1, text =>
    match skipSpace text with
    | some '[' :: rest =>
      match skipSpace rest with
      | some ']' :: rest => (.arr [], some rest)
      | _ =>
        let (items, rest) := readItems fuel rest
        (.arr items, rest)
    | some '\x7b' :: rest =>
      match skipSpace rest with
      | some '\x7d' :: rest => (.obj [], some rest)
      | _ =>
        let (members, rest) := readMembers fuel rest
        (.obj members, rest)
    | text => readSimple text

/-- The items of an array, of which there is at least one, and its end. -/
def readItems : Nat → Raw → List (Draft α) × Option Raw
  | 0, _ => ([.void], none)
  | fuel + 1, text =>
    match readValue fuel text with
    | (item, none) => ([item], none)
    | (item, some rest) =>
      match skipSpace rest with
      | some ',' :: rest =>
        let (items, rest) := readItems fuel rest
        (item :: items, rest)
      | some ']' :: rest => ([item], some rest)
      | _ => ([item, .void], none)

/-- The members of an object, of which there is at least one, and its end. -/
def readMembers : Nat → Raw → List (Option String × Draft α) × Option Raw
  | 0, _ => ([(none, .void)], none)
  | fuel + 1, text =>
    match skipSpace text with
    | some '"' :: rest =>
      match (quoted? rest).map fun (name, rest) => (name, skipSpace rest) with
      | some (name, some ':' :: rest) =>
        match readValue fuel rest with
        | (value, none) => ([(name, value), (none, .void)], none)
        | (value, some rest) =>
          match skipSpace rest with
          | some ',' :: rest =>
            let (members, rest) := readMembers fuel rest
            ((name, value) :: members, rest)
          | some '\x7d' :: rest => ([(name, value)], some rest)
          | _ => ([(name, value), (none, .void)], none)
      | _ => ([(none, .void)], none)
    | _ => ([(none, .void)], none)

end

/-- The value at the front of a text and what stands behind it, if the value is complete. -/
def leading (text : Raw) : Draft α × Option Raw :=
  readValue (2 * text.length + 2) text

/-- The value that makes up the whole text. -/
def whole? (text : Raw) : Option (Draft α) :=
  match leading text with
  | (draft, some rest) => if (skipSpace rest).isEmpty then some draft else none
  | (_, none) => none

end Draft
end MeteredBilling.Json
