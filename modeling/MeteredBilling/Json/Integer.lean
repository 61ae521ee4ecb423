import MeteredBilling.Json.Source

/-!
# Whole numbers as texts

Why a text is no whole number in 64 bits: the reader's words, and the place where it stopped as a
line and the bytes of that line in front of it.
-/

namespace MeteredBilling.Json.Integer

open Decimal

/-- Why a reader stopped, and what it had left. -/
structure Stop where
  words : String
  rest : List Char
  /-- The next byte has been seen. -/
  ahead : Bool := false

variable {β : Type}

def before (words : String) (rest : List Char) : Except Stop β := .error ⟨words, rest, false⟩

def behind (words : String) (rest : List Char) : Except Stop β := .error ⟨words, rest, true⟩

/-- The end of what is left. -/
def ending (words : String) : Except Stop β := before words []

def Stop.message (text : List Char) (stop : Stop) : String :=
  let next := if stop.ahead then stop.rest.take 1 else []
  let read := text.take (text.length - stop.rest.length)
    ++ next.map fun c => if c == '\n' then c else ' '
  let line := (read.reverse.takeWhile (· != '\n')).reverse
  stop.words ++ " at line " ++ toString (read.count '\n' + 1) ++ " column "
    ++ toString (String.ofList line).utf8ByteSize

/-! ### Words -/

/-- The text behind the rest of a word. -/
def word : (expected text : List Char) → Except Stop (List Char)
  | [], text => .ok text
  | _, [] => ending "EOF while parsing a value"
  | e :: expected, c :: text =>
    if c == e then word expected text else behind "expected ident" (c :: text)

def cutQuote : Except Stop β := ending "EOF while parsing a string"

/-- The second half of a character, behind the first one. -/
def secondHalf : List Char → Except Stop (Nat × List Char)
  | '\\' :: 'u' :: a :: b :: c :: d :: rest =>
    match Uuid.hexNumber? [a, b, c, d] with
    | none => before "invalid escape" rest
    | some unit =>
      if 0xDC00 ≤ unit && unit < 0xE000 then .ok (unit, rest)
      else before "lone leading surrogate in hex escape" rest
  | '\\' :: 'u' :: _ | '\\' :: [] | [] => cutQuote
  | '\\' :: rest | rest => behind "unexpected end of hex escape" rest

/-- The text up to the closing quote, and what stands behind it. -/
def quoted : Nat → List Char → Except Stop (List Char × List Char)
  | 0, _ | _, [] => cutQuote
  | _, '"' :: rest => .ok ([], rest)
  | fuel + 1, '\\' :: 'u' :: a :: b :: c :: d :: rest => do
    let some unit := Uuid.hexNumber? [a, b, c, d] | before "invalid escape" rest
    if 0xDC00 ≤ unit && unit < 0xE000 then before "lone leading surrogate in hex escape" rest
    else
      let (second, rest) ←
        if 0xD800 ≤ unit && unit < 0xDC00 then secondHalf rest else .ok (0, rest)
      let code := if second = 0 then unit
        else 0x10000 + (unit - 0xD800) * 0x400 + (second - 0xDC00)
      let (text, rest) ← quoted fuel rest
      .ok (Char.ofNat code :: text, rest)
  | _, '\\' :: 'u' :: _ | _, '\\' :: [] => cutQuote
  | fuel + 1, '\\' :: name :: rest => do
    let some c := Draft.escapes.lookup name | behind "invalid escape" (name :: rest)
    let (text, rest) ← quoted fuel rest
    .ok (c :: text, rest)
  | fuel + 1, c :: rest =>
    if c.toNat < 0x20 then
      behind "control character (\\u0000-\\u001F) found while parsing a string" (c :: rest)
    else do
      let (text, rest) ← quoted fuel rest
      .ok (c :: text, rest)

/-! ### Numbers -/

def digits (text : List Char) : List Char × List Char :=
  (text.takeWhile Char.isDigit, text.dropWhile Char.isDigit)

/-- The digits in front of a point or a mark. Behind a zero at their front there are no others. -/
def whole (text : List Char) : Except Stop (List Char × List Char) :=
  match text with
  | [] => ending "EOF while parsing a value"
  | '0' :: rest =>
    if rest.head?.any Char.isDigit then behind "invalid number" rest else .ok (['0'], rest)
  | c :: _ => if c.isDigit then .ok (digits text) else behind "invalid number" text

def places (text : List Char) : Except Stop (Option (List Char) × List Char) :=
  match text with
  | '.' :: rest =>
    match digits rest with
    | ([], []) => ending "EOF while parsing a value"
    | ([], rest) => behind "invalid number" rest
    | (found, rest) => .ok (some found, rest)
  | _ => .ok (none, text)

def power (text : List Char) : Except Stop (Option Int × List Char) :=
  match text with
  | mark :: rest =>
    if mark == 'e' || mark == 'E' then
      let (negative, rest) := match rest with
        | '-' :: rest => (true, rest)
        | '+' :: rest => (false, rest)
        | rest => (false, rest)
      match digits rest with
      | ([], []) => ending "EOF while parsing a value"
      | ([], rest) => behind "invalid number" rest
      | (found, rest) =>
        let size : Int := digitsValue found
        .ok (some (if negative then -size else size), rest)
    else .ok (none, text)
  | [] => .ok (none, [])

variable (α : Type) [Amount α]

/-- The text behind a number, which has to be a whole one in 64 bits. -/
def number (negative : Bool) (text : List Char) : Except Stop (List Char) := do
  let (front, rest) ← whole text
  let (fraction, rest) ← places rest
  let (exponent, rest) ← power rest
  match Draft.ofNumeral (α := α) (.build negative front fraction exponent) with
  | .simple (.int n) =>
    if Word.holds 64 n then .ok rest
    else before ("invalid value: " ++ (int n : Json α).describe ++ ", expected i64") rest
  | .simple value => before (DecodeError.mismatch value.describe "i64") rest
  | _ => before "number out of range" rest

/-! ### Texts -/

/-- The text behind a value at the front, which has to be a whole number. -/
def value (text : List Char) : Except Stop (List Char) := do
  let unfit (kind : Json α) (rest : List Char) : Except Stop (List Char) :=
    before (DecodeError.mismatch kind.describe "i64") rest
  match text with
  | [] => ending "EOF while parsing a value"
  | '-' :: rest => number α true rest
  | 'n' :: rest => unfit .null (← word "ull".toList rest)
  | 't' :: rest => unfit (.bool true) (← word "rue".toList rest)
  | 'f' :: rest => unfit (.bool false) (← word "alse".toList rest)
  | '"' :: rest =>
    let (found, rest) ← quoted (rest.length + 1) rest
    unfit (.str (String.ofList found)) rest
  | '[' :: _ => unfit (.arr []) text
  | '\x7b' :: _ => unfit (.obj []) text
  | c :: _ => if c.isDigit then number α false text else behind "expected value" text

/-- The complaint about a text that is no whole number in 64 bits. -/
def fault? (text : String) : Option String :=
  let check : Except Stop PUnit := do
    let rest := (← value α (text.toList.dropWhile Draft.isSpace)).dropWhile Draft.isSpace
    if !rest.isEmpty then behind "trailing characters" rest
  match check with
  | .ok _ => none
  | .error stop => some (stop.message text.toList)

end MeteredBilling.Json.Integer
