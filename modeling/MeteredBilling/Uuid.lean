/-!
# Unique identifiers

Identifiers of 128 bits, read in any of their usual spellings and written in lower case with
hyphens.
-/

namespace MeteredBilling

structure Uuid where
  bits : BitVec 128
  deriving DecidableEq, Repr, Inhabited

namespace Uuid

def hexValue? (c : Char) : Option Nat :=
  if c.isDigit then some (c.toNat - '0'.toNat)
  else if 'a' ≤ c ∧ c ≤ 'f' then some (c.toNat - 'a'.toNat + 10)
  else if 'A' ≤ c ∧ c ≤ 'F' then some (c.toNat - 'A'.toNat + 10)
  else none

def hexNumber? (digits : List Char) : Option Nat :=
  digits.foldlM (fun value c => (hexValue? c).map (value * 16 + ·)) 0

/-- Thirty-two hexadecimal digits. -/
def simple? (text : List Char) : Option Uuid :=
  if text.length = 32 then (hexNumber? text).map fun n => ⟨BitVec.ofNat 128 n⟩ else none

/-- Groups of 8, 4, 4, 4 and 12 digits with hyphens between them. -/
def hyphenated? (text : List Char) : Option Uuid :=
  let isHyphen (i : Nat) := text[i]? == some '-'
  if text.length = 36 && isHyphen 8 && isHyphen 13 && isHyphen 18 && isHyphen 23 then
    simple? (text.filter (· != '-'))
  else none

def urnLead : List Char := "urn:uuid:".toList

/-- Whether the text starts with the mark of a resource name, in any case. -/
def isUrn (text : List Char) : Bool := (text.take 9).map Char.toLower == urnLead

def parse? (source : String) : Option Uuid :=
  let text := source.toList
  match text.length with
  | 32 => simple? text
  | 36 => hyphenated? text
  | 38 =>
    if text.head? = some '\x7b' ∧ text.getLast? = some '\x7d' then
      hyphenated? (text.drop 1).dropLast
    else none
  | 45 => if isUrn text then hyphenated? (text.drop 9) else none
  | _ => none

/-! ### Faults -/

/-- The text behind a mark of one of the longer spellings, its place, and whether there is none. -/
def unmarked (text : List Char) : List Char × Nat × Bool :=
  if text.head? = some '\x7b' ∧ text.getLast? = some '\x7d' ∧ 1 < text.length then
    ((text.drop 1).dropLast, 1, false)
  else if isUrn text then (text.drop 9, 9, false)
  else (text, 0, true)

/-- The first character that may not stand in an identifier, with its place in bytes. -/
def strayFrom? (place : Nat) : List Char → Option (Char × Nat)
  | [] => none
  | c :: rest =>
    if c == '-' || (hexValue? c).isSome then strayFrom? (place + c.utf8Size) rest
    else some (c, place)

def groupLengths : List Nat := [8, 4, 4, 4, 12]

/-- The lengths of the runs between hyphens. -/
def runLengths (text : List Char) : List Nat :=
  text.foldr (fun c runs =>
    if c == '-' then 0 :: runs
    else match runs with
      | n :: rest => (n + 1) :: rest
      | [] => [1])
    [0]

/-- The complaint about a text that is no identifier: a stray character, the length, the number of
the groups, or the first group of another length. -/
def fault (source : String) : String :=
  let (text, place, simple) := unmarked source.toList
  match strayFrom? place text with
  | some (c, index) =>
    "invalid character: found \x60" ++ String.singleton c ++ "\x60 at " ++ toString index
  | none =>
    let runs := runLengths text
    if runs.length = 1 && simple then
      "invalid length: found " ++ toString source.utf8ByteSize
    else if runs.length ≠ 5 then
      "invalid group count: expected 5, found " ++ toString runs.length
    else
      let others := ((runs.zip groupLengths).zipIdx).filter fun ((found, expected), i) =>
        i = 4 || found ≠ expected
      match others with
      | ((found, expected), i) :: _ =>
        let found := if i = 4 then source.utf8ByteSize - 24 else found
        "invalid group length in group " ++ toString i ++ ": expected " ++ toString expected
          ++ ", found " ++ toString found
      | [] => ""

def parse (source : String) : Except String Uuid :=
  match parse? source with
  | some id => .ok id
  | none => .error (fault source)

/-! ### Writing -/

/-- The lowest `count` hexadecimal digits of `n`. -/
def hexText (count n : Nat) : List Char :=
  (List.range count).reverse.map fun i => Nat.digitChar (n / Nat.pow 16 i % 16)

def chars (id : Uuid) : List Char :=
  let digits := hexText 32 id.bits.toNat
  digits.take 8 ++ '-' :: (digits.drop 8).take 4 ++ '-' :: (digits.drop 12).take 4
    ++ '-' :: (digits.drop 16).take 4 ++ '-' :: digits.drop 20

def text (id : Uuid) : String := String.ofList id.chars

end Uuid
end MeteredBilling
