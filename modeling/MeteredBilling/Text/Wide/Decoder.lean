import MeteredBilling.Text.Utf8
import MeteredBilling.Text.Wide.Japanese
import MeteredBilling.Text.Wide.Korean
import MeteredBilling.Text.Wide.Simplified
import MeteredBilling.Text.Wide.Traditional

/-!
# Encodings of wide characters

Encodings of the scripts of East Asia, in which most characters take two bytes. A byte that fits no
other one is a fault, and so are two that stand for no character; of those the second one is left if
it is plain.
-/

namespace MeteredBilling.Text

inductive Wide
  | gb18030
  | big5
  | eucJp
  | iso2022Jp
  | shiftJis
  | eucKr
  deriving DecidableEq, Repr

namespace Wide

/-- What bytes at the front stand for, and the bytes behind them. -/
abbrev Front := List Char × List UInt8

def fault : List Char := [Utf8.replacement]

def isWithin (low high : Nat) (n : Nat) : Bool := low ≤ n && n ≤ high

/-- A lead and the byte behind it. -/
def pair (find? : Nat → Nat → Option (List Char)) (lead : UInt8) : List UInt8 → Front
  | [] => (fault, [])
  | trail :: rest =>
    match find? lead.toNat trail.toNat with
    | some chars => (chars, rest)
    | none => (fault, if trail < 0x80 then trail :: rest else rest)

/-- The column of a trail, of those from 0x40 on without 0x7F. -/
def column? (trail : Nat) : Option Nat :=
  if isWithin 0x40 0x7E trail then some (trail - 0x40)
  else if isWithin 0x80 0xFE trail then some (trail - 0x41)
  else none

/-- The place in rows of 94. -/
def place94? (lead trail : Nat) : Option Nat :=
  if isWithin 0xA1 0xFE lead && isWithin 0xA1 0xFE trail then
    some ((lead - 0xA1) * 94 + (trail - 0xA1))
  else none

/-- Katakana of half the width have a byte of their own. -/
def katakana (b : Nat) : List Char := [Char.ofNat (0xFF61 + (b - 0xA1))]

/-! ### Chinese -/

/-- The ideographs that fill up the rows. -/
def moreIdeographs : Array Char := simplified.absent 0x4E00 0x9FA5

/-- The ideographs that fill up the rows stand in front of the table, and on the left of it. -/
def filledPlace? (lead column : Nat) : Option Nat :=
  if lead ≤ 0xA0 then some ((lead - 0x81) * 190 + column)
  else if 0xAA ≤ lead && column < 96 then some (32 * 190 + (lead - 0xAA) * 96 + column)
  else none

/-- Characters of private use stand in rows that hold nothing else. -/
def privatePlace? (lead column : Nat) : Option Nat :=
  if isWithin 0xAA 0xAF lead && 96 ≤ column then some ((lead - 0xAA) * 94 + (column - 96))
  else if 0xF8 ≤ lead && 96 ≤ column then some ((lead - 0xF8 + 6) * 94 + (column - 96))
  else if isWithin 0xA1 0xA7 lead && column < 96 then
    some (13 * 94 + (lead - 0xA1) * 96 + column)
  else none

def simplified? (lead trail : Nat) : Option (List Char) := do
  let column ← column? trail
  let c ← simplified.find? ((lead - 0x81) * 190 + column)
    <|> (filledPlace? lead column).bind (moreIdeographs[·]?)
    <|> (privatePlace? lead column).map fun place => Char.ofNat (0xE000 + place)
  some [c]

/-- Four bytes count up the characters without a place in the table. -/
def fourBytes? (a b c d : Nat) : Option Char := do
  let place := ((a - 0x81) * 10 + (b - 0x30)) * 1260 + (c - 0x81) * 10 + (d - 0x30)
  if 189000 ≤ place then
    guard (place ≤ 1237575)
    some (Char.ofNat (0x10000 + (place - 189000)))
  else
    guard (place ≤ 39419)
    let (start, first) ← (fourByteRuns.takeWhile (·.1 ≤ place)).getLast?
    some (Char.ofNat (first + (place - start)))

def frontGb18030 (b : UInt8) (rest : List UInt8) : Front :=
  let isDigit (b : UInt8) : Bool := isWithin 0x30 0x39 b.toNat
  if b == 0x80 then (['€'], rest)
  else if b == 0xFF then (fault, rest)
  else match rest with
    | second :: more =>
      if !isDigit second then pair simplified? b rest
      else match more with
        | [] => (fault, [])
        | [third] => (fault, if isWithin 0x81 0xFE third.toNat then [] else rest)
        | third :: fourth :: behind =>
          if isWithin 0x81 0xFE third.toNat && isDigit fourth then
            match fourBytes? b.toNat second.toNat third.toNat fourth.toNat with
            | some c => ([c], behind)
            | none => (fault, behind)
          else (fault, rest)
    | [] => (fault, [])

/-- A few places hold a letter with a sign above it. -/
def composed : List (Nat × List Char) :=
  [(1133, ['\u00ca', '\u0304']), (1135, ['\u00ca', '\u030c']), (1164, ['\u00ea', '\u0304']),
    (1166, ['\u00ea', '\u030c'])]

def traditional? (lead trail : Nat) : Option (List Char) := do
  let column ←
    if isWithin 0x40 0x7E trail then some (trail - 0x40)
    else if isWithin 0xA1 0xFE trail then some (trail - 0x62)
    else none
  let place := (lead - 0x81) * 157 + column
  composed.lookup place <|> (traditional.find? place).map ([·])

def frontBig5 (b : UInt8) (rest : List UInt8) : Front :=
  if isWithin 0x81 0xFE b.toNat then pair traditional? b rest else (fault, rest)

/-! ### Japanese -/

def frontEucJp (b : UInt8) (rest : List UInt8) : Front :=
  let inTable (table : Table) (lead trail : Nat) : Option (List Char) :=
    ((place94? lead trail).bind table.find?).map ([·])
  if b == 0x8E then
    pair (fun _ trail => if isWithin 0xA1 0xDF trail then some (katakana trail) else none) b rest
  else if b == 0x8F then
    match rest with
    | second :: more =>
      if isWithin 0xA1 0xFE second.toNat then pair (inTable japaneseMore) second more
      else pair (fun _ _ => none) b rest
    | [] => (fault, [])
  else if isWithin 0xA1 0xFE b.toNat then pair (inTable japanese) b rest
  else (fault, rest)

def shifted? (lead trail : Nat) : Option (List Char) := do
  let column ← (column? trail).filter (· < 188)
  let place := (lead - if lead < 0xA0 then 0x81 else 0xC1) * 188 + column
  if isWithin 8836 10715 place then some [Char.ofNat (0xE000 + (place - 8836))]
  else (japanese.find? place).map ([·])

def frontShiftJis (b : UInt8) (rest : List UInt8) : Front :=
  if b == 0x80 then ([Char.ofNat 0x80], rest)
  else if isWithin 0xA1 0xDF b.toNat then (katakana b.toNat, rest)
  else if isWithin 0x81 0x9F b.toNat || isWithin 0xE0 0xFC b.toNat then pair shifted? b rest
  else (fault, rest)

/-- The sets of characters that escapes choose. -/
inductive Mode
  | ascii
  | roman
  | katakana
  | wide
  deriving DecidableEq

/-- The bytes of an escape. -/
def modes : List (List UInt8 × Mode) :=
  [([0x28, 0x42], .ascii), ([0x28, 0x4A], .roman), ([0x28, 0x49], .katakana),
    ([0x24, 0x40], .wide), ([0x24, 0x42], .wide)]

/-- What a byte, and the one behind it, stand for in a mode. -/
def frontInMode (mode : Mode) (b : UInt8) (rest : List UInt8) : Front :=
  let n := b.toNat
  match mode with
  | .ascii | .roman =>
    if mode == .roman && n == 0x5C then (['¥'], rest)
    else if mode == .roman && n == 0x7E then (['‾'], rest)
    else if n < 0x80 && n != 0x0E && n != 0x0F then ([Char.ofNat n], rest)
    else (fault, rest)
  | .katakana => (if isWithin 0x21 0x5F n then Wide.katakana (n + 0x80) else fault, rest)
  | .wide =>
    if !isWithin 0x21 0x7E n then (fault, rest)
    else match rest with
      | [] => (fault, [])
      | trail :: more =>
        if trail == 0x1B then (fault, rest)
        else
          let place := if trail < 0x80 then place94? (n + 0x80) (trail.toNat + 0x80) else none
          (((place.bind japanese.find?).map ([·])).getD fault, more)

/-- Reads bytes in a mode. An escape directly behind another one is a fault. -/
def readIso2022Jp : Nat → Mode → (isEscaped : Bool) → List UInt8 → List Char
  | 0, _, _, _ => []
  | _, _, _, [] => []
  | fuel + 1, mode, isEscaped, b :: rest =>
    if b == 0x1B then
      match modes.lookup (rest.take 2) with
      | some mode =>
        (if isEscaped then fault else []) ++ readIso2022Jp fuel mode true (rest.drop 2)
      | none => fault ++ readIso2022Jp fuel mode false rest
    else
      let (chars, rest) := frontInMode mode b rest
      chars ++ readIso2022Jp fuel mode false rest

/-! ### Korean -/

/-- The syllables that fill up the rows. -/
def moreSyllables : Array Char := korean.absent 0xAC00 0xD7A3

/-- The syllables that fill up the rows stand in front of the table, and on the left of it, where
trails are letters or have no plain form. -/
def syllablePlace? (lead trail : Nat) : Option Nat := do
  let column ←
    if isWithin 0x41 0x5A trail then some (trail - 0x41)
    else if isWithin 0x61 0x7A trail then some (trail - 0x61 + 26)
    else if isWithin 0x81 0xFE trail then some (trail - 0x81 + 52)
    else none
  if lead ≤ 0xA0 then some ((lead - 0x81) * 178 + column)
  else if column < 84 then some (32 * 178 + (lead - 0xA1) * 84 + column)
  else none

def korean? (lead trail : Nat) : Option (List Char) :=
  ((place94? lead trail).bind korean.find?
    <|> (syllablePlace? lead trail).bind (moreSyllables[·]?)).map ([·])

def frontEucKr (b : UInt8) (rest : List UInt8) : Front :=
  if isWithin 0x81 0xFE b.toNat then pair korean? b rest else (fault, rest)

/-! ### Texts -/

/-- The characters of bytes, of which those below 128 are plain. -/
def readAll (front : UInt8 → List UInt8 → Front) : Nat → List UInt8 → List Char
  | 0, _ => []
  | _, [] => []
  | fuel + 1, b :: rest =>
    if b < 0x80 then Char.ofNat b.toNat :: readAll front fuel rest
    else
      let (chars, rest) := front b rest
      chars ++ readAll front fuel rest

def decode (bytes : List UInt8) : Wide → List Char
  | gb18030 => readAll frontGb18030 bytes.length bytes
  | big5 => readAll frontBig5 bytes.length bytes
  | eucJp => readAll frontEucJp bytes.length bytes
  | iso2022Jp => readIso2022Jp bytes.length .ascii false bytes
  | shiftJis => readAll frontShiftJis bytes.length bytes
  | eucKr => readAll frontEucKr bytes.length bytes

end Wide
end MeteredBilling.Text
