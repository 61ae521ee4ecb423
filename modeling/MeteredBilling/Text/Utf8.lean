/-!
# Text in bytes

Decoding of UTF-8, strictly or with replacements: a lead byte says which values the bytes behind it
may have, and the bytes up to the first one out of place make one fault.
-/

namespace MeteredBilling.Text.Utf8

/-- The bounds of a byte. -/
abbrev Window := Nat × Nat

def anyTail : Window := (0x80, 0xBF)

/-- The bits that a lead byte gives to its character, and the windows of the bytes that follow. -/
def lead? (b : Nat) : Option (Nat × List Window) :=
  if b ≤ 0x7F then some (b, [])
  else if 0xC2 ≤ b ∧ b ≤ 0xDF then some (b - 0xC0, [anyTail])
  else if b = 0xE0 then some (0, [(0xA0, 0xBF), anyTail])
  else if b = 0xED then some (0xD, [(0x80, 0x9F), anyTail])
  else if 0xE1 ≤ b ∧ b ≤ 0xEF then some (b - 0xE0, [anyTail, anyTail])
  else if b = 0xF0 then some (0, [(0x90, 0xBF), anyTail, anyTail])
  else if 0xF1 ≤ b ∧ b ≤ 0xF3 then some (b - 0xF0, [anyTail, anyTail, anyTail])
  else if b = 0xF4 then some (4, [(0x80, 0x8F), anyTail, anyTail])
  else none

/-- The value of a character from its windows on, and the bytes left; no value if a byte is out of
place, which is left. -/
def takeTail : List Window → Nat → List UInt8 → Option Nat × List UInt8
  | [], value, bytes => (some value, bytes)
  | _ :: _, _, [] => (none, [])
  | (low, high) :: windows, value, b :: rest =>
    if low ≤ b.toNat ∧ b.toNat ≤ high then takeTail windows (value * 64 + b.toNat % 64) rest
    else (none, b :: rest)

theorem length_takeTail_le (windows : List Window) (value : Nat) (bytes : List UInt8) :
    (takeTail windows value bytes).2.length ≤ bytes.length := by
  fun_induction takeTail windows value bytes with
  | case3 _ _ _ _ _ _ _ ih => exact Nat.le_succ_of_le ih
  | _ => simp

/-- The character at the front, or a fault, and the bytes behind it. -/
def front (b : UInt8) (rest : List UInt8) : Option Char × List UInt8 :=
  match lead? b.toNat with
  | none => (none, rest)
  | some (value, windows) =>
    let (value, rest) := takeTail windows value rest
    (value.map Char.ofNat, rest)

theorem length_front_le (b : UInt8) (rest : List UInt8) :
    (front b rest).2.length ≤ rest.length := by
  unfold front
  split
  · exact Nat.le_refl _
  · exact length_takeTail_le ..

/-- The characters and the faults, in their order. -/
def characters : List UInt8 → List (Option Char)
  | [] => []
  | b :: rest => (front b rest).1 :: characters (front b rest).2
termination_by bytes => bytes.length
decreasing_by exact Nat.lt_succ_of_le (length_front_le b rest)

def encode (text : String) : List UInt8 := text.toUTF8.toList

def decode? (bytes : List UInt8) : Option String := ((characters bytes).mapM id).map String.ofList

/-- Stands for a fault. -/
def replacement : Char := '\ufffd'

/-- A replacement stands for every fault. -/
def decodeLossy (bytes : List UInt8) : String :=
  String.ofList ((characters bytes).map (·.getD replacement))

end MeteredBilling.Text.Utf8
