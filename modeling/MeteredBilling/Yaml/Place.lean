/-!
# Places in a document

A place knows how many characters are left from it on, and its line and column, since indentation
carries the structure of a document.
-/

namespace MeteredBilling.Yaml

def isBlank (c : Char) : Bool := c == ' ' || c == '\t'

def isBreak (c : Char) : Bool :=
  c == '\n' || c == '\r' || c == '\u0085' || c == '\u2028' || c == '\u2029'

/-- A token ends where the text does, or before a blank or a line break. -/
def endsToken (text : List Char) : Bool := text.head?.all fun c => isBlank c || isBreak c

def endsLine (text : List Char) : Bool := text.head?.all isBreak

/-- The characters that a document may hold. -/
def isAllowed (c : Char) : Bool :=
  let n := c.toNat
  n == 9 || n == 10 || n == 13 || (0x20 ≤ n && n ≤ 0x7E) || n == 0x85 || (0xA0 ≤ n && n ≤ 0xFFFD)
    || 0x10000 ≤ n

/-- The characters of names. -/
def isWord (c : Char) : Bool := c.isAlphanum || c == '-' || c == '_'

structure Place where
  /-- The text from here on. -/
  text : List Char
  /-- The number of its characters. -/
  left : Nat
  line : Nat
  column : Nat

namespace Place

def ofText (text : String) : Place := ⟨text.toList, text.length, 0, 0⟩

/-- The place behind the character at this place, which is no line break. -/
def next (p : Place) : Place :=
  match p.text with
  | [] => p
  | _ :: rest => ⟨rest, p.left - 1, p.line, p.column + 1⟩

def skip : Nat → Place → Place
  | 0, p => p
  | n + 1, p => skip n p.next

def skipWhile (isSkipped : Char → Bool) (p : Place) : Place :=
  p.skip (p.text.takeWhile isSkipped).length

def blanks (p : Place) : Place := p.skipWhile isBlank

/-- The place at the end of the line if nothing but a comment stands before it. -/
def comment (p : Place) : Place :=
  if p.text.head? == some '#' then p.skipWhile (!isBreak ·) else p

/-- The line break at this place, as it is kept in a scalar, and the place behind it. -/
def takeBreak (p : Place) : List Char × Place :=
  match p.text with
  | '\r' :: '\n' :: rest => (['\n'], ⟨rest, p.left - 2, p.line + 1, 0⟩)
  | c :: rest =>
    if isBreak c then
      ([if c == '\u2028' || c == '\u2029' then c else '\n'], ⟨rest, p.left - 1, p.line + 1, 0⟩)
    else ([], p)
  | [] => ([], p)

def nextLine (p : Place) : Place := p.takeBreak.2

/-- Three of these characters make up the start of a line. -/
def isAtMarker (mark : Char) (p : Place) : Bool :=
  p.column == 0 && [mark, mark, mark].isPrefixOf p.text && endsToken (p.text.drop 3)

/-- Documents start with three dashes and end with three dots. -/
def isAtBoundary (p : Place) : Bool := p.isAtMarker '-' || p.isAtMarker '.'

/-- The characters up to the first one that is no part of it. -/
def takeWhile (isTaken : Char → Bool) (p : Place) : List Char × Place :=
  (p.text.takeWhile isTaken, p.skipWhile isTaken)

/-- The place behind this character, which has to stand here. -/
def expect? (c : Char) (p : Place) : Option Place :=
  if p.text.head? == some c then some p.next else none

end Place
end MeteredBilling.Yaml
