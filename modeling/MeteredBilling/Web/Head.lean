import MeteredBilling.Text.Utf8
import MeteredBilling.Web.MediaType

/-!
# Heads of responses

The lines in front of a body: the status, and headers up to an empty line.
-/

namespace MeteredBilling.Web

structure Head where
  /-- The second version of the protocol's first edition, which knows transfer encodings. -/
  isCurrent : Bool
  status : Nat
  /-- Values by names in lower case. -/
  headers : List (String × String)
  deriving DecidableEq, Repr

namespace Head

def charOf (b : UInt8) : Char := Char.ofNat b.toNat

/-- The bytes behind the end of a line; a line feed alone ends one too. -/
def lineEnd? : List UInt8 → Option (List UInt8)
  | 0x0D :: 0x0A :: rest => some rest
  | 0x0A :: rest => some rest
  | _ => none

/-- What a line may hold: all but controls. -/
def isText (b : UInt8) : Bool := b == 0x09 || (0x20 ≤ b && b != 0x7F)

/-- The line from here on, and the bytes behind its end. -/
def line? (bytes : List UInt8) : Option (List UInt8 × List UInt8) :=
  let line := bytes.takeWhile isText
  (lineEnd? (bytes.drop line.length)).map (line, ·)

def isBlank (b : UInt8) : Bool := b == 0x20 || b == 0x09

/-- A line without the blanks at its ends. -/
def trimmed (line : List UInt8) : List UInt8 :=
  ((line.dropWhile isBlank).reverse.dropWhile isBlank).reverse

def header? (bytes : List UInt8) : Option ((String × String) × List UInt8) := do
  let name := bytes.takeWhile fun b => MediaType.isTokenChar (charOf b)
  let rest := bytes.drop name.length
  guard (!name.isEmpty && rest.head? == some 0x3A)
  let (value, rest) ← line? (rest.drop 1)
  some ((String.ofList (name.map fun b => (charOf b).toLower),
    Text.Utf8.decodeLossy (trimmed value)), rest)

/-- No head has more headers than this. -/
def headerLimit : Nat := 100

/-- So many headers at most, up to an empty line, and the bytes behind it. -/
def headers? (limit : Nat) (bytes : List UInt8) :
    Option (List (String × String) × List UInt8) :=
  match lineEnd? bytes, limit with
  | some rest, _ => some ([], rest)
  | none, 0 => none
  | none, limit + 1 => do
    let (header, rest) ← header? bytes
    let (headers, rest) ← headers? limit rest
    some (header :: headers, rest)

/-- The bytes without empty lines at their front. -/
def skipLines : Nat → List UInt8 → List UInt8
  | 0, bytes => bytes
  | fuel + 1, bytes =>
    match lineEnd? bytes with
    | some rest => skipLines fuel rest
    | none => bytes

/-- A version, three digits, and words that are passed over; and the bytes behind the line. -/
def status? (bytes : List UInt8) : Option (Bool × Nat × List UInt8) := do
  let (line, rest) ← line? bytes
  let chars := line.map charOf
  let isCurrent := "HTTP/1.1 ".toList.isPrefixOf chars
  guard (isCurrent || "HTTP/1.0 ".toList.isPrefixOf chars)
  let digits := (chars.drop 9).take 3
  guard (digits.length == 3 && digits.all Char.isDigit && (chars.drop 12).head?.all (· == ' '))
  some (isCurrent, digits.foldl (fun value c => value * 10 + (c.toNat - '0'.toNat)) 0, rest)

/-- The head at the front and the bytes behind it. -/
def read? (bytes : List UInt8) : Option (Head × List UInt8) := do
  let (isCurrent, status, rest) ← status? (skipLines bytes.length bytes)
  guard (100 ≤ status)
  let (headers, rest) ← headers? headerLimit rest
  some (⟨isCurrent, status, headers⟩, rest)

def values (name : String) (head : Head) : List String :=
  (head.headers.filter (·.1 == name)).map (·.2)

end Head
end MeteredBilling.Web
