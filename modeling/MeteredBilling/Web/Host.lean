import MeteredBilling.Decimal.Numeral
import MeteredBilling.Text.Direction
import MeteredBilling.Text.Joining
import MeteredBilling.Text.Mark
import MeteredBilling.Text.Punycode
import MeteredBilling.Web.Form
import MeteredBilling.Web.HostChar

/-!
# Hosts

Which texts name a host: an address in four numbers, an address in brackets, or a name. The labels
of a name may be written in any script.
-/

namespace MeteredBilling.Web.Host

open Text Decimal

def isHex (c : Char) : Bool := (Uuid.hexValue? c).isSome

/-- A number in decimal, in octal after a zero, or in hexadecimal after `0x`. -/
def number? (text : List Char) : Option Nat :=
  match text.map Char.toLower with
  | [] => none
  | ['0', 'x'] => some 0
  | '0' :: 'x' :: digits => Uuid.hexNumber? digits
  | '0' :: d :: digits =>
    if (d :: digits).all fun c => '0' ≤ c && c < '8' then
      some ((d :: digits).foldl (fun value c => value * 8 + (c.toNat - '0'.toNat)) 0)
    else none
  | digits => nat? digits

/-- The labels of a host, without an empty one at its end. -/
def labels (host : List Char) : List (List Char) :=
  let all := Form.split '.' host
  if 1 < all.length && all.getLast? == some [] then all.dropLast else all

/-- The last label is a number, which makes the whole an address. -/
def endsInNumber (host : List Char) : Bool :=
  ((labels host).getLast?.getD []) |> fun last =>
    (number? last).isSome || (!last.isEmpty && last.all Char.isDigit)

/-- Up to four numbers, of which the last one fills the bytes that are left. -/
def isNumericAddress (host : List Char) : Bool :=
  let parts := labels host
  match parts.mapM number? with
  | none => false
  | some numbers =>
    parts.length ≤ 4 && numbers.dropLast.all (· < 256)
      && numbers.getLast?.getD 0 < Nat.pow 256 (5 - parts.length)

/-- Four decimal numbers below 256 without needless zeros. -/
def isDottedTail (text : List Char) : Bool :=
  let parts := Form.split '.' text
  parts.length == 4 && parts.all fun part =>
    part.all Char.isDigit && !part.isEmpty && (part.length == 1 || part.head? != some '0')
      && digitsValue part < 256

/-- The number of 16-bit pieces in a run of them, of which the last two may be written in dots. -/
def pieces? (final : Bool) (text : List Char) : Option Nat :=
  if text.isEmpty then some 0
  else
    let parts := Form.split ':' text
    let isPiece (p : List Char) := !p.isEmpty && p.length ≤ 4 && p.all isHex
    if parts.all isPiece then some parts.length
    else if final && parts.dropLast.all isPiece && isDottedTail (parts.getLast?.getD []) then
      some (parts.length + 1)
    else none

/-- The text on both sides of the first double colon. -/
def atGap : List Char → Option (List Char × List Char)
  | ':' :: ':' :: rest => some ([], rest)
  | c :: rest => (atGap rest).map fun (before, after) => (c :: before, after)
  | [] => none

/-- Eight pieces, or fewer of them around one double colon. -/
def isBracketAddress (text : List Char) : Bool :=
  match atGap text with
  | none => pieces? true text == some 8
  | some (before, after) =>
    match pieces? false before, pieces? true after with
    | some m, some n => m + n < 8
    | _, _ => false

/-! ### Names -/

/-- A label that is written in ASCII, as it is meant: it has to need that form, and what it stands
for may not stand for anything else. -/
def encodedLabel? (written : List Char) : Option (List Char) := do
  guard (!written.isEmpty && written.getLast? != some '-')
  let label ← Text.Punycode.decode? written
  guard (label.any (0x80 ≤ ·.toNat) && label.all HostChar.isOwn)
  some label

/-- A label as it is meant. It does not start with a mark. -/
def label? (spelled : List Char) : Option (List Char) := do
  let mark := "xn--".toList
  let label ← if mark.isPrefixOf spelled then encodedLabel? (spelled.drop mark.length)
    else some spelled
  guard (!label.head?.any Text.isMark && Text.Joining.areAllowed label)
  some label

/-- A name as it is meant, after escapes were resolved. -/
def name? (text : List Char) : Option (List Char) := do
  let spelled ← (← Percent.decode? (String.ofList text)).toList.mapM HostChar.spelled?
  let labels ← (Form.split '.' spelled.flatten).mapM label?
  let name := ['.'].intercalate labels
  guard (Text.Direction.areReadable labels && !name.isEmpty)
  guard (!endsInNumber name || isNumericAddress name)
  some name

/-- A host in the form in which it is meant. -/
def parse? (text : List Char) : Option (List Char) :=
  match text with
  | '[' :: rest =>
    if rest.getLast? == some ']' && isBracketAddress rest.dropLast then some text else none
  | _ => name? text

end MeteredBilling.Web.Host
