import MeteredBilling.Uuid
import MeteredBilling.Yaml.Token
import MeteredBilling.Yaml.Place

/-!
# Names, tags and directives

The parts of a document that say something about its nodes: the names of anchors, tags with their
handles, and directives at the head of a document.
-/

namespace MeteredBilling.Yaml.Property

/-- A name behind its indicator, and what may follow it. -/
def name? (p : Place) : Option (String × Place) := do
  let (name, p) := p.takeWhile isWord
  let isMark (c : Char) : Bool := "?:,]\x7d%@\x60".toList.contains c
  guard (!name.isEmpty && (endsToken p.text || p.text.head?.any isMark))
  some (String.ofList name, p)

/-! ### Tags -/

def isTagChar (verbatim : Bool) (c : Char) : Bool :=
  isWord c || ";/?:@&=+$.%!~*'()".toList.contains c || (verbatim && ",[]".toList.contains c)

/-- The octet of an escape. -/
def octet? : List Char → Option Nat
  | '%' :: high :: low :: _ => Uuid.hexNumber? [high, low]
  | _ => none

/-- The number of octets of a character that starts with this one. -/
def width? (octet : Nat) : Option Nat :=
  if octet < 0x80 then some 1
  else if octet < 0xC0 then none
  else if octet < 0xE0 then some 2
  else if octet < 0xF0 then some 3
  else if octet < 0xF8 then some 4
  else none

/-- The octets of one character written in escapes. -/
def escaped? (p : Place) : Option (List Char × Place) := do
  let lead ← octet? p.text
  let width ← width? lead
  let octets ← (List.range width).mapM fun i => octet? (p.text.drop (3 * i))
  guard ((octets.drop 1).all fun octet => 0x80 ≤ octet && octet < 0xC0)
  some (octets.map Char.ofNat, p.skip (3 * width))

/-- The rest of a tag; escapes stand for octets. -/
def rest? (verbatim : Bool) : Nat → Place → Option (List Char × Place)
  | 0, _ => none
  | fuel + 1, p =>
    match p.text with
    | '%' :: _ => do
      let (octets, p) ← escaped? p
      let (rest, p) ← rest? verbatim fuel p
      some (octets ++ rest, p)
    | c :: _ =>
      if isTagChar verbatim c then
        (rest? verbatim fuel p.next).map fun (rest, p) => (c :: rest, p)
      else some ([], p)
    | [] => some ([], p)

def tagRest? (verbatim : Bool) (p : Place) : Option (List Char × Place) :=
  rest? verbatim (p.left + 1) p

/-- The text of a tag, which ends at its first zero octet. -/
def tagText (octets : List Char) : String := String.ofList (octets.takeWhile (· != '\x00'))

/-- A handle from its exclamation mark, or what may be one. -/
def handle (p : Place) : List Char × Place :=
  let (name, p) := p.next.takeWhile isWord
  if p.text.head? == some '!' then ('!' :: name ++ ['!'], p.next) else ('!' :: name, p)

def isHandle (text : List Char) : Bool := 1 < text.length && text.getLast? == some '!'

/-- The handle and the suffix of a tag at its exclamation mark. A tag in angle brackets has no
handle, and neither has the mark alone. -/
def tag? (p : Place) : Option (String × String × Place) :=
  match p.text with
  | '!' :: '<' :: _ => do
    let (suffix, p) ← tagRest? true (p.skip 2)
    guard (!suffix.isEmpty)
    some ("", tagText suffix, ← p.expect? '>')
  | _ => do
    let (lead, p) := handle p
    let (suffix, p) ← tagRest? false p
    if isHandle lead then
      guard (!suffix.isEmpty)
      some (String.ofList lead, tagText suffix, p)
    else
      let suffix := tagText (lead.drop 1 ++ suffix)
      if suffix.isEmpty then some ("", "!", p) else some ("!", suffix, p)

/-- A tag ends with its token, or in a flow before a comma. -/
def tagToken? (inFlow : Bool) (p : Place) : Option (Token × Place) := do
  let (handle, suffix, p) ← tag? p
  guard (endsToken p.text || (inFlow && p.text.head? == some ','))
  some (.tag handle suffix, p)

/-! ### Directives -/

/-- A number of at most nine digits. -/
def versionNumber? (p : Place) : Option (Nat × Place) := do
  let (digits, p) := p.takeWhile Char.isDigit
  guard (!digits.isEmpty && digits.length ≤ 9)
  some (digits.foldl (fun value c => value * 10 + (c.toNat - '0'.toNat)) 0, p)

def version? (p : Place) : Option (Token × Place) := do
  let (major, p) ← versionNumber? p.blanks
  let (minor, p) ← versionNumber? (← p.expect? '.')
  some (.version major minor, p)

def handleToken? (p : Place) : Option (Token × Place) := do
  let p := p.blanks
  guard (p.text.head? == some '!')
  let (name, p) := handle p
  guard ((name == ['!'] || isHandle name) && p.text.head?.any isBlank)
  let (meaning, p) ← tagRest? true p.blanks
  guard (!meaning.isEmpty && endsToken p.text)
  some (.handle (String.ofList name) (tagText meaning), p)

/-- A directive behind its percent sign, which takes up the rest of its line. -/
def directive? (p : Place) : Option (Token × Place) := do
  let (name, p) := p.takeWhile isWord
  guard (endsToken p.text)
  let (token, p) ←
    if name == "YAML".toList then version? p
    else if name == "TAG".toList then handleToken? p
    else none
  let p := p.blanks.comment
  guard (endsLine p.text)
  some (token, p.nextLine)

end MeteredBilling.Yaml.Property
