/-!
# Media types

The kind of a content, as its headers tell it: two names and parameters behind them.
-/

namespace MeteredBilling.Web

structure MediaType where
  kind : List Char
  name : List Char
  parameters : List (List Char × List Char)
  deriving DecidableEq, Repr

namespace MediaType

def isTokenChar (c : Char) : Bool := c.isAlphanum || "!#$%&'*+-.^_\x60|~".toList.contains c

/-- The characters of a header that is a text. -/
def isVisible (c : Char) : Bool := c == '\t' || (0x20 ≤ c.toNat && c.toNat < 0x7f)

/-- The token at the front, and the rest. -/
def token (text : List Char) : List Char × List Char :=
  (text.takeWhile isTokenChar, text.dropWhile isTokenChar)

/-- A value that is a token, which is empty only at the end of the text, or stands in quotes, and
the rest. A quote behind the opening one is a part of the value. -/
def value? : List Char → Option (List Char × List Char)
  | '"' :: first :: text =>
    let isQuoted (c : Char) : Bool := 0x20 ≤ c.toNat
    let value := first :: text.takeWhile fun c => c != '"' && isQuoted c
    match text.dropWhile fun c => c != '"' && isQuoted c with
    | '"' :: rest => if isQuoted first then some (value, rest.dropWhile (· == ' ')) else none
    | _ => none
  | text =>
    let (value, rest) := token text
    if value.isEmpty && !rest.isEmpty then none else some (value, rest)

/-- Parameters behind their separators; a separator may stand at the end. -/
def parameters? : Nat → List Char → Option (List (List Char × List Char))
  | _, [] => some []
  | fuel + 1, ';' :: text => do
    let text := text.dropWhile (· == ' ')
    if text.isEmpty then some []
    else
      let (name, rest) := token text
      guard (!name.isEmpty && rest.head? == some '=')
      let (value, rest) ← value? (rest.drop 1)
      some ((name.map Char.toLower, value) :: (← parameters? fuel rest))
  | _, _ => none

def parse? (text : String) : Option MediaType := do
  let text := text.toList
  guard (text.all isVisible)
  let (kind, rest) := token text
  guard (!kind.isEmpty && rest.head? == some '/')
  let (name, rest) := token (rest.drop 1)
  guard (!name.isEmpty || rest.isEmpty)
  some ⟨kind.map Char.toLower, name.map Char.toLower, ← parameters? text.length rest⟩

/-- The value of the first parameter of that name. -/
def parameter? (name : String) (type : MediaType) : Option (List Char) :=
  type.parameters.lookup name.toList

/-- The parts of a name in front of and behind its last plus sign, which is not its first
character. -/
def parts (name : List Char) : List Char × Option (List Char) :=
  let ending := name.reverse.takeWhile (· != '+')
  if ending.length + 1 < name.length then
    (name.take (name.length - ending.length - 1), some ending.reverse)
  else (name, none)

/-- An application's format that is JSON, or built on it. -/
def isJson (contentType : String) : Bool :=
  (parse? contentType).any fun type =>
    let (name, ending) := parts type.name
    type.kind == "application".toList
      && (name == "json".toList || ending == some "json".toList)

end MediaType
end MeteredBilling.Web
