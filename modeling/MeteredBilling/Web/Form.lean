import MeteredBilling.Web.Percent

/-!
# Forms

Lists of named values in the query of a request: pairs joined by ampersands, with a plus sign for a
space.
-/

namespace MeteredBilling.Web.Form

open Text

abbrev Pairs := List (String × String)

def isKept (c : Char) : Bool :=
  c.isAlphanum || c == '*' || c == '-' || c == '.' || c == '_'

def encodeText (text : String) : List Char :=
  (Percent.encode (fun c => isKept c || c == ' ') text.toList).map fun c =>
    if c == ' ' then '+' else c

def encode (pairs : Pairs) : String :=
  "&".intercalate (pairs.map fun (name, value) =>
    String.ofList (encodeText name ++ '=' :: encodeText value))

/-- The runs of characters between separators. -/
def split (separator : Char) (text : List Char) : List (List Char) :=
  text.foldr (fun c runs =>
    if c == separator then [] :: runs
    else match runs with
      | run :: rest => (c :: run) :: rest
      | [] => [[c]])
    [[]]

/-- Bytes that are no text are replaced. -/
def decodeText (text : List Char) : String :=
  let spaced := String.ofList (text.map fun c => if c == '+' then ' ' else c)
  Utf8.decodeLossy (Percent.decodeBytes (Utf8.encode spaced))

/-- A pair without an equals sign has an empty value; empty pairs are left out. -/
def decode (query : String) : Pairs :=
  ((split '&' query.toList).filter (!·.isEmpty)).map fun pair =>
    (decodeText (pair.takeWhile (· != '=')), decodeText ((pair.dropWhile (· != '=')).drop 1))

end MeteredBilling.Web.Form
