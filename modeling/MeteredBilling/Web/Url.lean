import MeteredBilling.Text.Blank
import MeteredBilling.Web.Host

/-!
# Locators

Absolute locators of the web, read alone or relative to another one, in the form in which they are
requested: dots in the path are resolved, and characters that may not stand in it are encoded.
-/

namespace MeteredBilling.Web

open Decimal

structure Url where
  /-- Whether the connection is secured. -/
  secure : Bool
  host : List Char
  /-- The number of the service at the host, if it is not the scheme's own. -/
  portNumber : Option Nat
  /-- The parts of the path between slashes, at least one. -/
  path : List (List Char)
  query : Option (List Char)
  deriving DecidableEq, Repr

/-- What a connection leads to. -/
structure Origin where
  secure : Bool
  host : List Char
  portNumber : Option Nat
  deriving DecidableEq, Repr

namespace Url

def origin (url : Url) : Origin := ⟨url.secure, url.host, url.portNumber⟩

def isSlash (c : Char) : Bool := c == '/' || c == '\\'

/-- Blanks and controls at the ends, and line breaks and tabs anywhere, are no part of a locator. -/
def clean (text : String) : List Char :=
  let isEdge (c : Char) : Bool := c.toNat ≤ 0x20
  ((Text.dropTrailing isEdge (text.toList.dropWhile isEdge)).filter fun c =>
    c != '\t' && c != '\n' && c != '\r')

/-- The scheme in lower case and the text behind its colon. -/
def scheme? (text : List Char) : Option (List Char × List Char) :=
  let isPart (c : Char) : Bool := c.isAlphanum || c == '+' || c == '-' || c == '.'
  match text.takeWhile isPart, text.dropWhile isPart with
  | first :: name, ':' :: rest =>
    if first.isAlpha then some ((first :: name).map Char.toLower, rest) else none
  | _, _ => none

/-- The text up to a hash sign, before and behind the first question mark. -/
def splitQuery (text : List Char) : List Char × Option (List Char) :=
  let text := text.takeWhile (· != '#')
  (text.takeWhile (· != '?'), match text.dropWhile (· != '?') with
    | _ :: query => some query
    | [] => none)

/-- The characters from the space to the tilde, but for those listed. -/
def isPlain (except : String) (c : Char) : Bool :=
  0x20 < c.toNat && c.toNat < 0x7f && !except.toList.contains c

def encodeSegment (segment : List Char) : List Char :=
  Percent.encode (isPlain "\"#<>?\x60\x7b\x7d") segment

def encodeQuery (query : List Char) : List Char := Percent.encode (isPlain "\"#<>'") query

/-- Dots may be written as escapes. -/
def resolveDots : List Char → List Char
  | '%' :: '2' :: 'e' :: rest => '.' :: resolveDots rest
  | c :: rest => c :: resolveDots rest
  | [] => []

/-- A segment that names its own place, or the place above it. -/
def dots? (segment : List Char) : Option Nat :=
  match resolveDots (segment.map Char.toLower) with
  | ['.'] => some 1
  | ['.', '.'] => some 2
  | _ => none

/-- Walks down a path from the segments above it. -/
def walk (above : List (List Char)) : List (List Char) → List (List Char)
  | [] => above ++ [[]]
  | [last] =>
    match dots? last with
    | some 1 => above ++ [[]]
    | some _ => above.dropLast ++ [[]]
    | none => above ++ [encodeSegment last]
  | segment :: rest =>
    match dots? segment with
    | some 1 => walk above rest
    | some _ => walk above.dropLast rest
    | none => walk (above ++ [encodeSegment segment]) rest

def segments (path : List Char) : List (List Char) :=
  Form.split '/' (path.map fun c => if isSlash c then '/' else c)

def portNumber? (secure : Bool) : List Char → Option (Option Nat)
  | [] => some none
  | ':' :: [] => some none
  | ':' :: digits => do
    let n ← nat? digits
    guard (n < 65536)
    some (if n = (if secure then 443 else 80) then none else some n)
  | _ => none

/-- The host and its number, behind the name of a user that may stand in front. -/
def authority? (secure : Bool) (text : List Char) : Option (List Char × Option Nat) := do
  let text := (Form.split '@' text).getLast?.getD []
  let (host, rest) := match text with
    | '[' :: _ =>
      (text.takeWhile (· != ']') ++ (text.dropWhile (· != ']')).take 1,
        (text.dropWhile (· != ']')).drop 1)
    | _ => (text.takeWhile (· != ':'), text.dropWhile (· != ':'))
  let number ← portNumber? secure rest
  some (← Host.parse? host, number)

/-- What follows the slashes in front of a host. -/
def ofAuthority? (secure : Bool) (text : List Char) : Option Url := do
  let isEnd (c : Char) : Bool := isSlash c || c == '?' || c == '#'
  let (host, number) ← authority? secure (text.takeWhile (!isEnd ·))
  let (path, query) := splitQuery (text.dropWhile (!isEnd ·))
  some ⟨secure, host, number, walk [] (segments (path.drop 1)), query.map encodeQuery⟩

/-- A locator without scheme and host, taken from the place of another one. -/
def relative? (base : Url) (text : List Char) : Option Url :=
  let (path, query) := splitQuery text
  let query := query.map encodeQuery
  match path with
  | [] => some { base with query := if query.isNone then base.query else query }
  | c :: rest =>
    if !isSlash c then
      some { base with path := walk base.path.dropLast (segments path), query }
    else if rest.head?.any isSlash then
      ofAuthority? base.secure
        (if "//".toList.isPrefixOf text then text.drop 2 else text.dropWhile isSlash)
    else some { base with path := walk [] (segments rest), query }

/-- A locator that may be written relative to another one, also with its scheme if fewer than two
slashes follow. -/
def resolve? (base : Option Url) (text : String) : Option Url :=
  let text := clean text
  match scheme? text with
  | none => base.bind (relative? · text)
  | some (scheme, rest) =>
    if scheme == "http".toList || scheme == "https".toList then
      let secure := scheme == "https".toList
      let isShort (base : Url) : Bool :=
        base.secure == secure && (rest.takeWhile isSlash).length < 2
      match base.filter isShort with
      | some base => base.relative? rest
      | none => ofAuthority? secure (rest.dropWhile isSlash)
    else none

def parse? (text : String) : Option Url := resolve? none text

/-- Path and query as they are requested. -/
def target (url : Url) : String :=
  String.ofList (url.path.flatMap ('/' :: ·) ++ match url.query with
    | some query => '?' :: query
    | none => [])

/-- The locator with pairs added to its query. -/
def withPairs (url : Url) (pairs : Form.Pairs) : Url :=
  let added := (Form.encode pairs).toList
  { url with query := some (match url.query with
      | some (c :: query) => c :: query ++ '&' :: added
      | _ => added) }

end Url
end MeteredBilling.Web
