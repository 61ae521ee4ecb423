import MeteredBilling.Decimal.Numeral
import MeteredBilling.Decimal.Positional
import MeteredBilling.Text.Blank
import MeteredBilling.Text.Encoding
import MeteredBilling.Web.Chunked
import MeteredBilling.Web.Form
import MeteredBilling.Web.Head
import MeteredBilling.Web.Status
import MeteredBilling.Word

/-!
# Transmissions

What a server sends for a response, as bytes, and the reply that is read from them: its headers say
where its body ends.
-/

namespace MeteredBilling.Web

/-- A response that has arrived; its body is absent if it ended too early. -/
structure Reply where
  status : Nat
  /-- Values by names in lower case. -/
  headers : List (String × String)
  body : Option (List UInt8)
  deriving DecidableEq, Repr

namespace Reply

def header? (name : String) (reply : Reply) : Option String := reply.headers.lookup name

/-- The encoding that a reply names, and UTF-8 if it names none. -/
def encoding (reply : Reply) : Text.Encoding :=
  let label := ((reply.header? "content-type").bind MediaType.parse?).bind
    (·.parameter? "charset")
  (label.bind Text.Encoding.ofLabel?).getD .utf8

/-- The body as a text, which is empty if the body is absent. -/
def text (reply : Reply) : String := reply.encoding.decode (reply.body.getD [])

/-! ### Bodies -/

/-- The parts of a list with commas in between. -/
def parts (text : String) : List (List Char) :=
  (Form.split ',' text.toList).map fun part =>
    Text.dropTrailing (fun c => c == ' ' || c == '\t')
      (part.dropWhile fun c => c == ' ' || c == '\t')

/-- The length that headers name; all of them have to name the same one. -/
def length? (values : List String) : Option Nat := do
  let lengths ← (values.flatMap parts).mapM Decimal.nat?
  let length ← lengths.head?
  guard (length < Word.greatest 64 && lengths.all (· == length))
  some length

/-- The body is sent in chunks, by the last encoding that is named. -/
def isChunked (encodings : List String) : Bool :=
  ((encodings.getLast?.bind (parts · |>.getLast?)).getD []).map Char.toLower == "chunked".toList

/-- The body of a head, from the bytes behind it; nothing if its end is not told properly. -/
def body? (head : Head) (bytes : List UInt8) : Option (Option (List UInt8)) :=
  let encodings := head.values "transfer-encoding"
  let lengths := head.values "content-length"
  if Status.isBodiless head.status then some (some [])
  else if !encodings.isEmpty then do
    guard head.isCurrent
    some (if isChunked encodings then Chunked.decode? bytes else some bytes)
  else if lengths.isEmpty then some (some bytes)
  else do
    let length ← length? lengths
    some (if length ≤ bytes.length then some (bytes.take length) else none)

/-- The reply from the bytes that a server sent. Responses that only inform are passed over. -/
def ofBytes? (bytes : List UInt8) : Option Reply := go bytes.length bytes
where
  go : Nat → List UInt8 → Option Reply
    | 0, _ => none
    | fuel + 1, bytes => do
      let (head, rest) ← Head.read? bytes
      if head.status < 200 && head.status != 101 then go fuel rest
      else some ⟨head.status, head.headers, ← body? head rest⟩

end Reply

/-- What a server sends: it announces the length of the body, and may end before. -/
structure Transmission where
  status : Nat
  headers : List (String × String)
  body : List UInt8
  /-- The number of bytes that the body lacks. -/
  missing : Nat
  deriving DecidableEq, Repr

namespace Transmission

def lineBreak : String := "\r\n"

/-- The head, whose first header is the length that is announced. -/
def head (transmission : Transmission) : String :=
  let length := Decimal.natText (transmission.body.length + transmission.missing)
  let headers := ("content-length", String.ofList length) :: transmission.headers
  "HTTP/1.1 " ++ String.ofList (Decimal.natText transmission.status) ++ " " ++ lineBreak
    ++ String.join (headers.map fun (name, value) => name ++ ": " ++ value ++ lineBreak)
    ++ lineBreak

def bytes (transmission : Transmission) : List UInt8 :=
  Text.Utf8.encode transmission.head ++ transmission.body

/-- The reply that arrives. -/
def reply? (transmission : Transmission) : Option Reply := Reply.ofBytes? transmission.bytes

end Transmission
end MeteredBilling.Web
