import MeteredBilling.Web.Url

/-!
# Other schemes

Locators of schemes that are not spoken here. Nothing is asked of them, but a base of such a scheme
can be one that paths are joined to, and a redirect can lead to a place of it.
-/

namespace MeteredBilling.Web

/-- The plain characters of a host that can be asked for. -/
def isAuthorityChar (c : Char) : Bool := c.isAlphanum || "!$&'()*+,-.;=_~".toList.contains c

/-- The host has a form that can be asked for; other scripts are encoded there. -/
def isRequestableHost (host : List Char) : Bool :=
  host.head? == some '[' || host.all fun c => 0x80 ≤ c.toNat || isAuthorityChar c

def Url.isRequestable (url : Url) : Bool := isRequestableHost url.host

namespace Foreign

/-! ### Hosts -/

/-- The text from the host on names one that can be read as on the web. -/
def host? (text : List Char) : Option (List Char) := (Url.ofAuthority? false text).map (·.host)

/-- The host of a scheme without a form of its own for hosts, and the text behind it. -/
def opaqueHost (authority : List Char) : List Char × List Char :=
  let text := (Form.split '@' authority).getLast?.getD []
  let host := if text.head? == some '[' then
      text.takeWhile (· != ']') ++ (text.dropWhile (· != ']')).take 1
    else text.takeWhile (· != ':')
  (host, text.drop host.length)

def isOpaqueAuthority (isHostChar : Char → Bool) (authority : List Char) : Bool :=
  let (host, number) := opaqueHost authority
  !host.isEmpty && (Url.portNumber? false number).isSome
    && (if host.head? == some '[' then (Host.parse? host).isSome else host.all isHostChar)

/-- Anything but the marks of a locator and the characters that no host may hold. -/
def isOpaqueHostChar (c : Char) : Bool := !"\x00 #/:<>?@[\\]^|".toList.contains c

/-- The host of a file, which is empty for the own one and in front of a drive. -/
def fileHost (rest : List Char) : List Char :=
  let rest := rest.drop (if (rest.takeWhile Url.isSlash).length < 2 then rest.length else 2)
  let host := rest.takeWhile fun c => !(Url.isSlash c || c == '?' || c == '#')
  let isDrive := host.length = 2 && host.head?.any Char.isAlpha
    && host.getLast?.any fun c => c == ':' || c == '|'
  if isDrive || host.map Char.toLower == "localhost".toList then [] else host

/-- The schemes that have hosts like those of the web. -/
def hasWebHost (scheme : List Char) : Bool := ["ftp", "ws", "wss"].contains (String.ofList scheme)

def isSpoken (scheme : List Char) : Bool := ["http", "https"].contains (String.ofList scheme)

/-! ### Bases -/

/-- A path can be joined to a locator of another scheme. Without slashes behind the scheme there is
no path that another one could replace. -/
def isBase (text : List Char) : Bool :=
  match Url.scheme? text with
  | none => false
  | some (scheme, rest) =>
    if isSpoken scheme then false
    else if hasWebHost scheme then (host? (rest.dropWhile Url.isSlash)).isSome
    else if scheme == "file".toList then
      (fileHost rest).isEmpty || (Host.parse? (fileHost rest)).isSome
    else match rest with
      | '/' :: '/' :: rest =>
        let authority := rest.takeWhile fun c => !"/?#".toList.contains c
        authority.isEmpty || isOpaqueAuthority isOpaqueHostChar authority
      | '/' :: _ => true
      | _ => false

/-! ### Places that can be asked for -/

/-- What was seen of a text that may be a user, a host and a number. -/
structure Authority where
  colons : Nat := 0
  isOpened : Bool := false
  isClosed : Bool := false
  isEscaped : Bool := false

/-- Colons and escapes in front of a host do not count, and neither do those in brackets. -/
def Authority.read? (seen : Authority) (c : Char) : Option Authority :=
  match c with
  | ':' => if seen.colons < 8 then some { seen with colons := seen.colons + 1 } else none
  | '@' => some { seen with colons := 0, isEscaped := false }
  | '[' => if seen.isEscaped || seen.isOpened then none else some { seen with isOpened := true }
  | ']' =>
    if !seen.isOpened || seen.isClosed then none
    else some { seen with isClosed := true, colons := 0, isEscaped := false }
  | c =>
    if c == '%' || 0x7f ≤ c.toNat || c.toNat < 0x20 then some { seen with isEscaped := true }
    else if isAuthorityChar c then some seen
    else none

/-- The whole text can be read as a user, a host and a number. -/
def isAuthority (text : List Char) : Bool :=
  text.getLast? != some '@' && (text.foldlM Authority.read? {}).any fun seen =>
    seen.isOpened == seen.isClosed && seen.colons ≤ 1 && !seen.isEscaped

/-- A locator of another scheme that can be asked for. -/
def isRequestable (text : List Char) : Bool :=
  match Url.scheme? text with
  | none => false
  | some (scheme, rest) =>
    if isSpoken scheme then false
    else if hasWebHost scheme then (host? (rest.dropWhile Url.isSlash)).any isRequestableHost
    else if scheme == "file".toList then
      !(fileHost rest).isEmpty && (Host.parse? (fileHost rest)).any isRequestableHost
    else match rest with
      | '/' :: '/' :: rest =>
        isOpaqueAuthority isAuthorityChar (rest.takeWhile fun c => !"/?#".toList.contains c)
      | _ => isAuthority (scheme ++ ':' :: rest)

end Foreign
end MeteredBilling.Web
