import MeteredBilling.Amount.Double
import MeteredBilling.Contract.Query
import MeteredBilling.Engine.Notice
import MeteredBilling.Json.Source
import MeteredBilling.Message.Backoff
import MeteredBilling.Web.Redirect
import MeteredBilling.Web.Transmission

/-!
# Contract lookups over the web

The client of the contract service: requests with their redirects, what a reply means, and further
attempts after failures that may pass. The service is a function from the number of requests made
before to its reply. Which connections can be made, and how the body of a reply is read, is left
open.
-/

namespace MeteredBilling

structure ContractClientSettings where
  baseUrl : String := "http://localhost:8000"
  timeout : Delay := Delay.ofSeconds 10
  maxAttempts : Nat := 1
  initialBackoff : Delay := Delay.ofMillis 1000
  /-- The delay grows by this factor with every attempt. -/
  multiplier : Float := 2
  maxBackoff : Delay := Delay.ofSeconds 64

namespace ContractClientSettings

/-- The delay after an attempt, counted from 1, in whole milliseconds of up to 64 bits. -/
def backoff (settings : ContractClientSettings) (attempt : Nat) : Delay :=
  let initial : Float := Amount.ofInt settings.initialBackoff.millis
  let grown := initial * Double.pow settings.multiplier (attempt - 1)
  min (Delay.ofMillis (Double.toCount grown)) settings.maxBackoff

end ContractClientSettings

/-- What the service replies after so many requests; nothing if the connection ended, or the time
was up, before a response. -/
abbrev LookupPeer := Nat → Option Web.Reply

/-- The means by which lookups are made. -/
structure LookupMeans (α : Type) where
  /-- A connection can be made, over which a request is sent. -/
  connects : Web.Origin → Bool
  /-- The contracts that the body of a reply holds. -/
  contracts? : List UInt8 → Option (List (Contract α))

/-- Connections that are not secured, and bodies in JSON. -/
def LookupMeans.unsecured {α : Type} [Amount α] : LookupMeans α where
  connects origin := !origin.secure
  contracts? body := do
    let draft : Json.Draft α ← Json.Draft.whole? (Text.Utf8.characters body)
    (Decoder.list Contract.record.decoder draft).toOption

/-- What a client did: the requests that it made and what it reported. -/
structure LookupLog where
  requests : List String
  notices : List Notice
  deriving DecidableEq, Repr

inductive LookupFailure
  /-- May pass with time. -/
  | passing (text : String)
  | final (cause : BillingError)
  deriving DecidableEq, Repr

/-- Where lookups go. -/
inductive Endpoint
  | web (url : Web.Url)
  /-- A place of another scheme, of which nothing is asked. -/
  | foreign
  deriving DecidableEq, Repr

structure ContractClient where
  settings : ContractClientSettings
  endpoint : Endpoint

namespace ContractClient

variable {α : Type}

def contractsPath : String := "/api/swatch-contracts/internal/contracts"

/-- The place of the contracts at a base, of which only scheme and host count. -/
def endpoint? (base : String) : Option Endpoint :=
  if Web.Foreign.isBase (Web.Url.clean base) then some .foreign
  else ((Web.Url.parse? base).bind fun url =>
    Web.Url.resolve? (some url) contractsPath).map .web

/-- A client for the service at the settings' base. -/
def create (settings : ContractClientSettings) : Except BillingError ContractClient :=
  match endpoint? (String.ofList (Text.dropTrailing (· == '/') settings.baseUrl.toList)) with
  | some endpoint => .ok ⟨settings, endpoint⟩
  | none =>
    .error (.configuration ("invalid contracts base url \x60" ++ settings.baseUrl ++ "\x60: "
      ++ Audience.withheld))

def requestLine (url : Web.Url) : String := "GET " ++ url.target

/-- No more requests than this follow from one another. -/
def chainLimit : Nat := 10

/-- Requests a locator and follows redirects; no reply if there are more of them than allowed. -/
def fetch (connects : Web.Origin → Bool) (peer : LookupPeer) :
    Nat → Web.Url → List String → Option Web.Reply × List String
  | 0, _, sent => (none, sent)
  | limit + 1, url, sent =>
    if !(url.isRequestable && connects url.origin) then (none, sent)
    else
      let sent' := sent ++ [requestLine url]
      match peer sent.length with
      | none => (none, sent')
      | some reply =>
        match Web.Redirect.ofReply url reply with
        | .stay => (some reply, sent')
        | .follow next => fetch connects peer limit next sent'
        | .leave => (none, sent')

/-- One attempt of a lookup: the reply, and the requests made so far. -/
def ask (client : ContractClient) (connects : Web.Origin → Bool) (peer : LookupPeer)
    (query : ContractQuery) (sent : List String) : Option Web.Reply × List String :=
  match client.endpoint with
  | .web url => fetch connects peer chainLimit (url.withPairs query.parameters) sent
  | .foreign => (none, sent)

/-- What a reply means: contracts, a failure that may pass, or one that will not. -/
def interpret (contracts? : List UInt8 → Option (List (Contract α))) (query : ContractQuery) :
    Option Web.Reply → Except LookupFailure (List (Contract α))
  | none => .error (.passing ("contract lookup failed: " ++ Audience.withheld))
  | some reply =>
    let status := Web.Status.text reply.status
    if Web.Status.isServerError reply.status || reply.status == 429 then
      .error (.passing ("contract service responded with " ++ status))
    else if Web.Status.isClientError reply.status then
      .error (.final (.invalidMessage ("contract service rejected lookup for org " ++ query.orgId
        ++ " with " ++ status ++ ": " ++ reply.text)))
    else
      match reply.body.bind contracts? with
      | some contracts => .ok contracts
      | none =>
        let text := "undecodable contract response: " ++ Audience.withheld
        .error (.final (.externalService text))

/-- Attempts a lookup up to `left + 1` times, the first of them being the `attempt`-th. -/
def lookUpFrom (client : ContractClient) (means : LookupMeans α) (peer : LookupPeer)
    (query : ContractQuery) :
    (left attempt : Nat) → LookupLog → Except BillingError (List (Contract α)) × LookupLog
  | left, attempt, log =>
    let (reply, requests) := client.ask means.connects peer query log.requests
    let log := { log with requests }
    match interpret means.contracts? query reply, left with
    | .ok contracts, _ => (.ok contracts, log)
    | .error (.final e), _ => (.error e, log)
    | .error (.passing text), 0 =>
      (.error (.externalService (text ++ " (after " ++ toString attempt ++ " attempts)")), log)
    | .error (.passing _), left + 1 =>
      let delay := client.settings.backoff attempt
      let notice := Notice.retryingLookup attempt (delay.millis % Word.count 64)
      lookUpFrom client means peer query left (attempt + 1)
        { log with notices := log.notices ++ [notice] }

/-- The contracts for a query, and what was done to get them; at least one attempt is made. -/
def lookUp [Amount α] (client : ContractClient) (peer : LookupPeer) (query : ContractQuery)
    (means : LookupMeans α := .unsecured) : Except BillingError (List (Contract α)) × LookupLog :=
  lookUpFrom client means peer query (client.settings.maxAttempts - 1) 1 ⟨[], []⟩

end ContractClient
end MeteredBilling
