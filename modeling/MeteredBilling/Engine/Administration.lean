import MeteredBilling.Engine.Retention
import MeteredBilling.Json.Reader
import MeteredBilling.Text.Blank
import MeteredBilling.Web.Exchange
import MeteredBilling.Web.Form
import MeteredBilling.Web.MediaType

/-!
# Administration

The internal interface to the rows: listings, resets, deletions, and the rows that wait for too
long. A request is routed by its path, then by its method, and then read.
-/

namespace MeteredBilling

open Calendar

inductive AdminRoute
  | health
  | listing
  /-- The last segment is still in the form in which it was requested. -/
  | tally (segment : String)
  | reset
  | org (segment : String)
  | purge (segment : String)
  | reconcile
  deriving DecidableEq, Repr

namespace AdminRoute

/-- A segment with a value has to be there. -/
def ofSegment? (route : String → AdminRoute) (segment : String) : Option AdminRoute :=
  if segment.isEmpty then none else some (route segment)

def ofPath? (path : String) : Option AdminRoute :=
  match (Web.Form.split '/' path.toList).map String.ofList with
  | ["", "health"] => some health
  | ["", "internal", "remittances"] => some listing
  | ["", "internal", "remittances", "tally", segment] => ofSegment? tally segment
  | ["", "internal", "remittances", "reset"] => some reset
  | ["", "internal", "remittances", "org", segment] => ofSegment? org segment
  | ["", "internal", "remittances", "purge", segment] => ofSegment? purge segment
  | ["", "internal", "remittances", "reconcile"] => some reconcile
  | _ => none

def methods : AdminRoute → List String
  | health | listing | tally _ => ["GET", "HEAD"]
  | reset => ["PUT"]
  | org _ => ["DELETE"]
  | purge _ | reconcile => ["POST"]

end AdminRoute

namespace Engine

variable {σ α : Type}

/-- What a request comes to, unless the storage fails. -/
abbrev AdminReply (α : Type) := Except RequestError (Web.Response α)

def respond (json : Json α) : Engine σ α (AdminReply α) := return .ok ⟨200, .json json⟩

def refuse (status : Nat) : Engine σ α (AdminReply α) := return .ok ⟨status, .refusal⟩

def complain (text : String) : Engine σ α (AdminReply α) := return .error (.badRequest text)

def respondCount (count : Nat) : Engine σ α (AdminReply α) := respond (.obj [("count", .int count)])

/-- Reads the filter of a listing from a query. -/
def queryFilter? [Amount α] (query : String) : Option RemittanceFilter :=
  let members : List (String × Json α) :=
    (Web.Form.decode query).map fun (name, value) => (name, .str value)
  (RemittanceFilter.record.decoder (Json.obj members)).toOption

/-- Goes on with the value of a segment. -/
def withSegment (segment : String) (go : String → Engine σ α (AdminReply α)) :
    Engine σ α (AdminReply α) :=
  match Web.Percent.decode? segment with
  | some value => go value
  | none => refuse 400

def listRows [Amount α] [RowStore σ α] (query : String) : Engine σ α (AdminReply α) :=
  match queryFilter? (α := α) query with
  | none => refuse 400
  | some filter => do
    if (Text.trim filter.orgId).isEmpty then complain "org_id is required"
    else respond (.arr ((← RowStore.find filter).map (·.toJson)))

def listTally [Amount α] [RowStore σ α] (text : String) : Engine σ α (AdminReply α) :=
  match Uuid.parse? text with
  | none => refuse 400
  | some id => do
    let rows : List (Remittance α) ← RowStore.findByTally id
    if rows.isEmpty then return .error .notFound
    else respond (.arr (rows.map (·.toJson)))

/-- Resets are for organisations or for accounts, and run over an interval. -/
def resetRows [RowStore σ α] (reset : ResetRequest) : Engine σ α (AdminReply α) := do
  if reset.orgIds.isEmpty = reset.accountIds.isEmpty then
    complain "provide exactly one of org_ids or billing_account_ids"
  else if reset.stop < reset.start then complain "start must not be after end"
  else respondCount (← RowStore.resetRemitted reset)

/-- The body is the value at its front, whatever stands behind that. Of a fault in the text and one
in a value, the one that stands first tells which status is answered. -/
def serveReset [Amount α] [RowStore σ α] (request : Web.Request) : Engine σ α (AdminReply α) :=
  if !request.contentType.any Web.MediaType.isJson then refuse 415
  else
    let body : Json.Draft α := (Json.Draft.leading (.ofText request.body)).1
    match ResetRequest.record.decoder body with
    | .error .malformed => refuse 400
    | .error _ => refuse 422
    | .ok reset => resetRows reset

/-- Asks for the old rows of an organisation to be deleted, if rows are deleted at all. -/
def schedulePurge [MessageBus σ α] (settings : EngineSettings α) (orgId : String) :
    Engine σ α (AdminReply α) := do
  if settings.retention.isNone then complain "remittance retention is not configured"
  else
    let message : Outbound α := .ofPayload Topic.enabledOrgs (EnabledOrg.mk orgId).toJson
    let id ← MessageBus.publish message
    return .ok ⟨202, .json (.obj [("org_id", .str orgId), ("message_id", .int id)])⟩

/-- Gives up the rows that have been pending for too long. -/
def giveUpStuck [RowStore σ α] (settings : EngineSettings α) : Engine σ α (AdminReply α) := do
  let cutoff ← onCalendar ((← now).minus? settings.stuckPendingAfter)
  let count ← RowStore.failStuck cutoff
  if 0 < count then notice (.stuckFailed count)
  respondCount count

def serve [Amount α] [RowStore σ α] [MessageBus σ α] (settings : EngineSettings α)
    (request : Web.Request) : AdminRoute → Engine σ α (AdminReply α)
  | .health => return .ok ⟨200, .text "OK"⟩
  | .listing => listRows request.query
  | .tally segment => withSegment segment listTally
  | .reset => serveReset request
  | .org segment => withSegment segment fun orgId => do respondCount (← RowStore.deleteByOrg orgId)
  | .purge segment => withSegment segment (schedulePurge settings)
  | .reconcile => giveUpStuck settings

def errorResponse (e : RequestError) : Web.Response α := ⟨e.status, .text e.message⟩

def admin [Amount α] [RowStore σ α] [MessageBus σ α] (settings : EngineSettings α)
    (request : Web.Request) : Engine σ α (Web.Response α) := do
  match AdminRoute.ofPath? request.path with
  | none => return ⟨404, .empty⟩
  | some route =>
    if !route.methods.contains request.method then return ⟨405, .empty⟩
    let response := match ← attempt (serve settings request route) with
      | .ok (.ok response) => response
      | .ok (.error e) => errorResponse e
      | .error e => errorResponse (.billing e)
    return if request.method = "HEAD" then { response with content := .empty } else response

end Engine
end MeteredBilling
