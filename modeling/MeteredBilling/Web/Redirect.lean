import MeteredBilling.Web.Foreign
import MeteredBilling.Web.Transmission

/-!
# Redirects

Where a reply sends its reader. A place that is no locator, or cannot be asked for, is passed over;
one of a scheme that is not spoken here leads nowhere.
-/

namespace MeteredBilling.Web

inductive Redirect
  | stay
  | follow (url : Url)
  /-- Goes where no reply comes from. -/
  | leave
  deriving DecidableEq, Repr

namespace Redirect

/-- Where a reply to the request of a locator sends its reader. -/
def ofReply (url : Url) (reply : Reply) : Redirect :=
  if !Status.isRedirect reply.status then .stay
  else match reply.header? "location" with
    | none => .stay
    | some location =>
      match Url.resolve? (some url) location with
      | some next => if next.isRequestable then .follow next else .stay
      | none => if Foreign.isRequestable (Url.clean location) then .leave else .stay

end Redirect
end MeteredBilling.Web
