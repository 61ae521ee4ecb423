import MeteredBilling.Json.Basic

/-!
# Requests and responses

What a server of the web is asked, and what it answers.
-/

namespace MeteredBilling.Web

structure Request where
  method : String
  /-- Path and query. -/
  target : String
  contentType : Option String
  body : String
  deriving DecidableEq, Repr

namespace Request

def path (request : Request) : String :=
  String.ofList (request.target.toList.takeWhile fun c => c != '?' && c != '#')

/-- The query, which is empty if there is none. -/
def query (request : Request) : String :=
  let target := request.target.toList.takeWhile (· != '#')
  String.ofList ((target.dropWhile (· != '?')).drop 1)

end Request

inductive Content (α : Type)
  | empty
  | text (text : String)
  | json (value : Json α)
  /-- A complaint about the form of the request, whose wording is open. -/
  | refusal

structure Response (α : Type) where
  status : Nat
  content : Content α

end MeteredBilling.Web
