import Microversion.Endpoint
import Microversion.Http.Header

/-! # Requests and responses -/

namespace Microversion.Http

/-- A request for a session to send. The target is an absolute URL or is relative to the base,
and where there is no base to the endpoint that the session finds by the filter. -/
structure Request where
  method : String
  target : String
  headers : Headers
  body : Option Bytes
  filter : EndpointFilter
  base : Option String
deriving DecidableEq, Repr

/-- A response received in full. -/
structure Response where
  status : Nat
  headers : Headers
  body : Bytes
deriving DecidableEq, Repr

namespace Response

/-- A header as text by its name in any case. -/
def header? (r : Response) (name : String) : Option String :=
  (r.headers.get? (String.ofList (name.toList.map Char.toLower))).bind HeaderValue.text?

def contentType? (r : Response) : Option String := r.header? "content-type"

/-- The status is one of the two hundreds. -/
def isSuccess (r : Response) : Bool := 200 ≤ r.status && r.status < 300

end Response

end Microversion.Http
