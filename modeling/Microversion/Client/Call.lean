import Microversion.Client.Task
import Microversion.Json.Printer

/-! # Requests of callers

A JSON request sends and expects JSON unless the caller's headers say otherwise;
a raw request leaves the body of the response as it is.
-/

namespace Microversion.Client

open Http

def jsonType : String := "application/json"

def bytesType : String := "application/octet-stream"

/-- A request with a JSON body, whose response is read as JSON. -/
def jsonOrder (method target : String) (body : Option Json.Value) (headers : Headers) : Order :=
  ⟨method, target,
    (headers.orInsert "content-type" (plainValue jsonType)).orInsert "accept" (plainValue jsonType),
    body.map fun v => Utf8.encode v.compact⟩

/-- A request without a body, whose response is not read. -/
def rawOrder (method target : String) (headers : Headers) : Order :=
  ⟨method, target, headers.orInsert "content-type" (plainValue bytesType), none⟩

/-- The value in a response: an empty list when there is no content or no type, and `null` for
anything that is not JSON. -/
def jsonValue (r : Response) : Json.Value :=
  if r.status = 204 ∨ r.status = 205 then .array []
  else
    match r.contentType? with
    | none => .array []
    | some type =>
      if Text.occursIn jsonType.toList type.toList then (Json.Value.parse? r.body).getD .null
      else .null

end Microversion.Client
