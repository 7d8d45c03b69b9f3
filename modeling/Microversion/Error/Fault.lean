import Microversion.Error.StatusKind
import Microversion.Http.Message
import Microversion.Json.Value
import Microversion.Text.Digits

/-! # Faults

What is known of an exchange that failed: its status, and what the response says
about the failure. A JSON body speaks of a fault when it is an object with one
member, whose value is an object or a string holding the JSON text of one.
-/

namespace Microversion

/-- A failed exchange. -/
structure Fault where
  kind : StatusKind
  status : Nat
  message : String
  details : Option String
  requestId : Option String
  url : String
  method : String
  retryAfter : Option Nat
deriving DecidableEq, Repr

namespace Fault

/-- The header with the identifier that the service gives to a request. -/
def requestIdHeader : String := "x-openstack-request-id"

/-- The header that older services use for the identifier. -/
def legacyRequestIdHeader : String := "x-compute-request-id"

/-- A failure of which only the status is known. -/
def ofStatus (status : Nat) (method url : String) : Fault :=
  let kind := StatusKind.ofStatus status
  ⟨kind, status, kind.message, none, none, url, method, none⟩

def withMessage (f : Fault) (message : String) : Fault := { f with message }

def withDetails (f : Fault) (details : String) : Fault := { f with details := some details }

def withRequestId (f : Fault) (id : String) : Fault := { f with requestId := some id }

/-- The identifier in the first of the two headers that is not empty. -/
def requestId? (r : Http.Response) : Option String :=
  ([requestIdHeader, legacyRequestIdHeader].filterMap r.header?).find? (· ≠ "")

/-- The seconds to wait that the response names; a text that is no number counts as zero. -/
def retryAfter? (r : Http.Response) : Option Nat :=
  (r.header? "retry-after").map fun s =>
    (Text.unsignedBelow? UInt64.size (Text.trimChars s.toList)).getD 0

/-- The members of an object that speaks of a fault. -/
def members? : Json.Value → Option (List (String × Json.Value))
  | .object [(_, .object fault)] => some fault
  | .object [(_, .string text)] =>
    match Json.Value.parseText? text with
    | some (.object fault) => some fault
    | _ => none
  | _ => none

/-- The text of a member, unless it is empty. -/
def text? (fault : List (String × Json.Value)) (key : String) : Option String :=
  (((Json.Value.object fault).member? key).bind Json.Value.string?).filter (· ≠ "")

/-- The message of a fault. -/
def message? (fault : List (String × Json.Value)) : Option String :=
  (text? fault "message").or (text? fault "faultstring")

/-- The details of a fault. -/
def details? (fault : List (String × Json.Value)) : Option String :=
  (text? fault "details").or (text? fault "debuginfo")

/-- Add what a JSON body says; a fault without details has the body as its details. -/
def addJson (f : Fault) (body : String) : Fault :=
  match (Json.Value.parseText? body).bind members? with
  | none => f
  | some fault =>
    { f with
      message := (message? fault).getD f.message
      details := some ((details? fault).getD body) }

/-- The media type of a body, as far as faults are concerned. -/
inductive BodyKind where
  | json
  | text
  | other
deriving DecidableEq, Repr

/-- A content type that names JSON anywhere, in any case, or that starts as text does. -/
def BodyKind.of (contentType : String) : BodyKind :=
  let cs := contentType.toList.map Char.toLower
  if Text.occursIn "json".toList cs then json
  else if "text/".toList.isPrefixOf cs then text
  else other

/-- What a response with an error status says. -/
def ofResponse (r : Http.Response) (method url : String) : Fault :=
  let f := { ofStatus r.status method url with
    requestId := requestId? r
    retryAfter := retryAfter? r }
  let body := Utf8.decodeLossy r.body
  match BodyKind.of (r.contentType?.getD "") with
  | .json => f.addJson body
  | .text => { f with details := some body }
  | .other => f

/-- The message with the status and, if known, the identifier of the request. -/
def text (f : Fault) : String :=
  f.message ++ " (HTTP " ++ String.ofList (Text.decimal f.status) ++ ")" ++
    match f.requestId with
    | some id => " (Request-ID: " ++ id ++ ")"
    | none => ""

end Fault

end Microversion
