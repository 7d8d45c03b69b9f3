import Microversion.Client.Basic
import Microversion.Url.Parser

/-! # Sending over HTTP

Where a session sends a request: the target if it is absolute, and otherwise the
target below the request's base or below the session's own endpoint.
-/

namespace Microversion.Session

open Http

/-- The text starts as an absolute URL does whose scheme is written in lower case. -/
def isAbsolute (target : String) : Bool :=
  "http://".toList.isPrefixOf target.toList || "https://".toList.isPrefixOf target.toList

/-- The URL to which a request goes. -/
def resolve (endpoint : Option String) (r : Request) : Except Error String :=
  if isAbsolute r.target then .ok r.target
  else
    match r.base.or endpoint with
    | some base => .ok (Endpoint.join base r.target)
    | none => .error (.endpointNotFound (.noBase r.target))

/-- A server, and what is asked of it. -/
structure Destination where
  isSecure : Bool
  host : String
  port : Nat
  target : String
deriving DecidableEq, Repr

/-- The most characters of a URL that is sent. -/
def maxUrlLength : Nat := 65534

/-- Characters of a domain that no request may name. -/
def isUnsendable (c : Char) : Bool := c == '"' || c == '`' || c == '\x7b' || c == '\x7d'

/-- The URL can be sent. User name and password do not go into it. -/
def isSendable (u : Url) : Bool :=
  u.anonymous.chars.length ≤ maxUrlLength &&
    !(u.authority.any fun a => a.host.chars.any isUnsendable)

/-- The destination of a URL; only the two schemes of HTTP have one. -/
def Destination.ofUrl? (url : String) : Option Destination :=
  match Url.parse url with
  | .error _ => none
  | .ok u =>
    let isSecure := u.scheme == "https".toList
    if (isSecure || u.scheme == "http".toList) && isSendable u then
      match u.hostText?, u.effectivePort? with
      | some host, some port => some ⟨isSecure, host, port, u.target⟩
      | _, _ => none
    else none

/-- What a server does with a request. -/
inductive Behaviour where
  /-- Nothing listens at the port. -/
  | absent
  | answers (r : Response)
  /-- The connection is closed without an answer. -/
  | hangsUp
  /-- The body breaks off. -/
  | breaksOff (r : Response)
deriving DecidableEq, Repr

/-- The response that arrives for a method: some responses never have a body. -/
def withoutBody (method : String) (r : Response) : Response :=
  if method = "HEAD" ∨ r.status = 204 ∨ r.status = 304 then { r with body := [] } else r

/-- The request is read in full, over a connection without encryption. -/
def isRead (d : Destination) : Behaviour → Bool
  | .answers _ => !d.isSecure
  | .breaksOff _ => !d.isSecure
  | _ => false

/-- What comes of a request to a server that does not speak TLS. -/
def exchange (d : Destination) (method : String) : Behaviour → Except Error Response
  | .absent => .error (.connectionFailure "the server cannot be reached")
  | .hangsUp =>
    if d.isSecure then .error (.connectionFailure "the handshake failed")
    else .error (.transport "the connection was closed")
  | .answers r =>
    if d.isSecure then .error (.connectionFailure "the handshake failed")
    else .ok (withoutBody method r)
  | .breaksOff r =>
    if d.isSecure then .error (.connectionFailure "the handshake failed")
    else if method = "HEAD" then .ok (withoutBody method r)
    else .error (.transport "the body broke off")

end Microversion.Session
