import Microversion.Cache.Saving
import Microversion.Negotiation.Inquiry
import Microversion.Retry

/-! # Clients

A client attaches to every request the version that it speaks, the token of its
session and the headers it was set up with. The request by which it asks a
server for its range carries no version.
-/

namespace Microversion

/-- A client as it was built. -/
structure Client where
  endpoint : String
  filter : EndpointFilter
  budget : RetryBudget
  additional : Http.Headers
  requestId : Option Http.HeaderValue
  cache : Option Cache
  /-- The server under whose key an agreed version is remembered. -/
  server : Option ServerKey
  /-- What is spoken at the beginning. -/
  start : Negotiator

namespace Client

open Http

def versionHeader : String := "x-openstack-ironic-api-version"

def tokenHeader : String := "x-auth-token"

def agentHeader : String := "user-agent"

/-- The name and the version under which the client introduces itself. -/
def agent : String := "ironic-client/0.1.0"

/-- A value that the client writes itself, of characters that every value may hold. -/
def plainValue (s : String) : HeaderValue := ⟨Utf8.encode s, false⟩

/-- The value of a header with a text from outside. -/
def headerValue (s : String) : Except Error HeaderValue :=
  match HeaderValue.ofText? s with
  | some v => .ok v
  | none => .error (.validation (.headerValue s))

/-- Add the token of the session, kept out of logs, and the name of the client. -/
def withCredentials (token : Option String) (hs : Headers) : Except Error Headers :=
  match token with
  | some token =>
    if hs.contains tokenHeader then .ok (hs.orInsert agentHeader (plainValue agent))
    else
      (headerValue token).map fun v =>
        (hs.insert tokenHeader { v with sensitive := true }).orInsert agentHeader
          (plainValue agent)
  | none => .ok (hs.orInsert agentHeader (plainValue agent))

/-- Add the version spoken, if it has a text for the header. -/
def withVersion (n : Negotiator) (hs : Headers) : Headers :=
  match n.headerText? with
  | some text => hs.orInsert versionHeader (plainValue text)
  | none => hs

/-- Add the headers that the client was set up with and that are not there. -/
def withAdditional (c : Client) (hs : Headers) : Headers :=
  let hs := c.additional.entries.foldl (fun hs e => hs.orInsert e.1 e.2) hs
  match c.requestId with
  | some id => hs.orInsert Fault.requestIdHeader id
  | none => hs

/-- The headers of a request, of which the call gave some. -/
def requestHeaders (c : Client) (token : Option String) (n : Negotiator) (own : Headers) :
    Except Error Headers :=
  (withCredentials token (withVersion n own)).map c.withAdditional

/-- The path at which a server tells its range. -/
def discoveryTarget (major : UInt32) : String :=
  String.ofList ('/' :: 'v' :: Text.decimal major.toNat)

/-- The request for the range of a server. -/
def discoveryRequest (c : Client) (token : Option String) (major : UInt32) :
    Except Error Http.Request :=
  (withCredentials token .empty).map fun headers =>
    ⟨"GET", discoveryTarget major, headers, none, c.filter, some c.endpoint⟩

/-- The answer to the request for the range: a refusal of the version is as good as a success. -/
def checkDiscovery (major : UInt32) : Except Error Http.Response → Except Error Http.Response
  | .error e => .error e
  | .ok r =>
    if 400 ≤ r.status ∧ r.status ≠ 406 then
      .error (.http (.ofResponse r "GET" (discoveryTarget major)))
    else .ok r

/-- The files after a version has been agreed on: it is remembered if there is a cache and the
server is known, and nothing depends on whether that succeeds. -/
def remember (c : Client) (now : Nat) (v : Version) (fs : Storage.FileSystem) :
    Storage.FileSystem :=
  match c.cache, c.server with
  | some cache, some server => (cache.save now server v.text fs).1
  | _, _ => fs

end Client

end Microversion
