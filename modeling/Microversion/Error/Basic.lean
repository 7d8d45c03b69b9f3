import Microversion.Error.Fault
import Microversion.Storage.Errno
import Microversion.Url.ParseError
import Microversion.Version.Requested

/-! # Errors

What can go wrong in the library, by its cause. A session outside the library
reports its own causes in words, for which every kind that it can use has the
case `reported`.
-/

namespace Microversion

/-- Why the cache of versions cannot be used. -/
inductive CacheError where
  | noDirectory
  | io (reason : Storage.Errno)
deriving DecidableEq, Repr

def CacheError.message : CacheError → String
  | noDirectory => "Could not determine cache directory for the current platform"
  | io reason => "IO error: " ++ reason.message

/-- Why no version could be agreed on. -/
inductive VersionConflict where
  /-- The server does not tell its range. -/
  | noRange
  /-- A version that was asked for by name was refused. -/
  | refused (version : String) (min max : Version)
  /-- The version agreed on before was refused. -/
  | refusedAgreed (version : String) (min max : Version)
  /-- No candidate lies in the range. -/
  | noCandidate (candidates : String) (min max : Version)
  | reported (text : String)
deriving DecidableEq, Repr

def VersionConflict.message : VersionConflict → String
  | noRange => "The server does not advertise the API versions it supports"
  | refused version min max =>
    "Requested API version " ++ version ++ " is not supported by the server, client, " ++
      "or the requested operation is not supported by the requested version. " ++
      "Supported version range is " ++ min.text ++ " to " ++ max.text
  | refusedAgreed version min max =>
    "No API version was specified or the requested operation was not supported " ++
      "by the client's negotiated API version " ++ version ++
      ". Supported version range is: " ++ min.text ++ " to " ++ max.text
  | noCandidate candidates min max =>
    "None of the requested API versions " ++ candidates ++ " are supported by the server. " ++
      "Supported version range is " ++ min.text ++ " to " ++ max.text
  | reported text => text

/-- Why there is no endpoint. -/
inductive EndpointError where
  /-- The catalogue has no endpoint that fits the filter. -/
  | notInCatalogue (filter : EndpointFilter)
  /-- A relative target has no endpoint to be resolved against. -/
  | noBase (target : String)
  | reported (text : String)
deriving DecidableEq, Repr

def EndpointError.message : EndpointError → String
  | notInCatalogue filter =>
    "Could not find the " ++ filter.serviceType ++ " endpoint (interface " ++
      filter.interface ++ ", region " ++ filter.region.getD "any" ++ ")"
  | noBase target => "no endpoint to resolve '" ++ target ++ "' against"
  | reported text => text

/-- Why the means of authentication are not clear. -/
inductive AuthError where
  | tokenWithoutAuth
  | neither
  | reported (text : String)
deriving DecidableEq, Repr

def AuthError.message : AuthError → String
  | tokenWithoutAuth => "A token was supplied together with OS_AUTH_TYPE=none"
  | neither => "Must provide a token (OS_TOKEN) or disable authentication (OS_AUTH_TYPE=none)"
  | reported text => text

/-- Why a setting or an argument is refused. -/
inductive ValidationError where
  /-- The word for the newest version stands in a list of candidates. -/
  | latestInList
  | noCandidates
  | headerName (name : String)
  | headerValue (value : String)
  | resourceKind (name : String)
  | reported (text : String)
deriving DecidableEq, Repr

def ValidationError.message : ValidationError → String
  | latestInList =>
    "The 'latest' API version can not be requested in a list of versions. " ++
      "Please explicitly request 'latest' or request only concrete versions"
  | noCandidates => "At least one API version must be requested"
  | headerName name => "Invalid header name '" ++ name ++ "': invalid HTTP header name"
  | headerValue value => "Invalid header value '" ++ value ++ "': failed to parse header value"
  | resourceKind name => "Unknown resource kind '" ++ name ++ "'"
  | reported text => text

/-- The errors of the library. -/
inductive Error where
  | http (fault : Fault)
  | connectionRefused (reason : String)
  | connectionFailure (reason : String)
  | transport (reason : String)
  | unsupportedVersion (reason : VersionConflict)
  | endpointNotFound (reason : EndpointError)
  | ambiguousAuth (reason : AuthError)
  | validation (reason : ValidationError)
  | invalidVersion (text : String)
  | invalidSelectState (text : String)
  | invalidUrl (reason : Url.ParseError)
  | json
  | cache (reason : CacheError)
deriving DecidableEq, Repr

namespace Error

/-- The full text of an error. -/
def message : Error → String
  | http fault => fault.text
  | connectionRefused reason => "Connection refused: " ++ reason
  | connectionFailure reason => "Connection failure: " ++ reason
  | transport reason => "HTTP transport error: " ++ reason
  | unsupportedVersion reason => "Unsupported API version: " ++ reason.message
  | endpointNotFound reason => "Endpoint not found: " ++ reason.message
  | ambiguousAuth reason => "Ambiguous authentication: " ++ reason.message
  | validation reason => "Validation error: " ++ reason.message
  | invalidVersion text => "Invalid API version '" ++ text ++ "', expected <major>.<minor>"
  | invalidSelectState text => "Invalid API version select state '" ++ text ++ "'"
  | invalidUrl reason => "Invalid URL: " ++ reason.message
  | json => "JSON error"
  | cache reason => "Cache error: " ++ reason.message

/-- The failure may pass, so that the request may be sent again. -/
def isRetriable : Error → Bool
  | connectionRefused _ => true
  | connectionFailure _ => true
  | http fault => fault.kind == .conflict || fault.kind == .serviceUnavailable
  | _ => false

/-- The status of a failed exchange. -/
def status? : Error → Option Nat
  | http fault => some fault.status
  | _ => none

end Error

end Microversion
