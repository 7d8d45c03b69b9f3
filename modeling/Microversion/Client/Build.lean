import Microversion.Client.Basic
import Microversion.Client.Settings

/-! # Building a client

The endpoint is the one set, or else the one that the session finds. Without a
version a client starts from the one remembered for its server, or from the
initial one.
-/

namespace Microversion.Client

open Http

namespace Settings

/-- What the session is asked for when no endpoint is set. -/
def endpointQuery? (s : Settings) : Option EndpointFilter :=
  match s.endpoint with
  | some _ => none
  | none => some s.filter

/-- The endpoint, given what the session finds. -/
def endpointUrl (s : Settings) (found : Except Error (Option String)) : Except Error String :=
  match s.endpoint, found with
  | some url, _ => .ok url
  | none, .error e => .error e
  | none, .ok (some url) => .ok url
  | none, .ok none => .error (.endpointNotFound (.notInCatalogue s.filter))

/-- The endpoint as the client keeps it, which has to be a URL. -/
def trimmedEndpoint (s : Settings) (found : Except Error (Option String)) :
    Except Error String :=
  match s.endpointUrl found with
  | .error e => .error e
  | .ok url =>
    match Url.parse (Endpoint.trim url) with
    | .error e => .error (.invalidUrl e)
    | .ok _ => .ok (Endpoint.trim url)

/-- The server of an endpoint that was set. -/
def serverKey (s : Settings) : Except Error (Option ServerKey) :=
  match s.endpoint with
  | none => .ok none
  | some url =>
    match ServerKey.parse url with
    | .error e => .error (.invalidUrl e)
    | .ok key => .ok (some key)

/-- The cache to be used, given the one of the process. -/
def chosenCache (s : Settings) (shared : Option Cache) : Option Cache :=
  match s.cache with
  | .shared => shared
  | .given cache => some cache
  | .nowhere => none

/-- The headers by name, of which every name and value has to be one. -/
def headerFields : Table String → Except Error Headers
  | entries => entries.foldlM (fun hs (name, value) =>
      match headerName? name with
      | none => .error (.validation (.headerName name))
      | some field => (headerValue value).map (hs.insert field)) .empty

/-- What is spoken when no version is set: the version remembered, if it is one. -/
def remembered (cached : Option String) : Negotiator :=
  match cached.bind Version.ofText? with
  | some v => ⟨.pinned v, .cached⟩
  | none => ⟨.pinned .initial, .default⟩

/-- The version that the cache holds for the server. -/
def cachedText (cache : Option Cache) (server : Option ServerKey) (now : Nat)
    (fs : Storage.FileSystem) : Option String :=
  match cache, server with
  | some cache, some server => cache.retrieve now server fs
  | _, _ => none

/-- What is spoken at the beginning; a version that was set is the user's unless said otherwise. -/
def startingNegotiator (s : Settings) (cached : Option String) : Negotiator :=
  match s.version with
  | some requested => ⟨requested, s.selectState.getD .user⟩
  | none => remembered cached

end Settings

/-- The client of some settings. `found` is the endpoint that the session finds, and `shared` is the
cache of the process; time and files matter for what is remembered. -/
def build (s : Settings) (found : Except Error (Option String)) (shared : Option Cache)
    (now : Nat) (fs : Storage.FileSystem) : Except Error Client := do
  let endpoint ← s.trimmedEndpoint found
  let server ← s.serverKey
  let cache := s.chosenCache shared
  let start := s.startingNegotiator (Settings.cachedText cache server now fs)
  let additional ← Settings.headerFields s.headers
  let requestId ←
    match s.requestId with
    | some id => (headerValue id).map some
    | none => pure none
  return {
    endpoint, filter := s.filter, budget := s.budget.resolved, additional, requestId
    cache, server := cache.bind fun _ => server, start }

end Microversion.Client
