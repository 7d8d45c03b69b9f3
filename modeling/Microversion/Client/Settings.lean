import Microversion.Cache.Basic
import Microversion.Client.Config

/-! # Settings of a client

A client is set up by a sequence of settings, of which a later one replaces an
earlier one of its kind; headers are collected by name. A configuration is
several settings in one.
-/

namespace Microversion

namespace Client

/-- Where a client keeps the version that it agreed on. -/
inductive CacheChoice where
  /-- In the cache of the process. -/
  | shared
  | given (cache : Cache)
  | nowhere
deriving DecidableEq, Repr

/-- How a client is to be set up. -/
structure Settings where
  endpoint : Option String
  filter : EndpointFilter
  version : Option Requested
  selectState : Option SelectState
  budget : RetryBudget
  cache : CacheChoice
  headers : Table String
  requestId : Option String
deriving DecidableEq, Repr

/-- One of the settings. -/
inductive Setting where
  | endpoint (url : String)
  | filter (filter : EndpointFilter)
  | version (requested : Requested)
  /-- Why the version is spoken; it counts only together with a version. -/
  | selectState (state : SelectState)
  | budget (budget : RetryBudget)
  | cache (cache : Cache)
  | withoutCache
  | header (name value : String)
  | requestId (id : String)
  | config (config : Config)
deriving DecidableEq, Repr

namespace Settings

/-- Nothing has been set. -/
def initial : Settings :=
  ⟨none, .default, none, none, .unset, .shared, [], none⟩

/-- The settings after those of a configuration: what it leaves open stays, except for the filter
and the budget. -/
def applyConfig (s : Settings) (c : Config) : Settings :=
  { s with
    endpoint := c.endpoint.or s.endpoint
    version := c.version.or s.version
    requestId := c.requestId.or s.requestId
    filter := c.filter
    budget := c.budget
    headers := s.headers.extend c.headers }

/-- The settings after one more. -/
def apply (s : Settings) : Setting → Settings
  | .endpoint url => { s with endpoint := some url }
  | .filter filter => { s with filter }
  | .version requested => { s with version := some requested }
  | .selectState state => { s with selectState := some state }
  | .budget budget => { s with budget }
  | .cache cache => { s with cache := .given cache }
  | .withoutCache => { s with cache := .nowhere }
  | .header name value => { s with headers := s.headers.insert name value }
  | .requestId id => { s with requestId := some id }
  | .config config => s.applyConfig config

/-- The settings made one after the other. -/
def ofList (settings : List Setting) : Settings := settings.foldl apply initial

end Settings

end Client

end Microversion
