import Microversion.Cache.Basic
import Microversion.Environment
import Microversion.Error.Basic
import Microversion.Text.Blank

/-! # The cache of a process

A process reads the lifetime of entries from its environment once, and all its
clients share one cache at a path that follows from the environment.
-/

namespace Microversion.Cache

/-- The lifetime of an entry when the environment names none. -/
def defaultExpiry : Duration := .ofSeconds 300

/-- The variable that holds the lifetime in seconds. -/
def expiryVariable : String := "IRONICCLIENT_CACHE_EXPIRY"

/-- The lifetime written by a text; one that is no number of seconds is ignored. -/
def expiryOfText (s : String) : Duration :=
  match Text.unsignedBelow? UInt64.size (Text.trimChars s.toList) with
  | some n => .ofSeconds n
  | none => defaultExpiry

/-- The lifetime that an environment asks for. -/
def expiryOf (env : Environment) : Duration :=
  ((env.text? expiryVariable).map expiryOfText).getD defaultExpiry

/-- The directory for caches: the one named if it is absolute, else one in the home directory. -/
def directory? (env : Environment) : Option String :=
  match (env.text? "XDG_CACHE_HOME").filter (·.toList.head? = some '/') with
  | some dir => some dir
  | none => (env.nonempty? "HOME").map (Storage.Path.join · ".cache")

/-- The path of the cache that all clients share. -/
def defaultPath (env : Environment) : Except CacheError String :=
  match directory? env with
  | some dir => .ok (Storage.Path.join (Storage.Path.join dir "ironic-client") "api-versions.json")
  | none => .error .noDirectory

/-- What the clients of a process share: the environment, the lifetime once it has been read, and
the cache once it has been opened. -/
structure Shared where
  environment : Environment
  expiry : Option Duration
  cache : Option Cache
deriving DecidableEq, Repr

namespace Shared

/-- Nothing has been read yet. -/
def start (env : Environment) : Shared := ⟨env, none, none⟩

/-- The lifetime of entries, read from the environment the first time. -/
def defaultExpiry (s : Shared) : Duration × Shared :=
  match s.expiry with
  | some d => (d, s)
  | none =>
    let d := expiryOf s.environment
    (d, { s with expiry := some d })

/-- Open a cache with the shared lifetime. -/
def openCache (s : Shared) (path : String) : Cache × Shared :=
  let (d, s) := s.defaultExpiry
  (⟨path, d⟩, s)

/-- The cache that all clients share, opened the first time. -/
def sharedCache (s : Shared) : Except CacheError (Cache × Shared) :=
  match s.cache with
  | some c => .ok (c, s)
  | none =>
    match defaultPath s.environment with
    | .error e => .error e
    | .ok path =>
      let (c, s) := s.openCache path
      .ok (c, { s with cache := some c })

end Shared

end Microversion.Cache
