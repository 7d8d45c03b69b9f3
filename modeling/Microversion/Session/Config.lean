import Microversion.Duration
import Microversion.Environment
import Microversion.Error.Basic

/-! # Configuration of a session

The endpoint, the token and the time limits of a session. A token has to be
given unless authentication is switched off, and must not be given then.
-/

namespace Microversion.Session

structure Config where
  endpoint : Option String
  token : Option String
  requestTimeout : Duration
  connectTimeout : Duration
deriving DecidableEq, Repr

namespace Config

/-- What is said in the place of a kind of authentication to switch it off. -/
def noAuth : String := "none"

/-- The token and the kind of authentication do not contradict each other. -/
def checkAuth (token authType : Option String) : Except Error Unit :=
  match token, authType == some noAuth with
  | some _, true => .error (.ambiguousAuth .tokenWithoutAuth)
  | none, false => .error (.ambiguousAuth .neither)
  | _, _ => .ok ()

/-- The time limit that a variable holds in seconds. -/
def timeout (env : Environment) (name : String) (default : Nat) : Duration :=
  .ofSeconds (((env.text? name).bind (Text.unsignedBelow? UInt64.size ·.toList)).getD default)

/-- The configuration in an environment. -/
def ofEnvironment (env : Environment) : Except Error Config :=
  let token := env.nonempty? "OS_TOKEN"
  (checkAuth token (env.text? "OS_AUTH_TYPE")).map fun _ =>
    { endpoint := env.nonempty? "OS_ENDPOINT"
      token
      requestTimeout := timeout env "IRONIC_TIMEOUT" 60
      connectTimeout := timeout env "IRONIC_CONNECT_TIMEOUT" 10 }

end Config

end Microversion.Session
