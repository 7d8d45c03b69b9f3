import Microversion.Environment
import Microversion.Retry
import Microversion.Table
import Microversion.Version.Parser

/-! # Configuration of a client -/

namespace Microversion

namespace Client

/-- What is configured for a client. -/
structure Config where
  endpoint : Option String
  version : Option Requested
  budget : RetryBudget
  region : Option String
  interface : Option String
  requestId : Option String
  headers : Table String
deriving DecidableEq, Repr

namespace Config

def empty : Config := ⟨none, none, .unset, none, none, none, []⟩

/-- The endpoint to look for: the public one unless an interface is given. -/
def filter (c : Config) : EndpointFilter :=
  { EndpointFilter.default with
    interface := c.interface.getD EndpointFilter.defaultInterface
    region := c.region }

/-- What is asked for by a text that is not blank. -/
def versionOfText (s : Option String) : Except Error (Option Requested) :=
  match s.filter (!·.toList.all Text.isBlank) with
  | none => .ok none
  | some s => (Requested.parse s).map some

/-- The budget in the environment; numbers that cannot be read count as unset. -/
def budgetOf (env : Environment) : RetryBudget :=
  let number? (name : String) (bound : Nat) : Option Nat :=
    (env.text? name).bind fun s => Text.unsignedBelow? bound s.toList
  ⟨(number? "IRONIC_MAX_RETRIES" UInt32.size).map UInt32.ofNat,
    (number? "IRONIC_RETRY_INTERVAL" UInt64.size).map Duration.ofSeconds⟩

/-- The configuration in an environment. -/
def ofEnvironment (env : Environment) : Except Error Config :=
  (versionOfText (env.text? "OS_BAREMETAL_API_VERSION")).map fun version =>
    { empty with
      endpoint := env.nonempty? "OS_ENDPOINT"
      version
      budget := budgetOf env
      region := env.text? "OS_REGION_NAME"
      interface := env.text? "OS_INTERFACE" }

end Config

end Client

end Microversion
