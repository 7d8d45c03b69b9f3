import Microversion.Error.Basic
import Microversion.Text.Blank

/-! # Kinds of resources

The collections of the service: the path of each, and the member of a page that
holds its items.
-/

namespace Microversion.Resource

inductive Kind where
  | node
  | port
  | portgroup
  | chassis
  | driver
  | allocation
  | deployTemplate
  | volumeConnector
  | volumeTarget
deriving DecidableEq, Repr

namespace Kind

def all : List Kind :=
  [node, port, portgroup, chassis, driver, allocation, deployTemplate, volumeConnector,
    volumeTarget]

/-- The path below the version segment. -/
def path : Kind → String
  | node => "nodes"
  | port => "ports"
  | portgroup => "portgroups"
  | chassis => "chassis"
  | driver => "drivers"
  | allocation => "allocations"
  | deployTemplate => "deploy_templates"
  | volumeConnector => "volume/connectors"
  | volumeTarget => "volume/targets"

/-- The member of a page that holds the items. -/
def itemsKey : Kind → String
  | volumeConnector => "connectors"
  | volumeTarget => "targets"
  | kind => kind.path

/-- A name with underscores in the place of other separators. -/
def underscored (isSeparator : Char → Bool) (cs : List Char) : List Char :=
  cs.map fun c => if isSeparator c then '_' else c

/-- The kind whose path or key is written, with blanks or hyphens for underscores if need be. -/
def parse (s : String) : Except Error Kind :=
  let wanted := underscored (fun c => c == '-' || c == ' ') (Text.trimChars s.toList)
  let isNamed (kind : Kind) : Bool :=
    underscored (· == '/') kind.path.toList == wanted || kind.itemsKey.toList == wanted
  match all.find? isNamed with
  | some kind => .ok kind
  | none => .error (.validation (.resourceKind s))

end Kind

end Microversion.Resource
