import Microversion.Version.Basic

/-! # What a caller asks for

One version, the newest one the server has, or the best of a list. Only the
first of these can be sent before the server has been asked for its range.
-/

namespace Microversion

/-- The version a caller wants to speak. -/
inductive Requested where
  | pinned (v : Version)
  | latest
  | anyOf (candidates : List Version)
deriving DecidableEq, Repr

namespace Requested

/-- The word that asks for the newest version. -/
def latestWord : String := "latest"

/-- The request can only be met after asking the server. -/
def requiresDiscovery : Requested → Bool
  | pinned _ => false
  | _ => true

/-- What the version header of a request would say. -/
def headerText? : Requested → Option String
  | pinned v => some v.text
  | latest => some latestWord
  | anyOf _ => none

/-- The major number under which the server is asked for its range. -/
def major : Requested → UInt32
  | pinned v => v.major
  | _ => Version.majorNumber

/-- The version, the word for the newest, or the candidates between brackets. -/
def text : Requested → String
  | pinned v => v.text
  | latest => latestWord
  | anyOf vs => String.ofList ('[' :: Text.joinWith [',', ' '] (vs.map Version.chars) ++ [']'])

/-- The versions named, in the order given. -/
def versions : Requested → List Version
  | pinned v => [v]
  | latest => []
  | anyOf vs => vs

end Requested

end Microversion
