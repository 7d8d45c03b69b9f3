import Microversion.Http.Message
import Microversion.Version.Parser

/-! # Agreeing on a version

A negotiator holds the version that a client speaks and why. Given the range
that a server advertises it settles on one version of it, after which it does
not negotiate again.
-/

namespace Microversion

/-- What a client speaks, and why. -/
structure Negotiator where
  requested : Requested
  state : SelectState
deriving DecidableEq, Repr

namespace Negotiator

def isNegotiated (n : Negotiator) : Bool := n.state == .negotiated

/-- The server has to be asked before the next request. -/
def mustNegotiate (n : Negotiator) : Bool :=
  n.state == .user && n.requested.requiresDiscovery

/-- The caller named one version, on which nothing can be agreed. -/
def isPinnedByUser (n : Negotiator) : Bool :=
  n.state == .user && !n.requested.requiresDiscovery

/-- What the version header of a request says. -/
def headerText? (n : Negotiator) : Option String := n.requested.headerText?

/-- The version held. -/
def currentText (n : Negotiator) : String := n.requested.text

/-- The negotiator that has agreed on a version. -/
def agreed (v : Version) : Negotiator := ⟨.pinned v, .negotiated⟩

end Negotiator

/-- The ends of a server's range as the server writes them. -/
structure Advertised where
  min : Option String
  max : Option String
deriving DecidableEq, Repr

namespace Advertised

def minHeader : String := "x-openstack-ironic-api-minimum-version"

def maxHeader : String := "x-openstack-ironic-api-maximum-version"

/-- The range in the headers of a response. -/
def ofResponse (r : Http.Response) : Advertised := ⟨r.header? minHeader, r.header? maxHeader⟩

/-- Both ends, if both are there. -/
def both? (a : Advertised) : Option (String × String) :=
  match a.min, a.max with
  | some min, some max => some (min, max)
  | _, _ => none

end Advertised

namespace Negotiator

/-- The newest version of a server that the client knows as well. -/
def cap (max : Version) : Version := min max Version.latestKnown

/-- The newest candidate from `min` to `max`. -/
def bestCandidate? (min max : Version) (candidates : List Version) : Option Version :=
  (candidates.filter fun v => min ≤ v ∧ v ≤ max).foldl
    (fun best v => some (match best with | some b => Max.max b v | none => v)) none

/-- The version to speak with a server whose range ends at `max`, not counting versions that the
client does not know. -/
def choose? (min max : Version) : Requested → Option Version
  | .pinned v => some (Max.max (Min.min v max) min)
  | .latest => some (Max.max max min)
  | .anyOf vs => (bestCandidate? min max vs).map (Max.max · min)

/-- The version that a refused request carried, if it is not the one agreed on. -/
def overriding? (n : Negotiator) (sent : Option String) : Option String :=
  if n.isNegotiated ∧ sent ≠ n.headerText? then sent else none

/-- The version agreed on with a server of the range `min` to `max`; `sent` is the version of the
request that the server refused. -/
def settle (n : Negotiator) (sent : Option String) (min max : Version) :
    Except Error Version :=
  let max := cap max
  if n.isPinnedByUser then .error (.unsupportedVersion (.refused n.currentText min max))
  else
    match n.overriding? sent with
    | some version => .error (.unsupportedVersion (.refused version min max))
    | none =>
      if n.isNegotiated then .error (.unsupportedVersion (.refusedAgreed n.currentText min max))
      else
        match choose? min max n.requested with
        | some v => .ok v
        | none => .error (.unsupportedVersion (.noCandidate n.currentText min max))

/-- As `settle`, with the range as the server writes it. -/
def settleText (n : Negotiator) (sent : Option String) (min max : String) :
    Except Error Version :=
  match Version.parse min with
  | .error e => .error e
  | .ok min =>
    match Version.parse max with
    | .error e => .error e
    | .ok max => n.settle sent min max

end Negotiator

end Microversion
