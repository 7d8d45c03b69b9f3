import Microversion.Json.Printer
import Microversion.Retry
import Microversion.Session.Config
import Microversion.Version.SelectState

/-! # Values stored as JSON

Versions, states, budgets and the configuration of a session are read from JSON
and written to it.
-/

namespace Microversion

open Json

namespace Version

def ofTree? (t : Tree) : Option Version :=
  match t.record? .skipped ["major", "minor"] with
  | some [some major, some minor] =>
    match major.natBelow? UInt32.size, minor.natBelow? UInt32.size with
    | some major, some minor => some ⟨.ofNat major, .ofNat minor⟩
    | _, _ => none
  | _ => none

def toJson (v : Version) : Value :=
  .object [("major", .ofNat v.major.toNat), ("minor", .ofNat v.minor.toNat)]

end Version

namespace SelectState

/-- A state is written as a string, or as an object whose only member is null. -/
def ofTree? : Tree → Option SelectState
  | .string ps => (Piece.text? ps).bind ofText?
  | .object [(key, .null)] => (Piece.text? key).bind ofText?
  | _ => none

def toJson (s : SelectState) : Value := .string s.text

end SelectState

namespace RetryBudget

def ofTree? (t : Tree) : Option RetryBudget :=
  match t.record? .skipped ["max_retries", "retry_interval"] with
  | some [maxRetries, interval] =>
    match Tree.optional? (Tree.natBelow? UInt32.size) maxRetries,
        Tree.optional? Duration.ofTree? interval with
    | some maxRetries, some interval => some ⟨maxRetries.map UInt32.ofNat, interval⟩
    | _, _ => none
  | _ => none

def toJson (b : RetryBudget) : Value :=
  .object [("max_retries", .ofOption (fun n => .ofNat n.toNat) b.maxRetries),
    ("retry_interval", .ofOption Duration.toJson b.interval)]

end RetryBudget

namespace Session.Config

def ofTree? (t : Tree) : Option Config :=
  match t.record? .skipped ["endpoint", "token", "request_timeout", "connect_timeout"] with
  | some [endpoint, token, some requestTimeout, some connectTimeout] =>
    match Tree.optional? Tree.text? endpoint, Tree.optional? Tree.text? token,
        Duration.ofTree? requestTimeout, Duration.ofTree? connectTimeout with
    | some endpoint, some token, some requestTimeout, some connectTimeout =>
      some ⟨endpoint, token, requestTimeout, connectTimeout⟩
    | _, _, _, _ => none
  | _ => none

def toJson (c : Config) : Value :=
  .object [("endpoint", .ofOption .string c.endpoint), ("token", .ofOption .string c.token),
    ("request_timeout", c.requestTimeout.toJson), ("connect_timeout", c.connectTimeout.toJson)]

end Session.Config

end Microversion
