import Microversion.Error.Basic
import Microversion.Text.Blank
import Microversion.Version.SelectState

/-! # Reading versions and what is asked for

A request is the word for the newest version, one version, or a list of
versions with commas between them.
-/

namespace Microversion

/-- The version written by a text. -/
def Version.parse (s : String) : Except Error Version :=
  match Version.ofText? s with
  | some v => .ok v
  | none => .error (.invalidVersion s)

/-- The state written by a text. -/
def SelectState.parse (s : String) : Except Error SelectState :=
  match SelectState.ofText? s with
  | some state => .ok state
  | none => .error (.invalidSelectState s)

namespace Requested

/-- A candidate, which may have blanks around it. -/
def parseCandidate (cs : List Char) : Except Error Version :=
  let s := String.ofList (Text.trimChars cs)
  if s = latestWord then .error (.validation .latestInList) else Version.parse s

/-- The versions of the candidates, or the error of the first one that is wrong. -/
def parseCandidates : List (List Char) → Except Error (List Version)
  | [] => .ok []
  | cs :: rest =>
    match parseCandidate cs with
    | .error e => .error e
    | .ok v => (parseCandidates rest).map (v :: ·)

/-- A list of candidates, of which there has to be one. -/
def ofCandidates (candidates : List String) : Except Error Requested :=
  match parseCandidates (candidates.map String.toList) with
  | .error e => .error e
  | .ok [] => .error (.validation .noCandidates)
  | .ok vs => .ok (.anyOf vs)

/-- What is asked for by a text. -/
def parse (s : String) : Except Error Requested :=
  let cs := Text.trimChars s.toList
  if cs = latestWord.toList then .ok .latest
  else if ',' ∈ cs then ofCandidates ((Text.splitAll ',' cs).map String.ofList)
  else (Version.parse (String.ofList cs)).map .pinned

end Requested

end Microversion
