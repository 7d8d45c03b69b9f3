import Microversion.Text.Blank
import Microversion.Text.Split

/-! # Endpoints

How an endpoint is looked up in a catalogue, the form in which a client keeps
it, and the joining of paths to it.
-/

namespace Microversion

/-- What is asked of a catalogue of endpoints. -/
structure EndpointFilter where
  serviceType : String
  interface : String
  region : Option String
deriving DecidableEq, Repr

namespace EndpointFilter

def defaultInterface : String := "public"

/-- The public interface in any region. -/
def default : EndpointFilter := ⟨"baremetal", defaultInterface, none⟩

end EndpointFilter

namespace Endpoint

/-- A path segment that names a version: `v` and at least one digit. -/
def isVersionSegment : List Char → Bool
  | 'v' :: ds => !ds.isEmpty && ds.all Char.isDigit
  | _ => false

/-- Drop the slashes at the end. -/
def dropSlashes (cs : List Char) : List Char := Text.dropEndWhile (· == '/') cs

def trimChars (cs : List Char) : List Char :=
  let cs := dropSlashes cs
  match Text.splitLast? '/' cs with
  | some (base, segment) =>
    if Text.occursIn [':', '/', '/'] base ∧ isVersionSegment segment then dropSlashes base else cs
  | none => cs

/-- An endpoint without slashes at its end and without a version segment. -/
def trim (s : String) : String := String.ofList (trimChars s.toList)

def joinChars (base path : List Char) : List Char :=
  let base := dropSlashes base
  match path with
  | [] => base
  | '/' :: _ => base ++ path
  | _ => base ++ '/' :: path

/-- A path below a base, with one slash between them. -/
def join (base path : String) : String := String.ofList (joinChars base.toList path.toList)

end Endpoint

end Microversion
