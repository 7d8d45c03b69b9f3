import Microversion.Url.Host

/-! # URLs

A URL in its parts, each already in its encoded form, and the text that the
parts make up. A path is either a list of segments or, for a scheme without
hierarchy, flat text.
-/

namespace Microversion

namespace Url

/-- Special schemes have a host and a default port; files have a host but no port. -/
inductive SchemeKind where
  | special
  | file
  | other
deriving DecidableEq, Repr

/-- The port meant by a scheme when none is written. -/
def defaultPort? (scheme : List Char) : Option Nat :=
  if scheme = "http".toList ∨ scheme = "ws".toList then some 80
  else if scheme = "https".toList ∨ scheme = "wss".toList then some 443
  else if scheme = "ftp".toList then some 21
  else none

def schemeKind (scheme : List Char) : SchemeKind :=
  if (defaultPort? scheme).isSome then .special
  else if scheme = "file".toList then .file
  else .other

structure Authority where
  username : List Char
  password : Option (List Char)
  host : Host
  port : Option Nat
deriving DecidableEq, Repr

inductive Path where
  | rooted (segments : List (List Char))
  | flat (text : List Char)
deriving DecidableEq, Repr

def Path.chars : Path → List Char
  | rooted segments => segments.flatMap ('/' :: ·)
  | flat text => text

def Path.segments : Path → List (List Char)
  | rooted segments => segments
  | flat _ => []

def Authority.chars (a : Authority) : List Char :=
  let password := match a.password with
    | some p => ':' :: p
    | none => []
  let user := a.username ++ password
  let port := match a.port with
    | some p => ':' :: Text.decimal p
    | none => []
  (if user.isEmpty then [] else user ++ ['@']) ++ a.host.chars ++ port

end Url

/-- A parsed URL. -/
structure Url where
  scheme : List Char
  authority : Option Url.Authority
  path : Url.Path
  query : Option (List Char)
  fragment : Option (List Char)
deriving DecidableEq, Repr

namespace Url

def kind (u : Url) : SchemeKind := schemeKind u.scheme

/-- The URL has no hierarchy to resolve a relative reference in. -/
def isFlat (u : Url) : Bool :=
  match u.path with
  | .flat _ => true
  | .rooted _ => false

def authorityChars (u : Url) : List Char :=
  match u.authority with
  | some a => '/' :: '/' :: a.chars
  | none => if ['/', '/'].isPrefixOf u.path.chars then ['/', '.'] else []

def optionalPart (mark : Char) : Option (List Char) → List Char
  | some part => mark :: part
  | none => []

def chars (u : Url) : List Char :=
  u.scheme ++ ':' :: u.authorityChars ++ u.path.chars ++ optionalPart '?' u.query ++
    optionalPart '#' u.fragment

/-- The URL without user name and password. -/
def anonymous (u : Url) : Url :=
  { u with authority := u.authority.map fun a => ⟨[], none, a.host, a.port⟩ }

/-- The text of a URL. -/
def text (u : Url) : String := String.ofList u.chars

/-- The host, unless there is none or it is empty. -/
def hostText? (u : Url) : Option String :=
  match u.authority with
  | some a => if a.host.isEmpty then none else some (String.ofList a.host.chars)
  | none => none

/-- The port that is written and is not the default one of the scheme. -/
def port? (u : Url) : Option Nat := u.authority.bind (·.port)

/-- The port that is written, else the default one of the scheme. -/
def effectivePort? (u : Url) : Option Nat :=
  match u.port? with
  | some p => some p
  | none => defaultPort? u.scheme

/-- The path with its query. -/
def target (u : Url) : String :=
  String.ofList (u.path.chars ++ optionalPart '?' u.query)

end Url

end Microversion
