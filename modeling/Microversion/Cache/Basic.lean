import Microversion.Cache.Document
import Microversion.Cache.ServerKey
import Microversion.Storage.FileSystem

/-! # The cache of versions

A cache is a file with an entry per server. An entry counts for as long as it is
younger than the expiry; a file that cannot be read counts as empty.
-/

namespace Microversion

/-- The path of a cache file and the age from which on its entries do not count. -/
structure Cache where
  path : String
  expiry : Duration
deriving DecidableEq, Repr

namespace Cache

open Storage

def file (c : Cache) : Path := .ofText c.path

/-- What is found at the path of a cache. -/
inductive Content where
  | absent
  | unreadable (reason : Errno)
  | corrupt
  | entries (doc : Document)
deriving DecidableEq, Repr

/-- What the outcome of reading the file says. -/
def Content.ofRead : Except Errno Bytes → Content
  | .error .noEntry => absent
  | .error e => unreadable e
  | .ok bs =>
    match Document.decode? bs with
    | some doc => entries doc
    | none => corrupt

/-- The entries, if there are any to be read. -/
def Content.document? : Content → Option Document
  | entries doc => some doc
  | _ => none

/-- What is in the file of a cache. -/
def content (c : Cache) (fs : FileSystem) : Content := .ofRead (fs.read c.file)

/-- The version of an entry younger than `maxAge`. -/
def fresh? (maxAge : Duration) (now : Nat) (e : Entry) : Option String :=
  if maxAge ≤ e.age now then none else some e.version

/-- The version of a server from an entry younger than `maxAge`. -/
def retrieveWithin (c : Cache) (maxAge : Duration) (now : Nat) (key : ServerKey)
    (fs : FileSystem) : Option String :=
  ((c.content fs).document?.bind (Table.get? key.text)).bind (fresh? maxAge now)

/-- The version of a server from an entry that has not expired. -/
def retrieve (c : Cache) (now : Nat) (key : ServerKey) (fs : FileSystem) : Option String :=
  c.retrieveWithin c.expiry now key fs

end Cache

end Microversion
