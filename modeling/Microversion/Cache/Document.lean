import Microversion.Duration

/-! # The content of a cache file

A JSON object with one entry per server: the version last agreed with it and
when that was. Other members of an entry are skipped.
-/

namespace Microversion.Cache

/-- A version and the time, in milliseconds, at which it was stored. -/
structure Entry where
  version : String
  storedAt : Nat
deriving DecidableEq, Repr

/-- The milliseconds since an entry was stored; a time yet to come counts as now. -/
def Entry.age (e : Entry) (now : Nat) : Duration := .ofMilliseconds (now - e.storedAt)

/-- The entry of a record. -/
def Entry.ofTree? (t : Json.Tree) : Option Entry :=
  match t.record? .skipped ["version", "stored_at"] with
  | some [some version, some storedAt] =>
    match version.text?, storedAt.natBelow? UInt64.size with
    | some version, some storedAt => some ⟨version, storedAt⟩
    | _, _ => none
  | _ => none

def Entry.toJson (e : Entry) : Json.Value :=
  .object [("version", .string e.version), ("stored_at", .ofNat e.storedAt)]

/-- Entries by the text of a server's key. -/
abbrev Document := Table Entry

namespace Document

/-- Put the members of an object in one after the other; of equal keys the last one stays. -/
def ofMembers? : List (List Json.Piece × Json.Tree) → Document → Option Document
  | [], doc => some doc
  | (key, t) :: ms, doc =>
    match Json.Piece.text? key, Entry.ofTree? t with
    | some key, some entry => ofMembers? ms (Table.insert key entry doc)
    | _, _ => none

/-- The entries that the bytes of a file hold. -/
def decode? (bs : Bytes) : Option Document :=
  match Json.Tree.parse? bs with
  | some (.object ms) => ofMembers? ms []
  | _ => none

def toJson (doc : Document) : Json.Value :=
  .object (doc.map fun (key, entry) => (key, entry.toJson))

/-- The bytes of the file that holds the entries. -/
def encode (doc : Document) : Bytes := Utf8.encode doc.toJson.pretty

end Document

end Microversion.Cache
