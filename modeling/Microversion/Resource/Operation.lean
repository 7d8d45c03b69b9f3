import Microversion.Client.Call
import Microversion.Resource.Kind

/-! # Operations on resources

Items are created in a collection and are read, changed and deleted by their
identifiers. An operation may speak a version of its own.
-/

namespace Microversion.Resource

open Client Http

/-- The path of a collection. -/
def collectionTarget (kind : Kind) : String :=
  discoveryTarget Version.majorNumber ++ "/" ++ kind.path

/-- The path of an item. -/
def itemTarget (kind : Kind) (id : String) : String :=
  collectionTarget kind ++ "/" ++ id

/-- The headers of an operation that speaks a version of its own. -/
def versionHeaders (version : Option String) : Except Error Headers :=
  match version with
  | none => .ok .empty
  | some s =>
    match HeaderValue.ofText? s with
    | none => .error (.invalidVersion s)
    | some v => .ok (Headers.empty.insert versionHeader v)

/-- What is done to an item or a collection. -/
inductive Operation where
  | get (id : String)
  | create (body : Json.Value)
  /-- Change an item by a patch, which is sent as it is. -/
  | update (id : String) (patch : Json.Value)
  | delete (id : String)

/-- The request of an operation. -/
def Operation.order (op : Operation) (kind : Kind) (version : Option String) :
    Except Error Order :=
  (versionHeaders version).map fun headers =>
    match op with
    | .get id => jsonOrder "GET" (itemTarget kind id) none headers
    | .create body => jsonOrder "POST" (collectionTarget kind) (some body) headers
    | .update id patch => jsonOrder "PATCH" (itemTarget kind id) (some patch) headers
    | .delete id => jsonOrder "DELETE" (itemTarget kind id) none headers

end Microversion.Resource
