import Microversion.Resource.Operation

/-! # Listing a collection

A collection is read page by page: every page holds items and may name the next
one. A listing goes on until a page names none, or until it has as many items as
it is limited to.
-/

namespace Microversion.Resource

open Client Http

/-- A collection to be listed. -/
structure Listing where
  kind : Kind
  limit : Option Nat
  version : Option String
deriving DecidableEq, Repr

namespace Listing

/-- The limit; zero is none. -/
def limit? (l : Listing) : Option Nat := l.limit.filter (0 < ·)

/-- The target of the first page. -/
def firstTarget (l : Listing) : String :=
  match l.limit? with
  | some n => collectionTarget l.kind ++ "?limit=" ++ String.ofList (Text.decimal n)
  | none => collectionTarget l.kind

/-- The items of a page; a page without any counts as empty. -/
def items (l : Listing) (page : Json.Value) : List Json.Value :=
  ((page.member? l.kind.itemsKey).bind Json.Value.array?).getD []

/-- The link to the next page. -/
def nextLink? (page : Json.Value) : Option String :=
  ((page.member? "next").bind Json.Value.string?).filter (· ≠ "")

/-- A link leads to another host, so only its path and query are used. -/
def linkTarget (link : String) : Except Error String :=
  match Url.parse link with
  | .ok u => .ok u.target
  | .error e => .error (.invalidUrl e)

/-- The items gathered are enough. -/
def isFull (l : Listing) (gathered : List Json.Value) : Bool :=
  match l.limit? with
  | some n => n ≤ gathered.length
  | none => false

/-- No more items than the limit allows. -/
def cut (l : Listing) (gathered : List Json.Value) : List Json.Value :=
  match l.limit? with
  | some n => gathered.take n
  | none => gathered

/-- How far a listing has come. -/
inductive Progress where
  | fetching (target : String) (gathered : List Json.Value)
  | finished (result : Except Error (List Json.Value))

/-- Go to the next page if there is one to be read. -/
def afterPage (l : Listing) (gathered : List Json.Value) (page : Json.Value) : Progress :=
  if l.isFull gathered then .finished (.ok (l.cut gathered))
  else
    match nextLink? page with
    | none => .finished (.ok gathered)
    | some link =>
      match linkTarget link with
      | .error e => .finished (.error e)
      | .ok target => .fetching target gathered

def start (l : Listing) : Progress := .fetching l.firstTarget []

/-- Go on with what the request for a page comes to. -/
def resume (l : Listing) (gathered : List Json.Value) : Except Error Response → Progress
  | .error e => .finished (.error e)
  | .ok r =>
    let page := jsonValue r
    l.afterPage (gathered ++ l.items page) page

/-- The request for a page. -/
def order (l : Listing) (target : String) : Except Error Order :=
  (versionHeaders l.version).map (jsonOrder "GET" target none)

end Listing

end Microversion.Resource
