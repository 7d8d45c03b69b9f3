import Microversion.Json.Value

/-! # Records in JSON

A record with named fields is read from an object or from an array with one
item per field. Of an object other members are skipped unread, so nothing is
asked of them beyond the grammar; a field given twice is an error.
-/

namespace Microversion.Json.Tree

/-- What is done with members that name no field. -/
inductive Others where
  | skipped
  | refused
deriving DecidableEq, Repr

/-- Put the tree of a field in its place; `none` when the field has one already. -/
def fill? (name : String) (t : Tree) :
    List String → List (Option Tree) → Option (List (Option Tree))
  | n :: ns, slot :: slots =>
    if n = name then
      match slot with
      | none => some (some t :: slots)
      | some _ => none
    else (fill? name t ns slots).map (slot :: ·)
  | _, _ => some []

/-- The trees of the named fields among the members of an object. -/
def select? (others : Others) (names : List String) :
    List (List Piece × Tree) → List (Option Tree) → Option (List (Option Tree))
  | [], slots => some slots
  | (key, t) :: ms, slots =>
    match Piece.text? key with
    | none => none
    | some name =>
      if names.contains name then
        match fill? name t names slots with
        | some slots => select? others names ms slots
        | none => none
      else if others = .refused then none
      else select? others names ms slots

/-- The trees of the fields of a record, in the order of the names. -/
def record? (others : Others) (names : List String) : Tree → Option (List (Option Tree))
  | .object ms => select? others names ms (names.map fun _ => none)
  | .array ts => if ts.length = names.length then some (ts.map some) else none
  | _ => none

/-- An unsigned integer below `bound`. -/
def natBelow? (bound : Nat) : Tree → Option Nat
  | .number n =>
    match n.int? with
    | some (Int.ofNat i) => if i < bound then some i else none
    | _ => none
  | _ => none

def text? : Tree → Option String
  | .string ps => Piece.text? ps
  | _ => none

/-- A field that may be absent or null. -/
def optional? {α : Type} (read : Tree → Option α) : Option Tree → Option (Option α)
  | none => some none
  | some .null => some none
  | some t => (read t).map some

end Microversion.Json.Tree
