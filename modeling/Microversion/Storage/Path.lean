import Microversion.Text.Split

/-! # File paths

A path is kept as the pieces of the text that names it, between its slashes. Some
of them lead nowhere; the others are the names that the path goes through.
-/

namespace Microversion.Storage

/-- What stands after the last part of a path. -/
inductive Ending where
  | bare
  /-- After a slash the path leads to a directory. -/
  | slash
  /-- After a slash and a point the path leads to a directory that is there. -/
  | point
deriving DecidableEq, Repr

/-- The pieces of a path's text between its slashes. -/
structure Path where
  pieces : List String
deriving DecidableEq, Repr

namespace Path

/-- The path that a text names. -/
def ofText (s : String) : Path := ⟨(Text.splitAll '/' s.toList).map String.ofList⟩

/-- Empty pieces and single points lead nowhere. -/
def isPart (piece : String) : Bool := piece != "" && piece != "."

/-- The pieces that lead somewhere: names, and the two points that lead upwards. -/
def parts (p : Path) : List String := p.pieces.filter isPart

/-- The text starts with a slash. -/
def absolute (p : Path) : Bool := p.pieces.head? == some "" && 1 < p.pieces.length

/-- The number of bytes of the text. -/
def size (p : Path) : Nat :=
  p.pieces.foldl (fun n piece => n + piece.utf8ByteSize) (p.pieces.length - 1)

def ending (p : Path) : Ending :=
  match p.pieces.reverse.dropWhile (· == "") with
  | [] => .bare
  | last :: _ =>
    if p.parts.isEmpty then .bare
    else if last = "." then .point
    else if p.pieces.getLast? = some "" then .slash
    else .bare

/-- A path below another one, unless it is absolute. -/
def join (base path : String) : String :=
  if path.toList.head? = some '/' then path
  else if base.toList.getLast? = some '/' ∨ base = "" then base ++ path
  else base ++ "/" ++ path

/-- The pieces up to the last one that leads somewhere. -/
def trimmed (pieces : List String) : List String :=
  (pieces.reverse.dropWhile (!isPart ·)).reverse

/-- The directory that holds what the path leads to. -/
def parent? (p : Path) : Option Path :=
  if p.parts.isEmpty then none
  else
    match trimmed (trimmed p.pieces).dropLast with
    | [] => some ⟨if p.absolute then ["", ""] else [""]⟩
    | pieces => some ⟨pieces⟩

/-- A name without what follows its last point; a point at its start does not count. -/
def stem (name : List Char) : List Char :=
  match Text.splitLast? '.' name with
  | some ([], _) => name
  | some (before, _) => before
  | none => name

/-- The path with another extension of its last name. Two points take no extension, and a name
that is nothing but two points and its old extension is cut down to them. -/
def withExtension (p : Path) (extension : String) : Path :=
  match p.parts.getLast? with
  | none => p
  | some name =>
    if name = ".." then p
    else
      let base := stem name.toList
      let name :=
        if base = ['.'] ∧ p.ending = .bare then ".."
        else String.ofList base ++ "." ++ extension
      ⟨(trimmed p.pieces).dropLast ++ [name]⟩

end Path

end Microversion.Storage
