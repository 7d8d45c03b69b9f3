import Microversion.Domain.CombiningClass
import Microversion.Domain.Composition

/-! # Normal form

Two texts that differ only in the order of independent marks, or in whether a
composite or its parts are written, have the same normal form: all composites
are taken apart, the marks of each character are put in the order of their
classes, and what has a composite is put together again.
-/

namespace Microversion.Domain

/-- The parts of a character, whose composites lie no deeper than `depth`. -/
def parts : Nat → Char → List Char
  | 0, c => [c]
  | depth + 1, c =>
    match split? c with
    | some (d, e) => parts depth d ++ [e]
    | none => [c]

/-- A composite is made of three characters at most. -/
def maxDepth : Nat := 2

/-- The text with all composites taken apart. -/
def decompose (cs : List Char) : List Char := cs.flatMap (parts maxDepth)

/-- Put a mark after the marks of a smaller class. -/
def insertMark (c : Char) : List Char → List Char
  | [] => [c]
  | d :: ds =>
    if 0 < combiningClass d ∧ combiningClass d < combiningClass c then d :: insertMark c ds
    else c :: d :: ds

/-- Put the marks of each character in the order of their classes. -/
def orderMarks (cs : List Char) : List Char := cs.foldr insertMark []

/-- Put the characters after a starter together with it. `skipped` are those of them, the last
first, that have no composite with it; one of the same class or of none hides what follows. -/
def composeFrom (starter : Char) (skipped : List Char) : List Char → List Char
  | [] => starter :: skipped.reverse
  | c :: cs =>
    let hidden := skipped.head?.any fun d => combiningClass c ≤ combiningClass d
    match if hidden then none else join? starter c with
    | some composite => composeFrom composite skipped cs
    | none =>
      if isStarter c then starter :: skipped.reverse ++ composeFrom c [] cs
      else composeFrom starter (c :: skipped) cs

/-- Put together all that has a composite. -/
def compose : List Char → List Char
  | [] => []
  | c :: cs => if isStarter c then composeFrom c [] cs else c :: compose cs

/-- The normal form of a text. -/
def normalForm (cs : List Char) : List Char := compose (orderMarks (decompose cs))

/-- The text is its own normal form. -/
def isNormal (cs : List Char) : Bool := normalForm cs == cs

end Microversion.Domain
