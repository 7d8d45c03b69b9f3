import Microversion.Domain.Allowed
import Microversion.Domain.Direction
import Microversion.Domain.Joining
import Microversion.Domain.Mapping
import Microversion.Domain.Punycode

/-! # Labels

The labels of a domain stand between its points. A label that starts with `xn--`
is written in Punycode and stands for a text beyond ASCII, and every label beyond
ASCII has such a form. `isDomain` tells whether a list of labels makes up a
domain, and `asciiForm?` writes a domain in ASCII.
-/

namespace Microversion.Domain

/-! ## Joiners -/

/-- Keeps apart what would join. -/
def nonJoiner : Char := '\u200c'

/-- Joins what would stay apart. -/
def joiner : Char := '\u200d'

/-- The first character that is not transparent joins in one of the given ways. -/
def meets (ways : List Joining) (cs : List Char) : Bool :=
  match cs.dropWhile (Joining.of · == .transparent) with
  | [] => false
  | c :: _ => ways.contains (Joining.of c)

/-- A joiner may follow the text `before`, whose last character comes first, and stand ahead of
`after`: behind a virama, or to keep apart two letters that would join. -/
def joinerFits (c : Char) (before after : List Char) : Bool :=
  match before with
  | [] => false
  | d :: _ =>
    isVirama d ||
      (c == nonJoiner && meets [.left, .dual] before && meets [.right, .dual] after)

/-- All joiners after the text `before` stand where they may. -/
def joinersFit (before : List Char) : List Char → Bool
  | [] => true
  | c :: cs =>
    ((c != nonJoiner && c != joiner) || joinerFits c before cs) && joinersFit (c :: before) cs

/-! ## Texts beyond ASCII -/

/-- The most characters of a label in Punycode after its mark. -/
def maxPunycodeLength : Nat := 2000

/-- The most characters of the text that a label in Punycode stands for. -/
def maxTextLength : Nat := 1000

/-- The text may be a label or stand for one in Punycode. -/
def isLabelText (cs : List Char) : Bool :=
  cs.any (0x80 ≤ ·.toNat) && cs.length ≤ maxTextLength &&
    cs.all (fun c => c.toNat < 0x80 || isAllowed c) && !cs.head?.any isMark &&
    isNormal cs && joinersFit [] cs

/-- The text that a label stands for, `none` for a label that no domain may hold. -/
def labelText? (label : List Char) : Option (List Char) :=
  match label with
  | 'x' :: 'n' :: '-' :: '-' :: cs =>
    if maxPunycodeLength < cs.length ∨ cs.any (0x80 ≤ ·.toNat) then none
    else (Punycode.decode? cs).filter isLabelText
  | label => if label.all (·.toNat < 0x80) ∨ isLabelText label then some label else none

/-- The label in ASCII, in Punycode if it goes beyond. -/
def asciiLabel (label : List Char) : List Char :=
  if label.all (·.toNat < 0x80) then label else "xn--".toList ++ Punycode.encode label

/-! ## Direction -/

/-- The text has letters or digits that are written from right to left. -/
def hasRight (cs : List Char) : Bool :=
  cs.any fun c => Direction.of c == .right || Direction.of c == .arabicNumber

/-- The directions of a label, without marks at its end, in which all letters agree. It starts
with a letter and ends in a letter or digit, and only one kind of digits stands among letters
that are written from right to left. -/
def keepsDirection (directions : List Direction) : Bool :=
  match directions with
  | [] => true
  | first :: rest =>
    match first, rest.reverse.dropWhile (· == .mark) with
    | .left, [] => true
    | .left, last :: between =>
      [Direction.left, .europeanNumber].contains last &&
        between.all ([Direction.left, .europeanNumber, .mark, .neutral].contains ·)
    | .right, [] => true
    | .right, last :: between =>
      [Direction.right, .europeanNumber, .arabicNumber].contains last && between.all (· != .left) &&
        !((last :: between).contains .europeanNumber && (last :: between).contains .arabicNumber)
    | _, _ => false

/-! ## Domains -/

/-- The labels make up a domain: each stands for a text, and where anything is written from right
to left every label keeps to one direction. -/
def isDomain (labels : List (List Char)) : Bool :=
  match labels.mapM labelText? with
  | none => false
  | some texts => !texts.any hasRight || texts.all fun text => keepsDirection (text.map .of)

/-- The ASCII form of the domain that is written, whose text may hold none of the `denied`
characters. -/
def asciiForm? (denied : Char → Bool) (cs : List Char) : Option (List Char) :=
  (mapText? cs).bind fun text =>
    let labels := Text.splitAll '.' text
    if !text.any denied ∧ isDomain labels then
      some (Text.joinWith ['.'] (labels.map asciiLabel))
    else none

end Microversion.Domain
