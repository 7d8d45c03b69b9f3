import Microversion.Decimal.Double
import Microversion.Json.Tree
import Microversion.Table

/-! # JSON values

The meaning of a tree: numbers are integers of 64 bits or doubles, strings are
texts, and an object has one member per key, in the order of the keys. Containers
nest at most 127 deep.
-/

namespace Microversion.Json

/-- An integer from `-2 ^ 63` to `2 ^ 64 - 1`, or a double. -/
inductive Number where
  | int (n : Int)
  | double (x : Decimal.Double)
deriving DecidableEq, Repr

inductive Value where
  | null
  | bool (b : Bool)
  | number (n : Number)
  | string (s : String)
  | array (items : List Value)
  | object (members : List (String × Value))
deriving Repr

namespace Piece

/-- The bytes of a string, `none` for a surrogate that stands alone. -/
def bytes? : List Piece → Option Bytes
  | [] => some []
  | .byte b :: ps => (bytes? ps).map (b :: ·)
  | .unit u :: .unit v :: ps =>
    if 0xD800 ≤ u ∧ u < 0xDC00 then
      if 0xDC00 ≤ v ∧ v < 0xE000 then
        let c := Char.ofNat (0x10000 + (u - 0xD800) * 0x400 + (v - 0xDC00))
        (bytes? ps).map (String.utf8EncodeChar c ++ ·)
      else none
    else if 0xDC00 ≤ u ∧ u < 0xE000 then none
    else (bytes? (.unit v :: ps)).map (String.utf8EncodeChar (Char.ofNat u) ++ ·)
  | .unit u :: ps =>
    if 0xD800 ≤ u ∧ u < 0xE000 then none
    else (bytes? ps).map (String.utf8EncodeChar (Char.ofNat u) ++ ·)

/-- The text of a string. -/
def text? (ps : List Piece) : Option String :=
  (bytes? ps).bind Utf8.decode?

end Piece

namespace Literal

/-- Read digits into `acc` while it fits in 64 bits; the digits left over come second. -/
def accumulate (acc : Nat) : List Char → Nat × List Char
  | [] => (acc, [])
  | c :: cs =>
    let next := 10 * acc + (c.toNat - '0'.toNat)
    if next < UInt64.size then accumulate next cs else (acc, c :: cs)

/-- The literal as a significand of 64 bits and a power of ten; further digits are dropped. -/
def scientific (n : Literal) : Nat × Int :=
  let (whole, wholeLeft) := accumulate 0 n.whole
  let (significand, fractionLeft) := accumulate whole n.fraction
  (significand, wholeLeft.length - (n.fraction.length - fractionLeft.length : Nat))

/-- The largest power of ten that is told from larger ones. -/
def maxPower : Nat := 2147483647

/-- The double nearest to the significand times the power of ten; `none` beyond the largest. -/
def double? (n : Literal) : Option Decimal.Double :=
  let (significand, exponent) := n.scientific
  let magnitude :=
    match n.power with
    | none => Decimal.Magnitude.ofScientific? significand exponent
    | some (negative, digits) =>
      let power := Nat.ofDigitChars 10 digits 0
      if maxPower < power then
        if significand = 0 ∨ negative then some Decimal.Magnitude.zero else none
      else
        let exponent := if negative then exponent - power else exponent + power
        Decimal.Magnitude.ofScientific? significand (max (-maxPower - 1) (min maxPower exponent))
  magnitude.map (⟨n.negative, ·⟩)

/-- The integer of 64 bits written by the literal; minus zero is none. -/
def int? (n : Literal) : Option Int :=
  if n.fraction.isEmpty ∧ n.power.isNone then
    let value := Nat.ofDigitChars 10 n.whole 0
    if n.negative then
      if 0 < value ∧ value ≤ UInt64.size / 2 then some (-value) else none
    else if value < UInt64.size then some value else none
  else none

/-- The number written by the literal. -/
def number? (n : Literal) : Option Number :=
  match n.int? with
  | some i => some (.int i)
  | none => n.double?.map .double

end Literal

namespace Value

mutual

/-- The value of a tree whose containers nest at most `depth` deep. -/
def ofTree? : Nat → Tree → Option Value
  | _, .null => some .null
  | _, .bool b => some (.bool b)
  | _, .number n => n.number?.map .number
  | _, .string ps => (Piece.text? ps).map .string
  | 0, .array _ => none
  | depth + 1, .array ts => (ofItems? depth ts).map .array
  | 0, .object _ => none
  | depth + 1, .object ms => (ofMembers? depth ms []).map .object

def ofItems? : Nat → List Tree → Option (List Value)
  | _, [] => some []
  | depth, t :: ts =>
    match ofTree? depth t, ofItems? depth ts with
    | some v, some vs => some (v :: vs)
    | _, _ => none

/-- Members are put in one after the other, so of equal keys the last one stays. -/
def ofMembers? : Nat → List (List Piece × Tree) → List (String × Value) →
    Option (List (String × Value))
  | _, [], acc => some acc
  | depth, (key, t) :: ms, acc =>
    match Piece.text? key, ofTree? depth t with
    | some k, some v => ofMembers? depth ms (Table.insert k v acc)
    | _, _ => none

end

/-- The most containers that may stand one inside the other. -/
def maxDepth : Nat := 127

/-- The value of a complete text given as bytes. -/
def parse? (bs : Bytes) : Option Value :=
  (Tree.parse? bs).bind (ofTree? maxDepth)

/-- The value of a complete text. -/
def parseText? (s : String) : Option Value :=
  parse? (Utf8.encode s)

/-- The member of an object. -/
def member? (key : String) : Value → Option Value
  | .object ms => Table.get? key ms
  | _ => none

/-- The number `n`. -/
def ofNat (n : Nat) : Value := .number (.int n)

/-- A value that may be absent, `null` standing for its absence. -/
def ofOption {α : Type} (toJson : α → Value) : Option α → Value
  | none => .null
  | some a => toJson a

def string? : Value → Option String
  | .string s => some s
  | _ => none

def array? : Value → Option (List Value)
  | .array vs => some vs
  | _ => none

end Value

end Microversion.Json
