import Microversion.Text.Utf8

/-! # JSON grammar

`Tree.parse?` reads bytes by the grammar alone. What a string or a number
means is left open: a tree may hold numbers too large for a double, lone
surrogates and bytes that are not UTF-8.
-/

namespace Microversion.Json

/-- An element of a string between its quotes: a byte, or the sixteen bits of a `\u` escape. -/
inductive Piece where
  | byte (b : UInt8)
  | unit (u : Nat)
deriving DecidableEq, Repr

/-- A number as it is written. -/
structure Literal where
  negative : Bool
  whole : List Char
  fraction : List Char
  power : Option (Bool × List Char)
deriving DecidableEq, Repr

/-- A JSON text as it is written, without the blanks between its tokens. -/
inductive Tree where
  | null
  | bool (b : Bool)
  | number (n : Literal)
  | string (pieces : List Piece)
  | array (items : List Tree)
  | object (members : List (List Piece × Tree))

/-- Space, tab, line feed and carriage return may stand between tokens. -/
def isSpace (b : UInt8) : Bool :=
  b == 0x20 || b == 0x09 || b == 0x0A || b == 0x0D

def skipSpace (bs : Bytes) : Bytes := bs.dropWhile isSpace

def isDigitByte (b : UInt8) : Bool := 0x30 ≤ b && b ≤ 0x39

def toAscii (bs : Bytes) : List Char := bs.map fun b => Char.ofNat b.toNat

/-- The value of a hexadecimal digit of either case. -/
def hexByte? (b : UInt8) : Option Nat :=
  if 0x30 ≤ b ∧ b ≤ 0x39 then some (b.toNat - 0x30)
  else if 0x61 ≤ b ∧ b ≤ 0x66 then some (b.toNat - 0x61 + 10)
  else if 0x41 ≤ b ∧ b ≤ 0x46 then some (b.toNat - 0x41 + 10)
  else none

/-- The sixteen bits written by four hexadecimal digits. -/
def hexUnit? (a b c d : UInt8) : Option Nat :=
  match hexByte? a, hexByte? b, hexByte? c, hexByte? d with
  | some a, some b, some c, some d => some (((a * 16 + b) * 16 + c) * 16 + d)
  | _, _, _, _ => none

/-- The byte meant by the letter after a backslash. -/
def escaped? (b : UInt8) : Option UInt8 :=
  if b = 0x22 ∨ b = 0x5C ∨ b = 0x2F then some b
  else if b = 0x62 then some 0x08
  else if b = 0x66 then some 0x0C
  else if b = 0x6E then some 0x0A
  else if b = 0x72 then some 0x0D
  else if b = 0x74 then some 0x09
  else none

/-- The rest of a string after its opening quote, and what follows its closing quote. -/
def pieces? : Bytes → Option (List Piece × Bytes)
  | [] => none
  | 0x22 :: rest => some ([], rest)
  | 0x5C :: 0x75 :: a :: b :: c :: d :: rest =>
    match hexUnit? a b c d with
    | some u => (pieces? rest).map fun (ps, after) => (.unit u :: ps, after)
    | none => none
  | 0x5C :: e :: rest =>
    match escaped? e with
    | some b => (pieces? rest).map fun (ps, after) => (.byte b :: ps, after)
    | none => none
  | b :: rest =>
    if b < 0x20 ∨ b = 0x5C then none
    else (pieces? rest).map fun (ps, after) => (.byte b :: ps, after)

/-- The whole part of a number: a zero, or digits that do not start with zero. -/
def whole? : Bytes → Option (List Char × Bytes)
  | 0x30 :: rest => some (['0'], rest)
  | bs =>
    match bs.takeWhile isDigitByte with
    | [] => none
    | ds => some (toAscii ds, bs.dropWhile isDigitByte)

/-- The digits after a point, none when there is no point. -/
def fraction? : Bytes → Option (List Char × Bytes)
  | 0x2E :: rest =>
    match rest.takeWhile isDigitByte with
    | [] => none
    | ds => some (toAscii ds, rest.dropWhile isDigitByte)
  | bs => some ([], bs)

/-- The sign of a power of ten; `true` stands for minus. -/
def powerSign : Bytes → Bool × Bytes
  | 0x2B :: rest => (false, rest)
  | 0x2D :: rest => (true, rest)
  | bs => (false, bs)

/-- The power of ten after a number. -/
def power? : Bytes → Option (Option (Bool × List Char) × Bytes)
  | [] => some (none, [])
  | b :: rest =>
    if b = 0x65 ∨ b = 0x45 then
      let (negative, rest) := powerSign rest
      match rest.takeWhile isDigitByte with
      | [] => none
      | ds => some (some (negative, toAscii ds), rest.dropWhile isDigitByte)
    else some (none, b :: rest)

/-- A number and what follows it. -/
def literal? (bs : Bytes) : Option (Literal × Bytes) :=
  let (negative, bs) := match bs with
    | 0x2D :: rest => (true, rest)
    | bs => (false, bs)
  match whole? bs with
  | none => none
  | some (whole, bs) =>
    match fraction? bs with
    | none => none
    | some (fraction, bs) =>
      match power? bs with
      | none => none
      | some (power, bs) => some (⟨negative, whole, fraction, power⟩, bs)

namespace Tree

mutual

/-- A value and what follows it. -/
def value? : Nat → Bytes → Option (Tree × Bytes)
  | 0, _ => none
  | fuel + 1, bs =>
    match skipSpace bs with
    | 0x6E :: 0x75 :: 0x6C :: 0x6C :: rest => some (.null, rest)
    | 0x74 :: 0x72 :: 0x75 :: 0x65 :: rest => some (.bool true, rest)
    | 0x66 :: 0x61 :: 0x6C :: 0x73 :: 0x65 :: rest => some (.bool false, rest)
    | 0x22 :: rest => (pieces? rest).map fun (ps, after) => (.string ps, after)
    | 0x5B :: rest =>
      match skipSpace rest with
      | 0x5D :: after => some (.array [], after)
      | rest => (items? fuel rest).map fun (ts, after) => (.array ts, after)
    | 0x7B :: rest =>
      match skipSpace rest with
      | 0x7D :: after => some (.object [], after)
      | rest => (members? fuel rest).map fun (ms, after) => (.object ms, after)
    | bs => (literal? bs).map fun (n, after) => (.number n, after)

/-- The items of an array up to its closing bracket. -/
def items? : Nat → Bytes → Option (List Tree × Bytes)
  | 0, _ => none
  | fuel + 1, bs =>
    match value? fuel bs with
    | none => none
    | some (t, rest) =>
      match skipSpace rest with
      | 0x2C :: rest => (items? fuel rest).map fun (ts, after) => (t :: ts, after)
      | 0x5D :: after => some ([t], after)
      | _ => none

/-- The members of an object up to its closing brace. -/
def members? : Nat → Bytes → Option (List (List Piece × Tree) × Bytes)
  | 0, _ => none
  | fuel + 1, bs =>
    match skipSpace bs with
    | 0x22 :: rest =>
      match pieces? rest with
      | none => none
      | some (key, rest) =>
        match skipSpace rest with
        | 0x3A :: rest =>
          match value? fuel rest with
          | none => none
          | some (t, rest) =>
            match skipSpace rest with
            | 0x2C :: rest => (members? fuel rest).map fun (ms, after) => ((key, t) :: ms, after)
            | 0x7D :: after => some ([(key, t)], after)
            | _ => none
        | _ => none
    | _ => none

end

/-- The tree of a complete text. -/
def parse? (bs : Bytes) : Option Tree :=
  match value? (2 * bs.length + 2) bs with
  | some (t, rest) => if (skipSpace rest).isEmpty then some t else none
  | none => none

end Tree

end Microversion.Json
