import Microversion.Decimal.Shortest
import Microversion.Json.Value

/-! # JSON text of a value

`compact` writes no blanks; `pretty` writes one member or item per line,
indented by two spaces. Members are written in the order in which they stand.
-/

namespace Microversion.Json

/-- Doubles from `1e-5` up to `1e16` are written without an exponent. -/
def numberLayout : Decimal.Layout := ⟨-4, 16⟩

def Number.text : Number → List Char
  | .int n => if n < 0 then '-' :: Text.decimal n.natAbs else Text.decimal n.natAbs
  | .double x => x.text numberLayout

/-- The lower-case hexadecimal digit of a number below sixteen. -/
def hexDigit (n : Nat) : Char := Nat.digitChar n

/-- A character between quotes: quote, backslash and control characters are escaped. -/
def escapeChar (c : Char) : List Char :=
  if c = '"' then ['\\', '"']
  else if c = '\\' then ['\\', '\\']
  else if c = '\x08' then ['\\', 'b']
  else if c = '\t' then ['\\', 't']
  else if c = '\n' then ['\\', 'n']
  else if c = '\x0c' then ['\\', 'f']
  else if c = '\r' then ['\\', 'r']
  else if c.toNat < 0x20 then
    ['\\', 'u', '0', '0', hexDigit (c.toNat / 16), hexDigit (c.toNat % 16)]
  else [c]

/-- A text between quotes. -/
def quoted (s : String) : List Char :=
  '"' :: s.toList.flatMap escapeChar ++ ['"']

namespace Value

mutual

def compactChars : Value → List Char
  | .null => "null".toList
  | .bool true => "true".toList
  | .bool false => "false".toList
  | .number n => n.text
  | .string s => quoted s
  | .array [] => ['[', ']']
  | .array (v :: vs) => '[' :: compactChars v ++ compactItems vs
  | .object [] => ['{', '}']
  | .object ((k, v) :: ms) => '{' :: quoted k ++ ':' :: compactChars v ++ compactMembers ms

def compactItems : List Value → List Char
  | [] => [']']
  | v :: vs => ',' :: compactChars v ++ compactItems vs

def compactMembers : List (String × Value) → List Char
  | [] => ['}']
  | (k, v) :: ms => ',' :: quoted k ++ ':' :: compactChars v ++ compactMembers ms

end

/-- A new line with its indentation. -/
def newline (indent : Nat) : List Char := '\n' :: List.replicate (2 * indent) ' '

mutual

def prettyChars : Nat → Value → List Char
  | _, .null => "null".toList
  | _, .bool true => "true".toList
  | _, .bool false => "false".toList
  | _, .number n => n.text
  | _, .string s => quoted s
  | _, .array [] => ['[', ']']
  | indent, .array (v :: vs) =>
    '[' :: newline (indent + 1) ++ prettyChars (indent + 1) v ++ prettyItems indent vs
  | _, .object [] => ['{', '}']
  | indent, .object ((k, v) :: ms) =>
    '{' :: newline (indent + 1) ++ quoted k ++ ':' :: ' ' :: prettyChars (indent + 1) v ++
      prettyMembers indent ms

def prettyItems : Nat → List Value → List Char
  | indent, [] => newline indent ++ [']']
  | indent, v :: vs =>
    ',' :: newline (indent + 1) ++ prettyChars (indent + 1) v ++ prettyItems indent vs

def prettyMembers : Nat → List (String × Value) → List Char
  | indent, [] => newline indent ++ ['}']
  | indent, (k, v) :: ms =>
    ',' :: newline (indent + 1) ++ quoted k ++ ':' :: ' ' :: prettyChars (indent + 1) v ++
      prettyMembers indent ms

end

/-- The text without blanks. -/
def compact (v : Value) : String := String.ofList v.compactChars

/-- The text with one member or item per line. -/
def pretty (v : Value) : String := String.ofList (prettyChars 0 v)

end Value

end Microversion.Json
