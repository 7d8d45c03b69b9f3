import Microversion.Text.Digits
import Microversion.Text.Utf8

/-! # Percent encoding

Each part of a URL has its own set of ASCII characters that are written as
percent sequences; characters beyond ASCII always are.
-/

namespace Microversion.Url

/-- Control characters of ASCII. -/
def isControl (c : Char) : Bool := c.toNat < 0x20 || c.toNat == 0x7F

def inFragmentSet (c : Char) : Bool :=
  isControl c || c == ' ' || c == '"' || c == '<' || c == '>' || c == '`'

def inQuerySet (c : Char) : Bool :=
  isControl c || c == ' ' || c == '"' || c == '#' || c == '<' || c == '>'

/-- The query of a special scheme encodes the apostrophe too. -/
def inSpecialQuerySet (c : Char) : Bool := inQuerySet c || c == '\''

def inPathSet (c : Char) : Bool :=
  inFragmentSet c || c == '#' || c == '?' || c == '{' || c == '}'

def inUserinfoSet (c : Char) : Bool :=
  inPathSet c || c == '/' || c == ':' || c == ';' || c == '=' || c == '@' || c == '[' ||
    c == '\\' || c == ']' || c == '^' || c == '|'

/-- The upper-case hexadecimal digit of a number below sixteen. -/
def upperHex (n : Nat) : Char :=
  if n < 10 then Char.ofNat ('0'.toNat + n) else Char.ofNat ('A'.toNat + (n - 10))

def percentByte (b : UInt8) : List Char :=
  ['%', upperHex (b.toNat / 16), upperHex (b.toNat % 16)]

/-- A character as it stands in a part whose encode set is `set`. -/
def encodeChar (set : Char → Bool) (c : Char) : List Char :=
  if set c || 0x80 ≤ c.toNat then (String.utf8EncodeChar c).flatMap percentByte else [c]

def encode (set : Char → Bool) (cs : List Char) : List Char :=
  cs.flatMap (encodeChar set)

/-- The bytes of a text with its percent sequences replaced by the bytes they stand for. -/
def decodePercent : List Char → Bytes
  | [] => []
  | '%' :: a :: b :: cs =>
    match Text.hexValue? a, Text.hexValue? b with
    | some x, some y => UInt8.ofNat (16 * x + y) :: decodePercent cs
    | _, _ => 0x25 :: decodePercent (a :: b :: cs)
  | c :: cs => String.utf8EncodeChar c ++ decodePercent cs

theorem encodeChar_of_safe {set : Char → Bool} {c : Char} (h : set c = false)
    (hc : c.toNat < 0x80) : encodeChar set c = [c] := by
  simp [encodeChar, h, Nat.not_le.2 hc]

theorem encode_of_safe {set : Char → Bool} {cs : List Char}
    (h : ∀ c ∈ cs, set c = false ∧ c.toNat < 0x80) : encode set cs = cs := by
  induction cs with
  | nil => rfl
  | cons c cs ih =>
    have hc := h c (by simp)
    have ht := ih fun d hd => h d (by simp [hd])
    simp only [encode, List.flatMap_cons] at ht ⊢
    rw [ht, encodeChar_of_safe hc.1 hc.2]
    rfl

end Microversion.Url
