import Microversion.Domain.Label
import Microversion.Text.Split
import Microversion.Url.ParseError
import Microversion.Url.Percent

/-! # Hosts

The host of a special scheme is a domain, an IPv4 address in any of its numeric
spellings, or an IPv6 address in brackets. A domain is kept in its ASCII form, so
that one beyond ASCII is the same as its Punycode. Other schemes keep their host
as it is written.
-/

namespace Microversion.Url

inductive Host where
  | domain (name : List Char)
  | ipv4 (address : Nat)
  | ipv6 (pieces : List Nat)
deriving DecidableEq, Repr

/-! ## IPv4 addresses -/

/-- The digits of a part and their base: `0x` starts hexadecimal, `0` octal. -/
def ipv4Base : List Char → Nat × List Char
  | '0' :: 'x' :: cs => (16, cs)
  | '0' :: 'X' :: cs => (16, cs)
  | '0' :: c :: cs => (8, c :: cs)
  | cs => (10, cs)

/-- The value of the digits in a base. -/
def valueIn? (base : Nat) : Nat → List Char → Option Nat
  | acc, [] => some acc
  | acc, c :: cs =>
    match Text.hexValue? c with
    | some d => if d < base then valueIn? base (base * acc + d) cs else none
    | none => none

/-- The number written by a part of an address. -/
def ipv4Part? (cs : List Char) : Option Nat :=
  if cs.isEmpty then none
  else
    let (base, digits) := ipv4Base cs
    valueIn? base 0 digits

/-- The parts between points, without an empty one at the end. -/
def ipv4Parts (cs : List Char) : List (List Char) :=
  let parts := Text.splitAll '.' cs
  if 1 < parts.length ∧ parts.getLast? = some [] then parts.dropLast else parts

/-- The last part is a number, so that the host can only be an IPv4 address. -/
def endsInNumber (cs : List Char) : Bool :=
  match (ipv4Parts cs).getLast? with
  | none => false
  | some part => (!part.isEmpty && part.all Char.isDigit) || (ipv4Part? part).isSome

/-- The first numbers are one byte each and the last one fills the bytes left. -/
def ipv4Address? (numbers : List Nat) : Option Nat :=
  match numbers.getLast? with
  | none => none
  | some last =>
    let bytes := numbers.dropLast
    if 4 < numbers.length ∨ bytes.any (255 < ·) ∨ Nat.pow 256 (4 - bytes.length) ≤ last then none
    else some (bytes.foldl (fun acc b => acc * 256 + b) 0 * Nat.pow 256 (4 - bytes.length) + last)

def ipv4? (cs : List Char) : Option Nat :=
  ((ipv4Parts cs).mapM ipv4Part?).bind ipv4Address?

def ipv4Chars (address : Nat) : List Char :=
  Text.joinWith ['.'] <|
    [address / 0x1000000, address / 0x10000 % 256, address / 256 % 256, address % 256].map
      Text.decimal

/-! ## IPv6 addresses -/

/-- One to four hexadecimal digits. -/
def ipv6Group? (cs : List Char) : Option Nat :=
  if cs.isEmpty ∨ 4 < cs.length then none else valueIn? 16 0 cs

/-- A decimal number up to 255 without leading zeros. -/
def byte? (cs : List Char) : Option Nat :=
  if cs.length ≠ 1 ∧ cs.head? = some '0' then none else Text.valueBelow? 256 cs

/-- The two groups written as four decimal bytes. -/
def ipv4Tail? (cs : List Char) : Option (List Nat) :=
  match (Text.splitAll '.' cs).mapM byte? with
  | some [a, b, c, d] => some [a * 256 + b, c * 256 + d]
  | _ => none

/-- The groups of one side of the gap; only the last may be four decimal bytes. -/
def ipv6Groups? : List (List Char) → Option (List Nat)
  | [] => some []
  | [g] =>
    match ipv6Group? g with
    | some n => some [n]
    | none => ipv4Tail? g
  | g :: gs =>
    match ipv6Group? g, ipv6Groups? gs with
    | some n, some ns => some (n :: ns)
    | _, _ => none

/-- Drop the empty group that a gap at the end of the address adds; a single colon is refused. -/
def trimGap : List (List Char) → Option (List (List Char))
  | [] :: [] :: gs => some ([] :: gs)
  | [] :: _ => none
  | gs => some gs

/-- The eight pieces of an address. -/
def ipv6? (cs : List Char) : Option (List Nat) :=
  if cs.length < 2 then none
  else
    match (trimGap (Text.splitAll ':' cs)).bind fun gs => (trimGap gs.reverse).map List.reverse with
    | none => none
    | some groups =>
      let before := groups.takeWhile (!·.isEmpty)
      match groups.drop before.length with
      | [] =>
        match ipv6Groups? before with
        | some ns => if ns.length = 8 then some ns else none
        | none => none
      | _ :: after =>
        match before.mapM ipv6Group?, ipv6Groups? after with
        | some ns, some ms =>
          if ns.length + ms.length < 8 then
            some (ns ++ List.replicate (8 - ns.length - ms.length) 0 ++ ms)
          else none
        | _, _ => none

/-- The number of zeros at the start of the list. -/
def zeroRun (ns : List Nat) : Nat := (ns.takeWhile (· == 0)).length

/-- The start and length of the first longest run of zeros. -/
def longestRun : Nat → List Nat → Nat × Nat
  | _, [] => (0, 0)
  | i, n :: ns =>
    let here := zeroRun (n :: ns)
    let (start, length) := longestRun (i + 1) ns
    if length ≤ here then (i, here) else (start, length)

def ipv6Chars (pieces : List Nat) : List Char :=
  let groups (ns : List Nat) := Text.joinWith [':'] (ns.map (Nat.toDigits 16))
  let (start, length) := longestRun 0 pieces
  if length < 2 then groups pieces
  else groups (pieces.take start) ++ ':' :: ':' :: groups (pieces.drop (start + length))

/-! ## Reading and writing hosts -/

/-- ASCII characters that no domain may hold. -/
def isForbidden (c : Char) : Bool :=
  isControl c || c == ' ' || c == '#' || c == '%' || c == '/' || c == ':' || c == '<' ||
    c == '>' || c == '?' || c == '@' || c == '[' || c == '\\' || c == ']' || c == '^' || c == '|'

/-- ASCII characters that the host of a scheme that is not special may not hold. -/
def isForbiddenPlain (c : Char) : Bool :=
  c == '\x00' || c == '\t' || c == '\n' || c == '\r' || c == ' ' || c == '#' || c == '/' ||
    c == ':' || c == '<' || c == '>' || c == '?' || c == '@' || c == '[' || c == '\\' ||
    c == ']' || c == '^' || c == '|'

/-- What stands between brackets, `none` without an opening bracket. -/
def bracketed? (cs : List Char) : Option (Except ParseError Host) :=
  match cs with
  | '[' :: cs =>
    some <|
      match cs.getLast? with
      | some ']' =>
        match ipv6? cs.dropLast with
        | some pieces => .ok (.ipv6 pieces)
        | none => .error .invalidIpv6
      | _ => .error .invalidIpv6
  | _ => none

/-- What percent-encoded text stands for, `none` if that is no text. -/
def decoded? (cs : List Char) : Option (List Char) :=
  let bytes := decodePercent cs
  if bytes.all (· < 0x80) then some (bytes.map fun b => Char.ofNat b.toNat)
  else (Utf8.decode? bytes).map String.toList

/-- The ASCII form of the domain written by percent-encoded text. -/
def domain? (cs : List Char) : Option (List Char) :=
  (decoded? cs).bind (Domain.asciiForm? isForbidden)

/-- The host of a special scheme. -/
def Host.parse (cs : List Char) : Except ParseError Host :=
  match bracketed? cs with
  | some host => host
  | none =>
    match domain? cs with
    | none => .error .invalidDomainName
    | some [] => .error .emptyHost
    | some name =>
      if endsInNumber name then
        match ipv4? name with
        | some address => .ok (.ipv4 address)
        | none => .error .invalidIpv4
      else .ok (.domain name)

/-- The host of any other scheme. -/
def Host.parsePlain (cs : List Char) : Except ParseError Host :=
  match bracketed? cs with
  | some host => host
  | none =>
    if cs.any isForbiddenPlain then .error .invalidDomainCharacter
    else .ok (.domain (encode isControl cs))

def Host.chars : Host → List Char
  | .domain name => name
  | .ipv4 address => ipv4Chars address
  | .ipv6 pieces => '[' :: ipv6Chars pieces ++ [']']

/-- The host was left empty. -/
def Host.isEmpty : Host → Bool
  | .domain [] => true
  | _ => false

end Microversion.Url
