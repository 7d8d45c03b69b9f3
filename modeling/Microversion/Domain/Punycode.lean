import Microversion.Text.Split

/-! # Punycode

A text beyond ASCII written with letters, digits and hyphens: its ASCII
characters, a hyphen, and then one number per other character, which says how
far the next insertion lies from the last one. Numbers are written lowest digit
first in base 36, each digit weighed by the ones before it.
-/

namespace Microversion.Domain.Punycode

/-- Letters count from 0 to 25, digits from 26 to 35. -/
def digit? (c : Char) : Option Nat :=
  if c.isDigit then some (c.toNat - '0'.toNat + 26)
  else if c.isAlpha then some (c.toLower.toNat - 'a'.toNat)
  else none

/-- The smallest digit that does not end a number at the given place. -/
def threshold (bias place : Nat) : Nat :=
  if place ≤ bias then 1 else if bias + 26 ≤ place then 26 else place - bias

/-- The number that starts the text, added to `sum`, and the text after it. Numbers and weights
that do not fit 32 bits are refused. -/
def readNumber? (bias : Nat) : Nat → Nat → Nat → List Char → Option (Nat × List Char)
  | _, _, _, [] => none
  | place, weight, sum, c :: cs =>
    match digit? c with
    | none => none
    | some d =>
      let next := weight * (36 - threshold bias place)
      if UInt32.size ≤ sum + d * weight then none
      else if d < threshold bias place then some (sum + d * weight, cs)
      else if UInt32.size ≤ next then none
      else readNumber? bias (place + 36) next (sum + d * weight) cs

theorem length_lt_of_readNumber? {bias place weight sum n : Nat} {cs rest : List Char}
    (h : readNumber? bias place weight sum cs = some (n, rest)) : rest.length < cs.length := by
  induction cs generalizing place weight sum with
  | nil => simp [readNumber?] at h
  | cons c cs ih =>
    simp only [readNumber?] at h
    split at h
    · simp at h
    · split at h
      · simp at h
      · split at h
        · simp only [Option.some.injEq, Prod.mk.injEq] at h
          simp [← h.2]
        · split at h
          · simp at h
          · exact Nat.lt_succ_of_lt (ih h)

/-- The part of a bias that comes from dividing a large number down. -/
def settle (delta places : Nat) : Nat :=
  if delta ≤ 455 then places + 36 * delta / (delta + 38) else settle (delta / 35) (places + 36)
termination_by delta

/-- The bias after the number `delta`, when the text has `size` characters. -/
def adapt (delta size : Nat) (first : Bool) : Nat :=
  let delta := if first then delta / 700 else delta / 2
  settle (delta + delta / size) 0

/-- Insert a character for each number of the text. -/
def insertAll? (bias code index : Nat) (text cs : List Char) : Option (List Char) :=
  match cs with
  | [] => some text
  | c :: cs =>
    match _h : readNumber? bias 36 1 index (c :: cs) with
    | none => none
    | some (sum, rest) =>
      let size := text.length + 1
      let code := code + sum / size
      if code.isValidChar then
        insertAll? (adapt (sum - index) size (index == 0)) code (sum % size + 1)
          (text.insertIdx (sum % size) (Char.ofNat code)) rest
      else none
termination_by cs.length
decreasing_by exact length_lt_of_readNumber? _h

/-- The text that is written. -/
def decode? (cs : List Char) : Option (List Char) :=
  match Text.splitLast? '-' cs with
  | some (c :: ascii, numbers) => insertAll? 72 0x80 0 (c :: ascii) numbers
  | _ => insertAll? 72 0x80 0 [] cs

/-! ## Writing -/

/-- The character of a digit. -/
def digitChar (d : Nat) : Char :=
  if d < 26 then Char.ofNat ('a'.toNat + d) else Char.ofNat ('0'.toNat + (d - 26))

theorem one_le_threshold (bias place : Nat) : 1 ≤ threshold bias place := by
  unfold threshold
  repeat' split
  all_goals omega

theorem threshold_le (bias place : Nat) : threshold bias place ≤ 26 := by
  unfold threshold
  repeat' split
  all_goals omega

/-- The digits of a number, from the given place on. -/
def writeNumber (bias place n : Nat) : List Char :=
  let t := threshold bias place
  if n < t then [digitChar n]
  else digitChar (t + (n - t) % (36 - t)) :: writeNumber bias (place + 36) ((n - t) / (36 - t))
termination_by n
decreasing_by
  have hone := one_le_threshold bias place
  exact Nat.lt_of_le_of_lt (Nat.div_le_self _ _) (by omega)

/-- The numbers one after the other; `size` characters stand before the first is inserted. -/
def writeAll (bias size : Nat) (first : Bool) : List Nat → List Char
  | [] => []
  | n :: ns =>
    writeNumber bias 36 n ++ writeAll (adapt n (size + 1) first) (size + 1) false ns

/-- The numbers of the characters of one code, and how far the text goes on after the last one.
The first lies `gap` characters further than the text goes on before it. -/
def gapsOf (code gap : Nat) : List Char → List Nat × Nat
  | [] => ([], gap)
  | c :: cs =>
    if c.toNat < code then gapsOf code (gap + 1) cs
    else if c.toNat = code then
      let (gaps, rest) := gapsOf code 0 cs
      (gap :: gaps, rest)
    else gapsOf code gap cs

/-- The numbers of the characters of all codes, which are in ascending order from `code` on. -/
def gaps (text : List Char) (code size gap : Nat) : List Nat → List Nat
  | [] => []
  | next :: codes =>
    let (here, rest) := gapsOf next (gap + (next - code) * (size + 1)) text
    here ++ gaps text (next + 1) (size + here.length) (rest + 1) codes

/-- The text written in Punycode. -/
def encode (text : List Char) : List Char :=
  let ascii := text.filter (·.toNat < 0x80)
  let codes := ((text.filter (0x80 ≤ ·.toNat)).map Char.toNat).mergeSort.eraseDups
  let mark := if ascii.isEmpty then [] else ['-']
  ascii ++ mark ++ writeAll 72 ascii.length true (gaps text 0x80 ascii.length 0 codes)

end Microversion.Domain.Punycode
