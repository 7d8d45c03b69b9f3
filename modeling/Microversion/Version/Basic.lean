import Microversion.Text.Digits
import Microversion.Text.Split

/-! # Versions

A version is a pair of 32-bit numbers written `major.minor`, ordered by major
number first. `ofText?` reads every version back from its text.
-/

namespace Microversion

/-- A `major.minor` version of the service's interface. -/
structure Version where
  major : UInt32
  minor : UInt32
deriving DecidableEq, Repr, Inhabited

namespace Version

instance : LE Version where
  le a b := a.major < b.major ∨ (a.major = b.major ∧ a.minor ≤ b.minor)

instance : LT Version where
  lt a b := a.major < b.major ∨ (a.major = b.major ∧ a.minor < b.minor)

instance (a b : Version) : Decidable (a ≤ b) :=
  inferInstanceAs (Decidable (a.major < b.major ∨ (a.major = b.major ∧ a.minor ≤ b.minor)))

instance (a b : Version) : Decidable (a < b) :=
  inferInstanceAs (Decidable (a.major < b.major ∨ (a.major = b.major ∧ a.minor < b.minor)))

instance : Max Version where
  max a b := if a ≤ b then b else a

instance : Min Version where
  min a b := if a ≤ b then a else b

/-- The major number in the paths of requests. -/
def majorNumber : UInt32 := 1

/-- Spoken when nothing was asked for and nothing is remembered. -/
def initial : Version := ⟨1, 9⟩

/-- The newest version the client knows. -/
def latestKnown : Version := ⟨majorNumber, 78⟩

/-- A run of ASCII digits whose value fits in 32 bits. -/
def component? (cs : List Char) : Option UInt32 :=
  (Text.valueBelow? UInt32.size cs).map UInt32.ofNat

/-- Two components with a point between them. -/
def ofChars? (cs : List Char) : Option Version :=
  match Text.splitFirst? '.' cs with
  | none => none
  | some (major, minor) =>
    match component? major, component? minor with
    | some major, some minor => some ⟨major, minor⟩
    | _, _ => none

def ofText? (s : String) : Option Version := ofChars? s.toList

def chars (v : Version) : List Char :=
  Text.decimal v.major.toNat ++ '.' :: Text.decimal v.minor.toNat

/-- The components without leading zeros and a point between them. -/
def text (v : Version) : String := String.ofList v.chars

theorem component?_decimal (n : UInt32) : component? (Text.decimal n.toNat) = some n := by
  rw [component?, Text.valueBelow?_decimal n.toNat_lt]
  simp

theorem ofChars?_chars (v : Version) : ofChars? v.chars = some v := by
  have h : '.' ∉ Text.decimal v.major.toNat := fun h =>
    absurd (Text.isDigit_of_mem_decimal h) (by decide)
  simp [ofChars?, chars, Text.splitFirst?_append h, component?_decimal]

@[simp] theorem ofText?_text (v : Version) : ofText? v.text = some v := by
  simp [ofText?, text, ofChars?_chars]

theorem text_injective {v w : Version} (h : v.text = w.text) : v = w := by
  have := congrArg ofText? h
  simpa using this

end Version

end Microversion
