import Microversion.Text.Utf8

/-! # Header fields

Names are kept in lower case and a name may stand several times. `get?` sees
the first value; `insert` puts one value in the place of all.
-/

namespace Microversion.Http

/-- A character of a token, of which header names and methods consist. -/
def isTokenChar (c : Char) : Bool :=
  c.isAlphanum || "!#$%&'*+-.^_`|~".toList.contains c

/-- The lower-case form of a header name, `none` for a text that is no name. -/
def headerName? (s : String) : Option String :=
  let cs := s.toList
  if cs ≠ [] ∧ cs.length < UInt16.size ∧ cs.all isTokenChar then
    some (String.ofList (cs.map Char.toLower))
  else none

/-- The bytes of a field, and whether they are kept out of logs. -/
structure HeaderValue where
  bytes : Bytes
  sensitive : Bool
deriving DecidableEq, Repr

namespace HeaderValue

/-- A byte that a value may hold: a tab, or any byte that is no control character. -/
def isAllowed (b : UInt8) : Bool := b == 9 || (32 ≤ b && b != 127)

/-- A byte that a value read as text may hold. -/
def isText (b : UInt8) : Bool := b == 9 || (32 ≤ b && b < 127)

/-- The value with the given bytes. -/
def ofBytes? (bs : Bytes) : Option HeaderValue :=
  if bs.all isAllowed then some ⟨bs, false⟩ else none

/-- The value with the UTF-8 bytes of a text. -/
def ofText? (s : String) : Option HeaderValue := ofBytes? (Utf8.encode s)

/-- The value as text, absent when it holds bytes beyond ASCII. -/
def text? (v : HeaderValue) : Option String :=
  if v.bytes.all isText then Utf8.decode? v.bytes else none

end HeaderValue

/-- Header fields in the order in which they were added. -/
structure Headers where
  entries : List (String × HeaderValue)
deriving DecidableEq, Repr

namespace Headers

def empty : Headers := ⟨[]⟩

/-- The values of a name, in their order. -/
def values (hs : Headers) (name : String) : List HeaderValue :=
  (hs.entries.filter (·.1 == name)).map (·.2)

/-- The first value of a name. -/
def get? (hs : Headers) (name : String) : Option HeaderValue :=
  (hs.values name).head?

def contains (hs : Headers) (name : String) : Bool := (hs.get? name).isSome

/-- Add a value after those that a name has. -/
def append (hs : Headers) (name : String) (v : HeaderValue) : Headers :=
  ⟨hs.entries ++ [(name, v)]⟩

/-- Remove every value of a name. -/
def erase (hs : Headers) (name : String) : Headers :=
  ⟨hs.entries.filter (·.1 != name)⟩

/-- Give a name one value in the place of all it has. -/
def insert (hs : Headers) (name : String) (v : HeaderValue) : Headers :=
  (hs.erase name).append name v

/-- Give a name a value unless it has one. -/
def orInsert (hs : Headers) (name : String) (v : HeaderValue) : Headers :=
  if hs.contains name then hs else hs.append name v

@[simp] theorem values_empty (name : String) : empty.values name = [] := rfl

@[simp] theorem values_append_self (hs : Headers) (name : String) (v : HeaderValue) :
    (hs.append name v).values name = hs.values name ++ [v] := by
  simp [append, values]

theorem values_append_of_ne (hs : Headers) {name other : String} (v : HeaderValue)
    (h : other ≠ name) : (hs.append name v).values other = hs.values other := by
  simp [append, values, Ne.symm h]

@[simp] theorem values_erase_self (hs : Headers) (name : String) :
    (hs.erase name).values name = [] := by
  simp [erase, values, List.filter_filter]

theorem values_erase_of_ne (hs : Headers) {name other : String} (h : other ≠ name) :
    (hs.erase name).values other = hs.values other := by
  simp only [erase, values, List.filter_filter]
  congr 1
  refine List.filter_congr fun e _ => ?_
  by_cases he : e.1 = other
  · simp [he, h]
  · simp [he]

@[simp] theorem values_insert_self (hs : Headers) (name : String) (v : HeaderValue) :
    (hs.insert name v).values name = [v] := by
  simp [insert]

theorem values_insert_of_ne (hs : Headers) {name other : String} (v : HeaderValue)
    (h : other ≠ name) : (hs.insert name v).values other = hs.values other := by
  rw [insert, values_append_of_ne _ _ h, values_erase_of_ne _ h]

theorem contains_iff {hs : Headers} {name : String} :
    hs.contains name = true ↔ hs.values name ≠ [] := by
  simp only [contains, get?]
  cases hs.values name <;> simp

theorem values_orInsert_of_ne (hs : Headers) {name other : String} (v : HeaderValue)
    (h : other ≠ name) : (hs.orInsert name v).values other = hs.values other := by
  unfold orInsert
  split
  · rfl
  · exact values_append_of_ne _ _ h

theorem values_orInsert_of_contains {hs : Headers} {name : String} (v : HeaderValue)
    (h : hs.contains name = true) : hs.orInsert name v = hs := by
  simp [orInsert, h]

theorem values_of_not_contains {hs : Headers} {name : String} (h : hs.contains name = false) :
    hs.values name = [] := by
  cases hv : hs.values name with
  | nil => rfl
  | cons w ws => exact absurd (contains_iff.2 (by simp [hv])) (Bool.eq_false_iff.1 h)

theorem values_orInsert_self {hs : Headers} {name : String} {v : HeaderValue}
    (h : hs.contains name = false) : (hs.orInsert name v).values name = [v] := by
  simp [orInsert, h, values_of_not_contains h]

end Headers

end Microversion.Http
