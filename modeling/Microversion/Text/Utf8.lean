/-! # Bytes and their UTF-8 text

`decode?` accepts exactly the bytes that `encode` writes. `decodeLossy` puts
U+FFFD in the place of every maximal subpart that is not well formed.
-/

namespace Microversion

/-- A sequence of bytes. -/
abbrev Bytes := List UInt8

namespace Utf8

/-- The UTF-8 bytes of a text. -/
def encode (s : String) : Bytes :=
  s.toByteArray.data.toList

/-- The text of which the bytes are the UTF-8 form. -/
def decode? (bs : Bytes) : Option String :=
  String.fromUTF8? ⟨bs.toArray⟩

/-- The range of the second byte after a lead byte, and how many bytes follow the lead byte. -/
def followers? (lead : Nat) : Option (Nat × Nat × Nat) :=
  if 0xC2 ≤ lead ∧ lead ≤ 0xDF then some (0x80, 0xBF, 1)
  else if lead = 0xE0 then some (0xA0, 0xBF, 2)
  else if lead = 0xED then some (0x80, 0x9F, 2)
  else if 0xE1 ≤ lead ∧ lead ≤ 0xEF then some (0x80, 0xBF, 2)
  else if lead = 0xF0 then some (0x90, 0xBF, 3)
  else if 0xF1 ≤ lead ∧ lead ≤ 0xF3 then some (0x80, 0xBF, 3)
  else if lead = 0xF4 then some (0x80, 0x8F, 3)
  else none

/-- The longest run of at most `count` continuation bytes whose first one lies in `lo..hi`. -/
def continuation (lo hi : Nat) : Nat → Bytes → Bytes
  | 0, _ => []
  | _ + 1, [] => []
  | count + 1, b :: bs =>
    if lo ≤ b.toNat ∧ b.toNat ≤ hi then b :: continuation 0x80 0xBF count bs else []

/-- The first character of the bytes, `none` for a malformed one, and how many bytes it takes. -/
def first (lead : UInt8) (rest : Bytes) : Option Char × Nat :=
  if lead.toNat < 0x80 then (some (Char.ofNat lead.toNat), 1)
  else
    match followers? lead.toNat with
    | none => (none, 1)
    | some (lo, hi, count) =>
      let tail := continuation lo hi count rest
      if tail.length = count then
        let lead := lead.toNat % Nat.pow 2 (6 - count)
        (some (Char.ofNat (tail.foldl (fun n b => n * 64 + b.toNat % 64) lead)), count + 1)
      else (none, tail.length + 1)

theorem first_pos (lead : UInt8) (rest : Bytes) : 0 < (first lead rest).2 := by
  unfold first
  split
  · simp
  · split
    · simp
    · dsimp only
      split <;> simp

/-- The characters of the bytes, U+FFFD standing for each malformed part. -/
def scan : Bytes → List Char
  | [] => []
  | lead :: rest =>
    let step := first lead rest
    step.1.getD '\uFFFD' :: scan ((lead :: rest).drop step.2)
  termination_by bs => bs.length
  decreasing_by
    have := first_pos lead rest
    simp only [List.length_drop, List.length_cons]
    omega

/-- The text of the bytes, U+FFFD standing for each malformed part. -/
def decodeLossy (bs : Bytes) : String :=
  match decode? bs with
  | some s => s
  | none => String.ofList (scan bs)

@[simp] theorem decode?_encode (s : String) : decode? (encode s) = some s := by
  have h : (⟨(encode s).toArray⟩ : ByteArray) = s.toByteArray := by
    simp [encode]
  rw [decode?, h, String.fromUTF8?]
  rw [dif_pos (by simpa using s.isValidUTF8)]
  rfl

theorem encode_inj {s t : String} : encode s = encode t ↔ s = t := by
  constructor
  · intro h
    have htext := congrArg decode? h
    rwa [decode?_encode, decode?_encode, Option.some.injEq] at htext
  · rintro rfl
    rfl

theorem decodeLossy_of_decode {bs : Bytes} {s : String} (h : decode? bs = some s) :
    decodeLossy bs = s := by
  simp [decodeLossy, h]

end Utf8

end Microversion
