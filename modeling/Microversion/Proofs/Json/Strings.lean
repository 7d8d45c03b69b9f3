import Mathlib.Tactic.SplitIfs
import Microversion.Json.Printer

/-! # Reading strings back

A text between quotes is read back piece by piece, and its pieces have the
meaning of the text: characters that were escaped, control characters written by
their numbers, and all others by their bytes.
-/

namespace Microversion

/-- The bytes of some characters. -/
def Utf8.bytesOf (cs : List Char) : Bytes := cs.flatMap String.utf8EncodeChar

namespace Utf8

@[simp] theorem bytesOf_nil : bytesOf [] = [] := rfl

@[simp] theorem bytesOf_cons (c : Char) (cs : List Char) :
    bytesOf (c :: cs) = String.utf8EncodeChar c ++ bytesOf cs := rfl

@[simp] theorem bytesOf_append (cs ds : List Char) :
    bytesOf (cs ++ ds) = bytesOf cs ++ bytesOf ds := List.flatMap_append

theorem encode_ofList (cs : List Char) : encode (String.ofList cs) = bytesOf cs := by
  simp only [encode, bytesOf, String.toByteArray_ofList, List.utf8Encode, List.data_toByteArray]

theorem encode_eq (s : String) : encode s = bytesOf s.toList := by
  rw [← encode_ofList, String.ofList_toList]

theorem bytesOf_inj {cs ds : List Char} : bytesOf cs = bytesOf ds ↔ cs = ds := by
  rw [← encode_ofList, ← encode_ofList, encode_inj, String.ofList_inj]

/-- The bytes of a character beyond ASCII lie beyond ASCII. -/
theorem le_of_mem_utf8EncodeChar {c : Char} {b : UInt8} (h : b ∈ String.utf8EncodeChar c)
    (hc : 128 ≤ c.toNat) : 128 ≤ b.toNat := by
  have hc' : ¬ c.val.toNat ≤ 127 := Nat.not_le.mpr hc
  have hb : ∀ n, 128 ≤ n → n < 256 → 128 ≤ (UInt8.ofNat n).toNat := fun n hn hlt => by
    rwa [UInt8.toNat_ofNat', Nat.mod_eq_of_lt hlt]
  simp only [String.utf8EncodeChar, hc', if_false] at h
  split at h
  · simp only [List.mem_cons, List.not_mem_nil, or_false] at h
    rcases h with rfl | rfl <;> exact hb _ (by omega) (by omega)
  · split at h
    · simp only [List.mem_cons, List.not_mem_nil, or_false] at h
      rcases h with rfl | rfl | rfl <;> exact hb _ (by omega) (by omega)
    · simp only [List.mem_cons, List.not_mem_nil, or_false] at h
      rcases h with rfl | rfl | rfl | rfl <;> exact hb _ (by omega) (by omega)

/-- A character of ASCII is one byte. -/
theorem utf8EncodeChar_of_lt {c : Char} (h : c.toNat < 128) :
    String.utf8EncodeChar c = [UInt8.ofNat c.toNat] := by
  have hc : c.val.toNat ≤ 127 := Nat.le_of_lt_succ h
  simp only [String.utf8EncodeChar, hc, if_true]
  rfl

end Utf8

namespace Json

open Utf8

/-- A control character that no letter stands for is written by its number. -/
def isNumbered (c : Char) : Prop :=
  c.toNat < 0x20 ∧ c ≠ '\x08' ∧ c ≠ '\t' ∧ c ≠ '\n' ∧ c ≠ '\x0c' ∧ c ≠ '\r'

instance (c : Char) : Decidable (isNumbered c) := inferInstanceAs (Decidable (_ ∧ _))

/-- The pieces as which a character between quotes is read. -/
def piecesOfChar (c : Char) : List Piece :=
  if isNumbered c then [.unit c.toNat] else (String.utf8EncodeChar c).map .byte

/-- The pieces as which a text between quotes is read. -/
def piecesOf (s : String) : List Piece := s.toList.flatMap piecesOfChar

/-- Pieces in front of what the rest of a string is read as. -/
def prepend (ps : List Piece) (read : Option (List Piece × Bytes)) :
    Option (List Piece × Bytes) :=
  read.map fun (more, after) => (ps ++ more, after)

@[simp] theorem prepend_prepend (ps qs : List Piece) (read : Option (List Piece × Bytes)) :
    prepend ps (prepend qs read) = prepend (ps ++ qs) read := by
  cases read <;> simp [prepend]

@[simp] theorem prepend_nil (read : Option (List Piece × Bytes)) : prepend [] read = read := by
  cases read <;> simp [prepend]

theorem pieces?_plain {b : UInt8} (hq : b ≠ 0x22) (hs : b ≠ 0x5C) (hc : ¬b < 0x20)
    (rest : Bytes) : pieces? (b :: rest) = prepend [.byte b] (pieces? rest) := by
  rw [pieces?]
  · simp [hc, hs, prepend]
  · simpa using hq
  · rintro a b' c d rest' rfl
    exact absurd rfl hs
  · rintro e rest' rfl
    exact absurd rfl hs

theorem pieces?_escaped {e b : UInt8} (he : escaped? e = some b) (hu : e ≠ 0x75)
    (rest : Bytes) : pieces? (0x5C :: e :: rest) = prepend [.byte b] (pieces? rest) := by
  rw [pieces?]
  · simp [he, prepend]
  · rintro a b c d rest' rfl
    exact absurd rfl hu

theorem pieces?_unit {a b c d : UInt8} {u : Nat} (h : hexUnit? a b c d = some u)
    (rest : Bytes) :
    pieces? (0x5C :: 0x75 :: a :: b :: c :: d :: rest) = prepend [.unit u] (pieces? rest) := by
  rw [pieces?]
  simp [h, prepend]

theorem pieces?_plain_append {bs : Bytes} (h : ∀ b ∈ bs, b ≠ 0x22 ∧ b ≠ 0x5C ∧ ¬b < 0x20)
    (rest : Bytes) : pieces? (bs ++ rest) = prepend (bs.map .byte) (pieces? rest) := by
  induction bs with
  | nil => simp
  | cons b bs ih =>
    obtain ⟨hq, hs, hc⟩ := h b List.mem_cons_self
    have ih := ih fun b hb => h b (List.mem_cons_of_mem _ hb)
    rw [List.cons_append, pieces?_plain hq hs hc, ih, prepend_prepend]
    rfl

theorem hexUnit?_hexDigit : ∀ n < 0x20,
    hexUnit? 0x30 0x30 (UInt8.ofNat (hexDigit (n / 16)).toNat)
      (UInt8.ofNat (hexDigit (n % 16)).toNat) = some n := by
  decide

theorem hexDigit_toNat_lt : ∀ n < 16, (hexDigit n).toNat < 128 := by decide

/-- The bytes of a character that needs no escape. -/
theorem plain_of_mem {c : Char} (hq : c ≠ '"') (hs : c ≠ '\\') (hc : ¬c.toNat < 0x20)
    {b : UInt8} (h : b ∈ String.utf8EncodeChar c) : b ≠ 0x22 ∧ b ≠ 0x5C ∧ ¬b < 0x20 := by
  rcases Nat.lt_or_ge c.toNat 128 with hlt | hge
  · rw [utf8EncodeChar_of_lt hlt, List.mem_singleton] at h
    have hb : b.toNat = c.toNat := by
      rw [h, UInt8.toNat_ofNat', Nat.mod_eq_of_lt (by omega)]
    refine ⟨?_, ?_, ?_⟩
    · rintro rfl
      exact hq (Char.toNat_inj.mp hb.symm)
    · rintro rfl
      exact hs (Char.toNat_inj.mp hb.symm)
    · rw [UInt8.lt_iff_toNat_lt, hb]
      exact hc
  · have hb := le_of_mem_utf8EncodeChar h hge
    refine ⟨?_, ?_, ?_⟩
    · rintro rfl
      exact absurd hb (by decide)
    · rintro rfl
      exact absurd hb (by decide)
    · rw [UInt8.lt_iff_toNat_lt]
      exact Nat.not_lt.mpr (Nat.le_trans (by decide) hb)

theorem pieces?_numbered {c : Char} (h : isNumbered c) (rest : Bytes) :
    pieces? (bytesOf ['\\', 'u', '0', '0', hexDigit (c.toNat / 16), hexDigit (c.toNat % 16)]
      ++ rest) = prepend (piecesOfChar c) (pieces? rest) := by
  have hlt : c.toNat < 0x20 := h.1
  have hhigh := utf8EncodeChar_of_lt (hexDigit_toNat_lt (c.toNat / 16) (by omega))
  have hlow := utf8EncodeChar_of_lt (hexDigit_toNat_lt (c.toNat % 16) (by omega))
  rw [piecesOfChar, if_pos h]
  simp only [bytesOf_cons, bytesOf_nil, hhigh, hlow]
  exact pieces?_unit (hexUnit?_hexDigit _ hlt) rest

theorem pieces?_escapeChar (c : Char) (rest : Bytes) :
    pieces? (bytesOf (escapeChar c) ++ rest) = prepend (piecesOfChar c) (pieces? rest) := by
  unfold escapeChar
  split_ifs with h1 h2 h3 h4 h5 h6 h7 h8
  case neg =>
    have hc : ¬isNumbered c := fun h => h8 h.1
    rw [piecesOfChar, if_neg hc, bytesOf_cons, bytesOf_nil, List.append_nil]
    exact pieces?_plain_append (fun b hb => plain_of_mem h1 h2 h8 hb) rest
  rotate_left 7
  · exact pieces?_numbered ⟨h8, h3, h4, h5, h6, h7⟩ rest
  -- the characters for which a letter stands
  all_goals
    subst c
    exact pieces?_escaped (by decide) (by decide) rest

/-- A text between quotes is read up to the closing quote. -/
theorem pieces?_quoted (s : String) (rest : Bytes) :
    pieces? (bytesOf (s.toList.flatMap escapeChar) ++ 0x22 :: rest) = some (piecesOf s, rest) := by
  unfold piecesOf
  induction s.toList with
  | nil => rw [List.flatMap_nil, bytesOf_nil, List.nil_append, pieces?]; rfl
  | cons c cs ih =>
    rw [List.flatMap_cons, bytesOf_append, List.append_assoc, pieces?_escapeChar, ih]
    rfl

theorem bytes?_map_byte (bs : Bytes) (ps : List Piece) :
    Piece.bytes? (bs.map .byte ++ ps) = (Piece.bytes? ps).map (bs ++ ·) := by
  induction bs with
  | nil => simp
  | cons b bs ih => simp [Piece.bytes?, ih, Function.comp_def]

/-- The number of a control character stands for the character. -/
theorem bytes?_unit {u : Nat} (h : u < 0x20) (ps : List Piece) :
    Piece.bytes? (.unit u :: ps) =
      (Piece.bytes? ps).map (String.utf8EncodeChar (Char.ofNat u) ++ ·) := by
  have h1 : ¬(0xD800 ≤ u ∧ u < 0xDC00) := by omega
  have h2 : ¬(0xDC00 ≤ u ∧ u < 0xE000) := by omega
  have h3 : ¬(0xD800 ≤ u ∧ u < 0xE000) := by omega
  match ps with
  | [] => simp only [Piece.bytes?, if_neg h3]
  | .byte _ :: _ => simp only [Piece.bytes?, if_neg h3]
  | .unit _ :: _ => rw [Piece.bytes?, if_neg h1, if_neg h2]

theorem bytes?_piecesOfChar (c : Char) (ps : List Piece) :
    Piece.bytes? (piecesOfChar c ++ ps) =
      (Piece.bytes? ps).map (String.utf8EncodeChar c ++ ·) := by
  unfold piecesOfChar
  split
  · next h =>
    rw [List.singleton_append, bytes?_unit h.1, Char.ofNat_toNat]
  · exact bytes?_map_byte _ ps

theorem bytes?_piecesOf (s : String) : Piece.bytes? (piecesOf s) = some (Utf8.encode s) := by
  rw [Utf8.encode_eq]
  unfold piecesOf
  induction s.toList with
  | nil => rfl
  | cons c cs ih => rw [List.flatMap_cons, bytes?_piecesOfChar, ih]; rfl

/-- What is read of a text between quotes is the text. -/
@[simp] theorem text?_piecesOf (s : String) : Piece.text? (piecesOf s) = some s := by
  rw [Piece.text?, bytes?_piecesOf]
  exact Utf8.decode?_encode s

end Json
end Microversion
