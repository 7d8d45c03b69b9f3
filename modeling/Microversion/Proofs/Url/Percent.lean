import Microversion.Proofs.Json.Strings
import Microversion.Proofs.Url.Written

/-! # What percent sequences stand for

Encoding does not change what a text stands for. A text stands for itself exactly if it
holds no percent sequence; else it stands for fewer bytes than it has.
-/

namespace Microversion.Url

open Utf8 (bytesOf)

variable {set : Char → Bool} {c : Char} {cs : List Char}

/-- The text starts with two hexadecimal digits. -/
def startsHex : List Char → Bool
  | a :: b :: _ => (Text.hexValue? a).isSome && (Text.hexValue? b).isSome
  | _ => false

/-- A percent sign stands before two hexadecimal digits. -/
def HasEscape (cs : List Char) : Prop :=
  ∃ before after, cs = before ++ '%' :: after ∧ startsHex after = true

/-- The hexadecimal digits of either case. -/
def hexDigits : List Char := "0123456789abcdefABCDEF".toList

theorem mem_hexDigits (h : (Text.hexValue? c).isSome = true) : c ∈ hexDigits := by
  have hascii : c.toNat < 128 := by
    unfold Text.hexValue? at h
    split at h
    · next hdigit =>
      simp only [Char.isDigit, ge_iff_le, Bool.and_eq_true, decide_eq_true_eq] at hdigit
      exact Nat.lt_of_le_of_lt (UInt32.le_iff_toNat_le.mp hdigit.2) (by decide)
    · split at h
      · next hlower => exact Nat.lt_of_le_of_lt (UInt32.le_iff_toNat_le.mp hlower.2) (by decide)
      · split at h
        · next hupper => exact Nat.lt_of_le_of_lt (UInt32.le_iff_toNat_le.mp hupper.2) (by decide)
        · cases h
  have hall : ∀ n < 128, (Text.hexValue? (Char.ofNat n)).isSome = true →
      Char.ofNat n ∈ hexDigits := by decide
  have hc := hall c.toNat hascii
  rw [Char.ofNat_toNat] at hc
  exact hc h

/-! ## Reading percent sequences -/

theorem decodePercent_cons_of_ne (h : c ≠ '%') (cs : List Char) :
    decodePercent (c :: cs) = String.utf8EncodeChar c ++ decodePercent cs := by
  rw [decodePercent]
  rintro a b rest rfl -
  exact h rfl

/-- A percent sign that no two digits follow stands for itself. -/
theorem decodePercent_sign (h : startsHex cs = false) :
    decodePercent ('%' :: cs) = 0x25 :: decodePercent cs := by
  match cs, h with
  | [], _ => rfl
  | [a], _ => rfl
  | a :: b :: cs, h =>
    rw [decodePercent]
    split
    · next ha hb => simp [startsHex, ha, hb] at h
    · rfl

theorem decodePercent_escape {a b : Char} {x y : Nat} (ha : Text.hexValue? a = some x)
    (hb : Text.hexValue? b = some y) (cs : List Char) :
    decodePercent ('%' :: a :: b :: cs) = UInt8.ofNat (16 * x + y) :: decodePercent cs := by
  rw [decodePercent, ha, hb]

/-- A text is a row of characters, lone percent signs and percent sequences. -/
@[elab_as_elim]
theorem escape_induction {motive : List Char → Prop} (nil : motive [])
    (char : ∀ (c : Char) (cs : List Char), c ≠ '%' → motive cs → motive (c :: cs))
    (sign : ∀ cs : List Char, startsHex cs = false → motive cs → motive ('%' :: cs))
    (escape : ∀ (a b : Char) (x y : Nat) (cs : List Char), Text.hexValue? a = some x →
      Text.hexValue? b = some y → motive cs → motive ('%' :: a :: b :: cs))
    (cs : List Char) : motive cs := by
  induction cs using decodePercent.induct with
  | case1 => exact nil
  | case2 a b cs x y hb ha ih => exact escape a b x y cs ha hb ih
  | case3 a b cs hno ih =>
    refine sign _ ?_ ih
    cases ha : Text.hexValue? a with
    | none => simp [startsHex, ha]
    | some x =>
      cases hb : Text.hexValue? b with
      | none => simp [startsHex, hb]
      | some y => exact (hno x y ha hb).elim
  | case4 c cs hno ih =>
    by_cases hc : c = '%'
    · subst hc
      refine sign cs ?_ ih
      match cs, hno with
      | [], _ => rfl
      | [_], _ => rfl
      | a :: b :: cs, hno => exact (hno a b cs rfl rfl).elim
    · exact char c cs hc ih

theorem decodePercent_percentByte (b : UInt8) (cs : List Char) :
    decodePercent (percentByte b ++ cs) = b :: decodePercent cs := by
  have hhex : ∀ n < 16, Text.hexValue? (upperHex n) = some n := by decide
  have hb := b.toNat_lt
  have hhigh := hhex (b.toNat / 16) (by omega)
  have hlow := hhex (b.toNat % 16) (Nat.mod_lt _ (by decide))
  calc decodePercent (percentByte b ++ cs)
      = UInt8.ofNat (16 * (b.toNat / 16) + b.toNat % 16) :: decodePercent cs :=
        decodePercent_escape hhigh hlow cs
    _ = b :: decodePercent cs := by rw [Nat.div_add_mod, UInt8.ofNat_toNat]

theorem decodePercent_flatMap_percentByte (bs : Bytes) (cs : List Char) :
    decodePercent (bs.flatMap percentByte ++ cs) = bs ++ decodePercent cs := by
  induction bs with
  | nil => rfl
  | cons b bs ih =>
    rw [List.flatMap_cons, List.append_assoc, decodePercent_percentByte, ih, List.cons_append]

/-! ## Encoded texts -/

section Encode

/-- The signs of percent sequences are not encoded. -/
def KeepsEscapes (set : Char → Bool) : Prop := ∀ c ∈ '%' :: hexDigits, set c = false

theorem keepsEscapes_inPathSet : KeepsEscapes inPathSet := by
  have hall : ('%' :: hexDigits).all (fun c => !inPathSet c) = true := by decide
  exact fun c hc => by simpa using List.all_eq_true.mp hall c hc

theorem encodeChar_of_keepsEscapes (hset : KeepsEscapes set) (h : c ∈ '%' :: hexDigits) :
    encodeChar set c = [c] := by
  have hall : ('%' :: hexDigits).all (fun c => c.toNat < 0x80) = true := by decide
  have hascii : c.toNat < 0x80 := by simpa using List.all_eq_true.mp hall c h
  exact encodeChar_of_safe (hset c h) hascii

/-- An encoded text begins with the digit that the text begins with, or with no digit. -/
theorem encode_cons_cases (hset : KeepsEscapes set) (c : Char) (cs : List Char) :
    ((Text.hexValue? c).isSome = true ∧ encode set (c :: cs) = c :: encode set cs) ∨
      (Text.hexValue? c).isSome = false ∧ ∃ d rest, encode set (c :: cs) = d :: rest ∧
        (Text.hexValue? d).isSome = false := by
  have hcons : encode set (c :: cs) = encodeChar set c ++ encode set cs := List.flatMap_cons
  rw [hcons]
  cases hc : (Text.hexValue? c).isSome with
  | true =>
    left
    rw [encodeChar_of_keepsEscapes hset (List.mem_cons_of_mem _ (mem_hexDigits hc))]
    exact ⟨rfl, rfl⟩
  | false =>
    right
    refine ⟨rfl, ?_⟩
    unfold encodeChar
    split
    · obtain ⟨b, bs, hbytes⟩ := List.exists_cons_of_ne_nil (@String.utf8EncodeChar_ne_nil c)
      rw [hbytes]
      exact ⟨'%', _, rfl, by decide⟩
    · exact ⟨c, _, rfl, hc⟩

theorem startsHex_cons_of_not (h : (Text.hexValue? c).isSome = false) (cs : List Char) :
    startsHex (c :: cs) = false := by
  cases cs with
  | nil => rfl
  | cons d cs => rw [startsHex, h, Bool.false_and]

theorem startsHex_encode (hset : KeepsEscapes set) (cs : List Char) :
    startsHex (encode set cs) = startsHex cs := by
  cases cs with
  | nil => rfl
  | cons a cs =>
    rcases encode_cons_cases hset a cs with ⟨ha, henc⟩ | ⟨ha, d, rest, henc, hd⟩
    · rw [henc]
      cases cs with
      | nil => rfl
      | cons b cs =>
        rcases encode_cons_cases hset b cs with ⟨hb, henc⟩ | ⟨hb, d, rest, henc, hd⟩
        · rw [henc, startsHex, startsHex]
        · rw [henc, startsHex, startsHex, hb, hd]
    · rw [henc, startsHex_cons_of_not hd, startsHex_cons_of_not ha]

theorem decodePercent_encodeChar (set : Char → Bool) (h : c ≠ '%') (cs : List Char) :
    decodePercent (encodeChar set c ++ cs) = String.utf8EncodeChar c ++ decodePercent cs := by
  unfold encodeChar
  split
  · exact decodePercent_flatMap_percentByte _ cs
  · exact decodePercent_cons_of_ne h cs

/-- Encoding does not change what a text stands for. -/
theorem decodePercent_encode (hset : KeepsEscapes set) (cs : List Char) :
    decodePercent (encode set cs) = decodePercent cs := by
  have hsign : ∀ c ∈ '%' :: hexDigits, ∀ cs, encode set (c :: cs) = c :: encode set cs := by
    intro c hc cs
    rw [encode, List.flatMap_cons, encodeChar_of_keepsEscapes hset hc]
    rfl
  induction cs using escape_induction with
  | nil => rfl
  | char c cs hc ih =>
    rw [decodePercent_cons_of_ne hc, ← ih, encode, List.flatMap_cons]
    exact decodePercent_encodeChar set hc _
  | sign cs hstart ih =>
    rw [hsign '%' List.mem_cons_self, decodePercent_sign hstart, ← ih]
    exact decodePercent_sign ((startsHex_encode hset cs).trans hstart)
  | escape a b x y cs ha hb ih =>
    have hdigit : ∀ {c : Char} {n : Nat}, Text.hexValue? c = some n → c ∈ '%' :: hexDigits :=
      fun h => List.mem_cons_of_mem _ (mem_hexDigits (by rw [h]; rfl))
    rw [hsign '%' List.mem_cons_self, hsign a (hdigit ha), hsign b (hdigit hb),
      decodePercent_escape ha hb, decodePercent_escape ha hb, ih]

end Encode

/-! ## Texts that stand for themselves -/

theorem hasEscape_cons_iff : HasEscape (c :: cs) ↔
    (c = '%' ∧ startsHex cs = true) ∨ HasEscape cs := by
  constructor
  · rintro ⟨before, after, hcs, hstart⟩
    cases before with
    | nil =>
      obtain ⟨rfl, rfl⟩ := List.cons.inj hcs
      exact .inl ⟨rfl, hstart⟩
    | cons d before =>
      obtain ⟨-, hcs⟩ := List.cons.inj hcs
      exact .inr ⟨before, after, hcs, hstart⟩
  · rintro (⟨rfl, hstart⟩ | ⟨before, after, rfl, hstart⟩)
    · exact ⟨[], cs, rfl, hstart⟩
    · exact ⟨c :: before, after, rfl, hstart⟩

/-- A percent sequence has more bytes than the one that it stands for. -/
theorem lt_length_bytesOf {n : Nat} (a b : Char) (h : n ≤ (bytesOf cs).length) :
    n + 1 < (bytesOf ('%' :: a :: b :: cs)).length := by
  have hsign : (String.utf8EncodeChar '%').length = 1 := rfl
  have hpos : 0 < (String.utf8EncodeChar a).length :=
    List.length_pos_iff.mpr String.utf8EncodeChar_ne_nil
  simp only [Utf8.bytesOf_cons, List.length_append]
  omega

theorem length_decodePercent_le (cs : List Char) :
    (decodePercent cs).length ≤ (bytesOf cs).length := by
  induction cs using escape_induction with
  | nil => exact Nat.le_refl _
  | char c cs hc ih =>
    rw [decodePercent_cons_of_ne hc, Utf8.bytesOf_cons, List.length_append, List.length_append]
    omega
  | sign cs hstart ih =>
    rw [decodePercent_sign hstart]
    exact Nat.succ_le_succ ih
  | escape a b x y cs ha hb ih =>
    rw [decodePercent_escape ha hb]
    exact Nat.le_of_lt (lt_length_bytesOf a b ih)

theorem decodePercent_eq_bytesOf_iff : decodePercent cs = bytesOf cs ↔ ¬HasEscape cs := by
  induction cs using escape_induction with
  | nil =>
    refine iff_of_true rfl ?_
    rintro ⟨before, after, hcs, -⟩
    simp at hcs
  | char c cs hc ih =>
    rw [decodePercent_cons_of_ne hc, Utf8.bytesOf_cons, List.append_cancel_left_eq, ih,
      hasEscape_cons_iff]
    simp [hc]
  | sign cs hstart ih =>
    have hbytes : bytesOf ('%' :: cs) = 0x25 :: bytesOf cs := rfl
    rw [decodePercent_sign hstart, hbytes, List.cons.injEq, ih, hasEscape_cons_iff]
    simp [hstart]
  | escape a b x y cs ha hb ih =>
    have hstart : startsHex (a :: b :: cs) = true := by simp [startsHex, ha, hb]
    refine iff_of_false ?_ (not_not_intro (hasEscape_cons_iff.mpr (.inl ⟨rfl, hstart⟩)))
    intro heq
    have hlt := lt_length_bytesOf a b (length_decodePercent_le cs)
    rw [← heq, decodePercent_escape ha hb] at hlt
    exact Nat.lt_irrefl _ hlt

end Microversion.Url
