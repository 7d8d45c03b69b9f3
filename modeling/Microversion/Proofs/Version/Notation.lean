import Mathlib.Data.Prod.Lex
import Microversion.Proofs.Version.Grammar
import Microversion.Proofs.Version.Order

/-! # Versions and their texts

A text is read as a version if it is two numbers of 32 bits with a point between them,
and as nothing else. Printing a version that was read drops the zeros in front of its
numbers, and versions compare as pairs of numbers do.
-/

namespace Microversion

namespace Text

/-- The digits without the zeros in front of them, of which the last one stays. -/
def significant : List Char → List Char
  | '0' :: c :: cs => significant (c :: cs)
  | cs => cs

section Decimal

variable {c : Char} {cs : List Char} {n : ℕ}

theorem decimal_digit (h : c.isDigit = true) : decimal (c.toNat - '0'.toNat) = [c] := by
  have hrange := toNat_of_isDigit h
  have hall : ∀ n < 58, 48 ≤ n → decimal (n - '0'.toNat) = [Char.ofNat n] := by decide
  rw [hall c.toNat (by omega) hrange.1, Char.ofNat_toNat]

theorem digit_lt (h : c.isDigit = true) : c.toNat - '0'.toNat < 10 := by
  have hrange := toNat_of_isDigit h
  have hzero : '0'.toNat = 48 := rfl
  omega

/-- Digits that follow a number other than zero are printed as they are. -/
theorem decimal_ofDigitChars (hn : 0 < n) (h : ∀ c ∈ cs, c.isDigit = true) :
    decimal (Nat.ofDigitChars 10 cs n) = decimal n ++ cs := by
  induction cs generalizing n with
  | nil => rw [Nat.ofDigitChars_nil, List.append_nil]
  | cons c cs ih =>
    have hc : c.isDigit = true := h c List.mem_cons_self
    have hnext : decimal (10 * n + (c.toNat - '0'.toNat)) = decimal n ++ [c] := by
      rw [← decimal_digit hc]
      exact (Nat.toDigits_append_toDigits (by decide) hn (digit_lt hc)).symm
    rw [Nat.ofDigitChars_cons, ih (by omega) fun d hd => h d (List.mem_cons_of_mem _ hd), hnext,
      List.append_assoc, List.singleton_append]

theorem Writes.decimal_eq (h : Writes cs n) : decimal n = significant cs := by
  obtain ⟨hne, hdigit, rfl⟩ := h
  fun_induction significant cs with
  | case1 c cs ih =>
    -- a zero in front of other digits does not count
    rw [← ih (List.cons_ne_nil _ _) fun d hd => hdigit d (List.mem_cons_of_mem _ hd)]
    rfl
  | case2 cs hzero =>
    cases cs with
    | nil => exact absurd rfl hne
    | cons c cs =>
      have hc : c.isDigit = true := hdigit c List.mem_cons_self
      rw [Nat.ofDigitChars_cons, Nat.mul_zero, Nat.zero_add]
      cases cs with
      | nil => exact decimal_digit hc
      | cons d cs =>
        have hpos : 0 < c.toNat - '0'.toNat := by
          have hne : c ≠ '0' := fun h => hzero d cs (h ▸ rfl)
          by_contra hle
          have hdecimal := decimal_digit hc
          rw [Nat.eq_zero_of_not_pos hle] at hdecimal
          exact hne (List.cons.inj hdecimal).1.symm
        rw [decimal_ofDigitChars hpos fun e he => hdigit e (List.mem_cons_of_mem _ he),
          decimal_digit hc]
        rfl

end Decimal

end Text

namespace Version

/-- The numbers of a version, the first of which counts first. -/
def pair (v : Version) : ℕ ×ₗ ℕ := toLex (v.major.toNat, v.minor.toNat)

section Pairs

variable {v w : Version} {m n : ℕ}

theorem pair_eq_iff : v.pair = toLex (m, n) ↔ v.major.toNat = m ∧ v.minor.toNat = n :=
  toLex_inj.trans Prod.mk_inj

theorem pair_le_pair_iff : v.pair ≤ w.pair ↔ v ≤ w := by
  rw [le_iff]
  exact Prod.Lex.toLex_le_toLex

theorem pair_lt_pair_iff : v.pair < w.pair ↔ v < w := by
  rw [lt_iff]
  exact Prod.Lex.toLex_lt_toLex

end Pairs

/-- Two texts with a point between them. -/
def pointed (major minor : List Char) : String := String.ofList (major ++ '.' :: minor)

section Texts

variable {v : Version} {major minor : List Char} {m n : ℕ}

theorem parse_text (v : Version) : Version.parse v.text = .ok v := by
  rw [Version.parse, ofText?_text]

theorem spelledBy_pointed_iff (hmajor : Text.Writes major m) (hminor : Text.Writes minor n) :
    v.SpelledBy (pointed major minor).toList ↔ v.pair = toLex (m, n) := by
  rw [pair_eq_iff, pointed, String.toList_ofList]
  constructor
  · rintro ⟨major', minor', htext, hmajor', hminor'⟩
    -- neither text has a point of its own, so both are cut at the same place
    have hpoint : '.' ∉ major := hmajor.not_mem (by decide)
    have hpoint' : '.' ∉ major' := hmajor'.not_mem (by decide)
    have hsplit := Text.splitFirst?_append hpoint minor
    rw [htext, Text.splitFirst?_append hpoint'] at hsplit
    cases hsplit
    exact ⟨hmajor'.value.symm.trans hmajor.value, hminor'.value.symm.trans hminor.value⟩
  · rintro ⟨rfl, rfl⟩
    exact ⟨major, minor, rfl, hmajor, hminor⟩

/-- A version is printed as it was written, but for zeros. -/
theorem text_of_writes (hmajor : Text.Writes major v.major.toNat)
    (hminor : Text.Writes minor v.minor.toNat) :
    v.text = pointed (Text.significant major) (Text.significant minor) := by
  rw [text, chars, hmajor.decimal_eq, hminor.decimal_eq]
  rfl

theorem exists_parse_pointed (hmajor : Text.Writes major m) (hminor : Text.Writes minor n)
    (hm : m < UInt32.size) (hn : n < UInt32.size) :
    ∃ v, Version.parse (pointed major minor) = .ok v ∧ v.pair = toLex (m, n) ∧
      v.text = pointed (Text.significant major) (Text.significant minor) := by
  have hm' : (UInt32.ofNat m).toNat = m := UInt32.toNat_ofNat_of_lt' hm
  have hn' : (UInt32.ofNat n).toNat = n := UInt32.toNat_ofNat_of_lt' hn
  have hpair : pair ⟨.ofNat m, .ofNat n⟩ = toLex (m, n) := by rw [pair, hm', hn']
  refine ⟨⟨.ofNat m, .ofNat n⟩, ?_, hpair, ?_⟩
  · exact parse_eq_ok_iff.mpr ((spelledBy_pointed_iff hmajor hminor).mpr hpair)
  · exact text_of_writes (hm'.symm ▸ hmajor) (hn'.symm ▸ hminor)

theorem parse_pointed_of_le (hmajor : Text.Writes major m) (hminor : Text.Writes minor n)
    (h : ¬(m < UInt32.size ∧ n < UInt32.size)) :
    Version.parse (pointed major minor) = .error (.invalidVersion (pointed major minor)) := by
  refine parse_eq_error_iff.mpr ⟨rfl, ?_⟩
  intro v hv
  obtain ⟨rfl, rfl⟩ := pair_eq_iff.mp ((spelledBy_pointed_iff hmajor hminor).mp hv)
  exact h ⟨v.major.toNat_lt, v.minor.toNat_lt⟩

/-- A text is read as the version that it spells, and else it is named by the error. Versions are
read back from their texts; of two numbers with a point between them those are read that have 32
bits, whatever zeros stand in front of them, which are not printed again. Versions compare as pairs
of numbers. -/
theorem readsPairs_parse :
    (∀ (s : String) (v : Version), Version.parse s = .ok v ↔ v.SpelledBy s.toList) ∧
    (∀ s : String, (∀ v : Version, ¬v.SpelledBy s.toList) →
      Version.parse s = .error (.invalidVersion s)) ∧
    (∀ v : Version, Version.parse v.text = .ok v) ∧
    (∀ (major minor : List Char) (m n : ℕ), Text.Writes major m → Text.Writes minor n →
      if m < UInt32.size ∧ n < UInt32.size then
        ∃ v, Version.parse (pointed major minor) = .ok v ∧ v.pair = toLex (m, n) ∧
          v.text = pointed (Text.significant major) (Text.significant minor)
      else Version.parse (pointed major minor) = .error (.invalidVersion (pointed major minor))) ∧
    ∀ v w : Version, (v ≤ w ↔ v.pair ≤ w.pair) ∧ (v < w ↔ v.pair < w.pair) := by
  refine ⟨fun s v => parse_eq_ok_iff, ?_, parse_text, ?_, ?_⟩
  · intro s h
    exact parse_eq_error_iff.mpr ⟨rfl, h⟩
  · intro major minor m n hmajor hminor
    split
    · next hlt => exact exists_parse_pointed hmajor hminor hlt.1 hlt.2
    · next hle => exact parse_pointed_of_le hmajor hminor hle
  · intro v w
    exact ⟨pair_le_pair_iff.symm, pair_lt_pair_iff.symm⟩

/-- Zeros do not make a number too large. -/
theorem readsPairs_parse_zeros :
    Text.Writes "00000000001".toList 1 ∧ Text.Writes "4294967295".toList 4294967295 ∧
      ∃ v, Version.parse "00000000001.4294967295" = .ok v ∧ v.pair = toLex (1, 4294967295) ∧
        v.text = "1.4294967295" := by
  have hmajor : Text.Writes "00000000001".toList 1 := ⟨by decide, by simp, rfl⟩
  have hminor : Text.Writes "4294967295".toList 4294967295 := ⟨by decide, by simp, rfl⟩
  have h := readsPairs_parse.2.2.2.1 _ _ _ _ hmajor hminor
  rw [if_pos (by decide)] at h
  obtain ⟨v, hv, hpair, htext⟩ := h
  exact ⟨hmajor, hminor, v, hv, hpair, htext⟩

example : Version.parse "1.4294967296" = .error (.invalidVersion "1.4294967296") := rfl

end Texts

end Version

end Microversion
