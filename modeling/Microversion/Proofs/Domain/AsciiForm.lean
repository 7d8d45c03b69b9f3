import Mathlib.Data.List.Basic
import Microversion.Domain.Label
import Microversion.Proofs.Text.Pieces

/-! # The ASCII form of domains

Whatever text a domain is written in, its ASCII form has nothing but ASCII
characters, none of which is denied to a domain.
-/

namespace Microversion

namespace Text

theorem mem_of_mem_joinWith {sep : List Char} {pieces : List (List Char)} {c : Char}
    (h : c ∈ joinWith sep pieces) : c ∈ sep ∨ ∃ piece ∈ pieces, c ∈ piece := by
  induction pieces with
  | nil => cases h
  | cons piece pieces ih =>
    cases pieces with
    | nil => exact .inr ⟨piece, List.mem_cons_self, h⟩
    | cons p ps =>
      rw [joinWith_cons_of_ne_nil (List.cons_ne_nil p ps), List.mem_append, List.mem_append] at h
      rcases h with (h | h) | h
      · exact .inr ⟨piece, List.mem_cons_self, h⟩
      · exact .inl h
      · obtain hsep | ⟨q, hq, hc⟩ := ih h
        · exact .inl hsep
        · exact .inr ⟨q, List.mem_cons_of_mem _ hq, hc⟩

end Text

namespace Domain

/-- Letters, digits, hyphens and points of ASCII. -/
def isPlain (c : Char) : Bool := c.isAlphanum || c == '-' || c == '.'

theorem toNat_lt_of_isPlain {c : Char} (h : isPlain c = true) : c.toNat < 0x80 := by
  simp only [isPlain, Bool.or_eq_true, beq_iff_eq] at h
  rcases h with (h | rfl) | rfl
  · exact Text.toNat_lt_of_isAlphanum h
  · decide
  · decide

namespace Punycode

variable {c : Char} {text : List Char}

theorem isPlain_digitChar {d : ℕ} (h : d < 36) : isPlain (digitChar d) = true := by
  have hall : ∀ d < 36, isPlain (digitChar d) = true := by decide
  exact hall d h

theorem isPlain_of_mem_writeNumber {bias place n : ℕ} (h : c ∈ writeNumber bias place n) :
    isPlain c = true := by
  fun_induction writeNumber bias place n with
  | case1 place n t hlast =>
    have hle : t ≤ 26 := threshold_le _ _
    rw [List.mem_singleton.mp h]
    exact isPlain_digitChar (by omega)
  | case2 place n t hmore ih =>
    rcases List.mem_cons.mp h with rfl | h
    · have hle : t ≤ 26 := threshold_le _ _
      have hmod : (n - t) % (36 - t) < 36 - t := Nat.mod_lt _ (by omega)
      exact isPlain_digitChar (by omega)
    · exact ih h

theorem isPlain_of_mem_writeAll {bias size : ℕ} {first : Bool} {numbers : List ℕ}
    (h : c ∈ writeAll bias size first numbers) : isPlain c = true := by
  induction numbers generalizing bias size first with
  | nil => cases h
  | cons n ns ih =>
    rcases List.mem_append.mp h with h | h
    · exact isPlain_of_mem_writeNumber h
    · exact ih h

/-- Punycode is written with the ASCII characters of the text and plain ones. -/
theorem mem_encode (h : c ∈ encode text) : (c ∈ text ∧ c.toNat < 0x80) ∨ isPlain c = true := by
  simp only [encode, List.mem_append, List.mem_filter, decide_eq_true_eq] at h
  rcases h with (h | h) | h
  · exact .inl h
  · split at h
    · cases h
    · rw [List.mem_singleton.mp h]
      exact .inr rfl
  · exact .inr (isPlain_of_mem_writeAll h)

end Punycode

variable {denied : Char → Bool} {cs label name : List Char} {c : Char}

theorem mem_asciiLabel (h : c ∈ asciiLabel label) :
    c.toNat < 0x80 ∧ (c ∈ label ∨ isPlain c = true) := by
  have hmark : "xn--".toList.all isPlain = true := by decide
  unfold asciiLabel at h
  split at h
  · next hascii => exact ⟨of_decide_eq_true (List.all_eq_true.mp hascii c h), .inl h⟩
  · rcases List.mem_append.mp h with h | h
    · have hplain := List.all_eq_true.mp hmark c h
      exact ⟨toNat_lt_of_isPlain hplain, .inr hplain⟩
    · obtain ⟨htext, hc⟩ | hplain := Punycode.mem_encode h
      · exact ⟨hc, .inl htext⟩
      · exact ⟨toNat_lt_of_isPlain hplain, .inr hplain⟩

/-- Where plain characters are not denied, the ASCII form of a domain is ASCII and holds no denied
character. -/
theorem not_denied_of_asciiForm? (h : asciiForm? denied cs = some name)
    (hplain : ∀ c, isPlain c = true → denied c = false) :
    ∀ c ∈ name, c.toNat < 0x80 ∧ denied c = false := by
  obtain ⟨text, -, h⟩ := Option.bind_eq_some_iff.mp h
  dsimp only at h
  split at h
  · next hallowed =>
    cases h
    intro c hc
    obtain hpoint | ⟨ascii, hascii, hc⟩ := Text.mem_of_mem_joinWith hc
    · rw [List.mem_singleton.mp hpoint]
      exact ⟨by decide, hplain '.' rfl⟩
    · obtain ⟨label, hlabel, rfl⟩ := List.mem_map.mp hascii
      obtain ⟨hlt, hmem | hc⟩ := mem_asciiLabel hc
      · have hnone := (Bool.not_eq_true' _).mp hallowed.1
        exact ⟨hlt, (Bool.not_eq_true _).mp
          (List.any_eq_false.mp hnone c (Text.mem_of_mem_splitAll hlabel hmem))⟩
      · exact ⟨hlt, hplain c hc⟩
  · cases h

end Domain

end Microversion
