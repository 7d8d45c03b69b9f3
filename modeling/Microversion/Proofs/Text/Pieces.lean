import Mathlib.Data.List.TakeWhile
import Microversion.Text.Blank
import Microversion.Text.Split

/-! # Cores and pieces of texts

A text has one core, which neither begins nor ends with a blank. It is cut at every
separator into pieces, whose cores do not depend on the blanks around the text.
-/

namespace Microversion.Text

/-- Letters and digits are ASCII characters. -/
theorem toNat_lt_of_isAlphanum {c : Char} (h : c.isAlphanum = true) : c.toNat < 128 := by
  have hclass : (c.isUpper || c.isLower || c.isDigit) = true := h
  simp only [Bool.or_eq_true] at hclass
  rcases hclass with (hupper | hlower) | hdigit
  · exact Nat.lt_of_le_of_lt (of_decide_eq_true hupper).2 (by decide)
  · have hle : c.val ≤ 'z'.val := of_decide_eq_true (Bool.and_eq_true_iff.mp hlower).2
    exact Nat.lt_of_le_of_lt hle (by decide)
  · have hle : c.val ≤ '9'.val := of_decide_eq_true (Bool.and_eq_true_iff.mp hdigit).2
    exact Nat.lt_of_le_of_lt hle (by decide)

/-- There are nothing but blanks around the core. -/
def Surrounds (cs core : List Char) : Prop :=
  ∃ before after, cs = before ++ (core ++ after) ∧ (∀ c ∈ before, isBlank c = true) ∧
    ∀ c ∈ after, isBlank c = true

/-- The core is the text without the blanks around it. -/
structure Trims (cs core : List Char) : Prop where
  around : Surrounds cs core
  head : ∀ c ∈ core.head?, isBlank c = false
  last : ∀ c ∈ core.getLast?, isBlank c = false

section Cores

variable {cs core : List Char} {c : Char}

/-- What is dropped at the end satisfies the predicate, and what stays does not end so. -/
theorem exists_dropEndWhile (p : Char → Bool) (cs : List Char) :
    ∃ after, cs = dropEndWhile p cs ++ after ∧ (∀ c ∈ after, p c = true) ∧
      ∀ c ∈ (dropEndWhile p cs).getLast?, p c = false := by
  refine ⟨(cs.reverse.takeWhile p).reverse, ?_, ?_, ?_⟩
  · rw [dropEndWhile, ← List.reverse_append, List.takeWhile_append_dropWhile,
      List.reverse_reverse]
  · intro c hc
    exact List.mem_takeWhile_imp (List.mem_reverse.mp hc)
  · intro c hc
    rw [dropEndWhile, List.getLast?_reverse] at hc
    have hnot := List.head?_dropWhile_not p cs.reverse
    rw [hc] at hnot
    exact hnot

theorem trims_trimChars (cs : List Char) : Trims cs (trimChars cs) := by
  obtain ⟨after, hafter, hblank, hlast⟩ := exists_dropEndWhile isBlank (cs.dropWhile isBlank)
  refine ⟨⟨cs.takeWhile isBlank, after, ?_, fun c hc => List.mem_takeWhile_imp hc, hblank⟩, ?_,
    hlast⟩
  · rw [trimChars, ← hafter, List.takeWhile_append_dropWhile]
  · -- the core begins as what stays when the blanks in front are dropped
    intro c hc
    obtain ⟨rest, hrest⟩ := List.head?_eq_some_iff.mp hc
    have hnot := List.head?_dropWhile_not isBlank cs
    rw [trimChars] at hrest
    rw [hafter, hrest] at hnot
    exact hnot

theorem Trims.eq_trimChars (h : Trims cs core) : core = trimChars cs := by
  obtain ⟨⟨before, after, rfl, hbefore, hafter⟩, hhead, hlast⟩ := h
  have hfront : (before ++ (core ++ after)).dropWhile isBlank = (core ++ after).dropWhile isBlank :=
    List.dropWhile_append_of_pos hbefore
  rw [trimChars, hfront]
  cases core with
  | nil =>
    rw [List.nil_append, List.dropWhile_eq_nil_iff.mpr hafter]
    rfl
  | cons c core =>
    have hc : isBlank c = false := hhead c rfl
    rw [List.cons_append, List.dropWhile_cons_of_neg (by simp [hc]), ← List.cons_append,
      dropEndWhile_append_of_all hafter]
    obtain ⟨init, d, hd⟩ := List.eq_nil_or_concat (c :: core) |>.resolve_left (List.cons_ne_nil _ _)
    rw [List.concat_eq_append] at hd
    rw [hd, dropEndWhile_of_last (hlast d (by rw [hd, List.getLast?_concat]; rfl))]

theorem trims_iff : Trims cs core ↔ trimChars cs = core := by
  constructor
  · intro h
    exact h.eq_trimChars.symm
  · rintro rfl
    exact trims_trimChars cs

theorem Trims.mem_iff (h : Trims cs core) (hc : isBlank c = false) : c ∈ cs ↔ c ∈ core := by
  obtain ⟨before, after, rfl, hbefore, hafter⟩ := h.around
  have hout : c ∉ before ∧ c ∉ after := by
    constructor
    · intro hmem
      rw [hbefore c hmem] at hc
      cases hc
    · intro hmem
      rw [hafter c hmem] at hc
      cases hc
  simp [hout]

theorem Trims.count_eq (h : Trims cs core) (hc : isBlank c = false) :
    cs.count c = core.count c := by
  obtain ⟨before, after, rfl, hbefore, hafter⟩ := h.around
  have hout : before.count c = 0 ∧ after.count c = 0 := by
    constructor <;> rw [List.count_eq_zero] <;> intro hmem
    · rw [hbefore c hmem] at hc
      cases hc
    · rw [hafter c hmem] at hc
      cases hc
  rw [List.count_append, List.count_append, hout.1, hout.2, Nat.zero_add, Nat.add_zero]

end Cores

section Pieces

variable {sep : Char} {cs : List Char} {pieces : List (List Char)}

theorem splitAll_of_not_mem (h : sep ∉ cs) : splitAll sep cs = [cs] := by
  induction cs with
  | nil => rfl
  | cons c cs ih =>
    rw [List.mem_cons, not_or] at h
    rw [splitAll, if_neg (Ne.symm h.1), ih h.2]

/-- Cutting goes on after a separator as if the text began there. -/
theorem splitAll_append (xs ys : List Char) :
    splitAll sep (xs ++ sep :: ys) = splitAll sep xs ++ splitAll sep ys := by
  induction xs with
  | nil => simp [splitAll]
  | cons x xs ih =>
    rw [List.cons_append, splitAll, splitAll, ih]
    split
    · rfl
    · cases hxs : splitAll sep xs with
      | nil => exact absurd hxs (splitAll_ne_nil sep xs)
      | cons piece pieces => rfl

theorem sublist_of_mem_splitAll {piece : List Char} (h : piece ∈ splitAll sep cs) :
    piece.Sublist cs := by
  induction cs generalizing piece with
  | nil =>
    obtain rfl := List.mem_singleton.mp h
    exact List.Sublist.refl _
  | cons d cs ih =>
    rw [splitAll] at h
    split at h
    · rcases List.mem_cons.mp h with rfl | h
      · exact List.nil_sublist _
      · exact (ih h).cons d
    · split at h
      · next hnil => exact absurd hnil (splitAll_ne_nil sep cs)
      · next first pieces heq =>
        rcases List.mem_cons.mp h with rfl | h
        · exact (ih (heq ▸ List.mem_cons_self)).cons_cons d
        · exact (ih (heq ▸ List.mem_cons_of_mem _ h)).cons d

theorem mem_of_mem_splitAll {piece : List Char} {c : Char} (h : piece ∈ splitAll sep cs)
    (hc : c ∈ piece) : c ∈ cs := (sublist_of_mem_splitAll h).subset hc

theorem splitAll_joinWith (hne : pieces ≠ []) (h : ∀ p ∈ pieces, sep ∉ p) :
    splitAll sep (joinWith [sep] pieces) = pieces := by
  induction pieces with
  | nil => exact absurd rfl hne
  | cons p ps ih =>
    have hp : splitAll sep p = [p] := splitAll_of_not_mem (h p List.mem_cons_self)
    cases ps with
    | nil => exact hp
    | cons q qs =>
      rw [joinWith_cons_of_ne_nil (List.cons_ne_nil q qs), List.append_assoc,
        List.singleton_append, splitAll_append, hp,
        ih (List.cons_ne_nil q qs) fun r hr => h r (List.mem_cons_of_mem _ hr)]
      rfl

theorem length_splitAll (sep : Char) (cs : List Char) :
    (splitAll sep cs).length = cs.count sep + 1 := by
  induction cs with
  | nil => rfl
  | cons c cs ih =>
    rw [splitAll]
    split
    · next hc => rw [hc, List.length_cons, ih, List.count_cons_self]
    · next hc =>
      rw [List.count_cons_of_ne hc, ← ih]
      split
      · next hnil => exact absurd hnil (splitAll_ne_nil sep cs)
      · next heq => rw [heq, List.length_cons, List.length_cons]

/-- What follows without a separator lengthens the last piece. -/
theorem exists_splitAll_append (cs : List Char) {ys : List Char} (h : sep ∉ ys) :
    ∃ init last, splitAll sep cs = init ++ [last] ∧
      splitAll sep (cs ++ ys) = init ++ [last ++ ys] := by
  induction cs with
  | nil => exact ⟨[], [], rfl, splitAll_of_not_mem h⟩
  | cons c cs ih =>
    obtain ⟨init, last, hcs, hys⟩ := ih
    rw [List.cons_append, splitAll, splitAll, hcs, hys]
    split
    · exact ⟨[] :: init, last, rfl, rfl⟩
    · cases init with
      | nil => exact ⟨[], c :: last, rfl, rfl⟩
      | cons piece init => exact ⟨(c :: piece) :: init, last, rfl, rfl⟩

end Pieces

theorem occursIn_iff {needle cs : List Char} : occursIn needle cs = true ↔ needle <:+: cs := by
  induction cs with
  | nil => simp [occursIn]
  | cons c cs ih => simp [occursIn, ih, List.infix_cons_iff]

section Both

variable {sep : Char} {before after cs : List Char}

theorem trimChars_append_blanks (cs : List Char) (h : ∀ c ∈ after, isBlank c = true) :
    trimChars (cs ++ after) = trimChars cs := by
  refine (Trims.eq_trimChars ?_).symm
  obtain ⟨⟨front, back, hcs, hfront, hback⟩, hhead, hlast⟩ := trims_trimChars cs
  refine ⟨⟨front, back ++ after, ?_, hfront, ?_⟩, hhead, hlast⟩
  · calc cs ++ after = front ++ (trimChars cs ++ back) ++ after := by rw [← hcs]
      _ = front ++ (trimChars cs ++ (back ++ after)) := by simp only [List.append_assoc]
  · intro c hc
    exact (List.mem_append.mp hc).elim (hback c) (h c)

theorem map_trimChars_of_front (hsep : isBlank sep = false)
    (h : ∀ c ∈ before, isBlank c = true) (cs : List Char) :
    (splitAll sep (before ++ cs)).map trimChars = (splitAll sep cs).map trimChars := by
  induction before with
  | nil => rfl
  | cons b before ih =>
    have hb : isBlank b = true := h b List.mem_cons_self
    have hne : b ≠ sep := by
      rintro rfl
      rw [hb] at hsep
      cases hsep
    rw [List.cons_append, splitAll, if_neg hne,
      ← ih fun c hc => h c (List.mem_cons_of_mem _ hc)]
    split
    · next hnil => exact absurd hnil (splitAll_ne_nil sep _)
    · next heq =>
      rw [heq, List.map_cons, List.map_cons, trimChars, List.dropWhile_cons_of_pos hb]
      rfl

/-- The pieces of a text and those of its core have the same cores. -/
theorem map_trimChars_splitAll (hsep : isBlank sep = false) (cs : List Char) :
    (splitAll sep (trimChars cs)).map trimChars = (splitAll sep cs).map trimChars := by
  obtain ⟨before, after, hcs, hbefore, hafter⟩ := (trims_trimChars cs).around
  have hnot : sep ∉ after := by
    intro hmem
    rw [hafter sep hmem] at hsep
    cases hsep
  obtain ⟨init, last, hinit, hlast⟩ := exists_splitAll_append (trimChars cs) hnot
  have hfront := map_trimChars_of_front hsep hbefore (trimChars cs ++ after)
  rw [← hcs, hlast] at hfront
  rw [hfront, hinit, List.map_append, List.map_append, List.map_singleton, List.map_singleton,
    trimChars_append_blanks last hafter]

end Both

end Microversion.Text
