import Microversion.Cache.ServerKey

/-! # The texts of keys

The text of a key does not tell an absent part from one that is written like it, nor
where the host ends and the port begins if there are more colons than one. Nothing
else is lost in it.
-/

namespace Microversion.ServerKey

/-- The host as it stands in the text of a key. -/
def hostText (k : ServerKey) : String := k.host.getD absentPart

/-- The port as it stands in the text of a key. -/
def portText (k : ServerKey) : String := k.port.getD absentPart

/-- The port of one key goes on where the host of the other has another colon. -/
def Shifts (k l : ServerKey) : Prop :=
  ∃ between, k.hostText = l.hostText ++ ":" ++ between ∧
    l.portText = between ++ ":" ++ k.portText

/-- Two keys are written alike. -/
def SpelledAlike (k l : ServerKey) : Prop :=
  (k.hostText = l.hostText ∧ k.portText = l.portText) ∨ Shifts k l ∨ Shifts l k

/-- No part is written like an absent one, and there is no colon in the port. -/
structure IsPlain (k : ServerKey) : Prop where
  host : k.host ≠ some absentPart
  port : k.port ≠ some absentPart
  colon : ∀ p ∈ k.port, ':' ∉ p.toList

variable {k l : ServerKey}

theorem text_eq (k : ServerKey) : k.text = k.hostText ++ ":" ++ k.portText := rfl

theorem toList_text (k : ServerKey) :
    k.text.toList = k.hostText.toList ++ ':' :: k.portText.toList := by
  rw [text_eq, String.toList_append, String.toList_append, List.append_assoc]
  rfl

theorem Shifts.text_eq (h : Shifts k l) : k.text = l.text := by
  obtain ⟨between, hhost, hport⟩ := h
  rw [ServerKey.text_eq, ServerKey.text_eq, hhost, hport]
  simp only [String.append_assoc]

/-- What stands before and after two colons of one text. -/
theorem shifts_of_append {more : List Char} (hhost : k.hostText.toList = l.hostText.toList ++ more)
    (hport : ':' :: l.portText.toList = more ++ ':' :: k.portText.toList) (hmore : more ≠ []) :
    Shifts k l := by
  cases more with
  | nil => exact absurd rfl hmore
  | cons c between =>
    rw [List.cons_append, List.cons.injEq] at hport
    obtain ⟨rfl, hport⟩ := hport
    refine ⟨String.ofList between, ?_, ?_⟩
    · rw [← String.toList_inj, hhost]
      simp
    · rw [← String.toList_inj, hport]
      simp

/-- Exactly keys that are written alike have the same text. -/
theorem text_eq_iff : k.text = l.text ↔ SpelledAlike k l := by
  constructor
  · intro h
    have hlists := congrArg String.toList h
    rw [toList_text, toList_text, List.append_eq_append_iff] at hlists
    rcases hlists with ⟨more, hhost, hport⟩ | ⟨more, hhost, hport⟩
    · by_cases hmore : more = []
      · subst hmore
        rw [List.append_nil, String.toList_inj] at hhost
        rw [List.nil_append, List.cons.injEq, String.toList_inj] at hport
        exact .inl ⟨hhost.symm, hport.2⟩
      · exact .inr (.inr (shifts_of_append hhost hport hmore))
    · by_cases hmore : more = []
      · subst hmore
        rw [List.append_nil, String.toList_inj] at hhost
        rw [List.nil_append, List.cons.injEq, String.toList_inj] at hport
        exact .inl ⟨hhost, hport.2.symm⟩
      · exact .inr (.inl (shifts_of_append hhost hport hmore))
  · rintro (⟨hhost, hport⟩ | h | h)
    · rw [text_eq, text_eq, hhost, hport]
    · exact h.text_eq
    · exact h.text_eq.symm

theorem eq_of_getD {a b : Option String} (ha : a ≠ some absentPart) (hb : b ≠ some absentPart)
    (h : a.getD absentPart = b.getD absentPart) : a = b := by
  cases a with
  | none =>
    cases b with
    | none => rfl
    | some y => exact absurd (congrArg some h.symm) hb
  | some x =>
    cases b with
    | none => exact absurd (congrArg some h) ha
    | some y => exact congrArg some h

theorem IsPlain.not_mem_portText (h : k.IsPlain) : ':' ∉ k.portText.toList := by
  cases hp : k.port with
  | none =>
    rw [portText, hp]
    decide
  | some p =>
    rw [portText, hp]
    exact h.colon p hp

/-- Nothing is shifted into a port that has no colon. -/
theorem not_shifts_of_not_mem (h : ':' ∉ l.portText.toList) : ¬Shifts k l := by
  rintro ⟨between, -, hport⟩
  apply h
  rw [hport]
  simp

theorem IsPlain.not_shifts (h : l.IsPlain) : ¬Shifts k l := not_shifts_of_not_mem h.not_mem_portText

/-- Plain keys have the same text only if they are the same. -/
theorem IsPlain.eq_of_spelledAlike (hk : k.IsPlain) (hl : l.IsPlain) (h : SpelledAlike k l) :
    k = l := by
  rcases h with ⟨hhost, hport⟩ | h | h
  · obtain ⟨host, port⟩ := k
    obtain ⟨host', port'⟩ := l
    obtain rfl := eq_of_getD hk.host hl.host hhost
    obtain rfl := eq_of_getD hk.port hl.port hport
    rfl
  · exact absurd h hl.not_shifts
  · exact absurd h hk.not_shifts

end Microversion.ServerKey
