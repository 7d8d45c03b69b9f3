/-! # Decimal digits

Reading a run of ASCII digits and writing a number in decimal. `value?` reads
back what `decimal` writes, and accepts leading zeros of any length.
-/

namespace Microversion.Text

/-- The decimal text of a number, without leading zeros. -/
def decimal (n : Nat) : List Char :=
  Nat.toDigits 10 n

/-- The value of a non-empty run of ASCII digits. -/
def value? (cs : List Char) : Option Nat :=
  if cs ≠ [] ∧ cs.all Char.isDigit then some (Nat.ofDigitChars 10 cs 0) else none

/-- The value of a non-empty run of ASCII digits below `bound`. -/
def valueBelow? (bound : Nat) (cs : List Char) : Option Nat :=
  match value? cs with
  | some n => if n < bound then some n else none
  | none => none

/-- The value of an unsigned number below `bound` that may start with a plus sign. -/
def unsignedBelow? (bound : Nat) : List Char → Option Nat
  | '+' :: cs => valueBelow? bound cs
  | cs => valueBelow? bound cs

/-- The value of a hexadecimal digit of either case. -/
def hexValue? (c : Char) : Option Nat :=
  if c.isDigit then some (c.toNat - '0'.toNat)
  else if 'a' ≤ c ∧ c ≤ 'f' then some (c.toNat - 'a'.toNat + 10)
  else if 'A' ≤ c ∧ c ≤ 'F' then some (c.toNat - 'A'.toNat + 10)
  else none

theorem decimal_ne_nil (n : Nat) : decimal n ≠ [] := Nat.toDigits_ne_nil

theorem isDigit_of_mem_decimal {n : Nat} {c : Char} (h : c ∈ decimal n) : c.isDigit = true :=
  Nat.isDigit_of_mem_toDigits (by decide) (by decide) h

@[simp] theorem value?_decimal (n : Nat) : value? (decimal n) = some n := by
  have hall : (decimal n).all Char.isDigit = true :=
    List.all_eq_true.2 fun c hc => isDigit_of_mem_decimal hc
  rw [value?, if_pos ⟨decimal_ne_nil n, hall⟩]
  exact congrArg some (Nat.ofDigitChars_toDigits (by decide) (by decide))

theorem valueBelow?_decimal {bound n : Nat} (h : n < bound) :
    valueBelow? bound (decimal n) = some n := by
  simp [valueBelow?, h]

theorem valueBelow?_eq_some {bound n : Nat} {cs : List Char} :
    valueBelow? bound cs = some n ↔
      cs ≠ [] ∧ (∀ c ∈ cs, c.isDigit = true) ∧ Nat.ofDigitChars 10 cs 0 = n ∧ n < bound := by
  simp only [valueBelow?, value?, List.all_eq_true]
  split
  · next m h =>
    split at h
    · next hc =>
      simp only [Option.some.injEq] at h
      subst h
      split
      · next hb =>
        simp only [Option.some.injEq]
        exact ⟨fun h => ⟨hc.1, hc.2, h, h ▸ hb⟩, fun h => h.2.2.1⟩
      · next hb =>
        simp only [reduceCtorEq, false_iff]
        rintro ⟨-, -, rfl, h⟩
        exact hb h
    · simp at h
  · next h =>
    split at h
    · simp at h
    · next hc =>
      simp only [reduceCtorEq, false_iff]
      rintro ⟨h1, h2, -, -⟩
      exact hc ⟨h1, h2⟩

end Microversion.Text
