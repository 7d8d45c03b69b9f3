/-! # Blank characters

The characters with the Unicode property White_Space, and the removal of
characters from the ends of a text.
-/

namespace Microversion.Text

/-- The character has the Unicode property White_Space. -/
def isBlank (c : Char) : Bool :=
  let n := c.toNat
  (9 ≤ n && n ≤ 13) || n == 0x20 || n == 0x85 || n == 0xA0 || n == 0x1680 ||
    (0x2000 ≤ n && n ≤ 0x200A) || n == 0x2028 || n == 0x2029 || n == 0x202F ||
    n == 0x205F || n == 0x3000

/-- Drop the longest suffix whose characters all satisfy `p`. -/
def dropEndWhile (p : Char → Bool) (cs : List Char) : List Char :=
  (cs.reverse.dropWhile p).reverse

/-- Drop blank characters from both ends. -/
def trimChars (cs : List Char) : List Char :=
  dropEndWhile isBlank (cs.dropWhile isBlank)

@[simp] theorem dropEndWhile_nil (p : Char → Bool) : dropEndWhile p [] = [] := rfl

theorem dropEndWhile_append_of_all {p : Char → Bool} {xs ys : List Char}
    (h : ∀ c ∈ ys, p c = true) : dropEndWhile p (xs ++ ys) = dropEndWhile p xs := by
  unfold dropEndWhile
  rw [List.reverse_append, List.dropWhile_append_of_pos (by simpa using h)]

theorem dropEndWhile_of_last {p : Char → Bool} {xs : List Char} {c : Char} (h : p c = false) :
    dropEndWhile p (xs ++ [c]) = xs ++ [c] := by
  simp [dropEndWhile, h]

end Microversion.Text
