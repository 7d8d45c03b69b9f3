/-! # Tables sorted by key

A table holds one value per key, in the order of the keys. What `get?` sees
after `insert` is the new value under its key and nothing new elsewhere, and
`insert` keeps the order.
-/

namespace Microversion

/-- Values by key, sorted. -/
abbrev Table (α : Type) := List (String × α)

namespace Table

variable {α : Type}

/-- Give a key a value; an earlier value of the same key gives way. -/
def insert (key : String) (a : α) : Table α → Table α
  | [] => [(key, a)]
  | (k, b) :: t =>
    if key < k then (key, a) :: (k, b) :: t
    else if key = k then (key, a) :: t
    else (k, b) :: insert key a t

/-- The value of a key. -/
def get? (key : String) : Table α → Option α
  | [] => none
  | (k, a) :: t => if key = k then some a else get? key t

/-- The values given one after the other, the last one of each key. -/
def ofList (entries : List (String × α)) : Table α :=
  entries.foldl (fun t e => insert e.1 e.2 t) []

/-- Two tables in one; the second one wins. -/
def extend (t more : Table α) : Table α :=
  more.foldl (fun t e => insert e.1 e.2 t) t

@[simp] theorem get?_insert_self (key : String) (a : α) (t : Table α) :
    get? key (insert key a t) = some a := by
  induction t with
  | nil => simp [insert, get?]
  | cons e t ih =>
    obtain ⟨k, b⟩ := e
    simp only [insert]
    split
    · simp [get?]
    · split
      · simp [get?]
      · next h => simp [get?, h, ih]

theorem get?_insert_of_ne {key other : String} (a : α) (t : Table α) (h : other ≠ key) :
    get? other (insert key a t) = get? other t := by
  induction t with
  | nil => simp [insert, get?, h]
  | cons e t ih =>
    obtain ⟨k, b⟩ := e
    simp only [insert]
    split
    · simp [get?, h]
    · split
      · next hk => simp [get?, h, ← hk]
      · simp only [get?, ih]

/-- Every key comes before those after it. -/
def Sorted (t : Table α) : Prop := t.Pairwise fun a b => a.1 < b.1

theorem mem_insert {key : String} {a : α} {t : Table α} {e : String × α}
    (h : e ∈ insert key a t) : e = (key, a) ∨ e ∈ t := by
  induction t with
  | nil => simpa [insert] using h
  | cons f t ih =>
    obtain ⟨k, b⟩ := f
    simp only [insert] at h
    split at h
    · simpa using h
    · split at h
      · rcases List.mem_cons.mp h with rfl | h
        · exact .inl rfl
        · exact .inr (List.mem_cons_of_mem _ h)
      · rcases List.mem_cons.mp h with rfl | h
        · exact .inr List.mem_cons_self
        · exact (ih h).imp id (List.mem_cons_of_mem _)

theorem sorted_insert (key : String) (a : α) {t : Table α} (h : t.Sorted) :
    (insert key a t).Sorted := by
  induction t with
  | nil => exact List.pairwise_singleton _ _
  | cons f t ih =>
    obtain ⟨k, b⟩ := f
    obtain ⟨hk, ht⟩ := List.pairwise_cons.mp h
    simp only [insert]
    split
    · next hlt =>
      refine List.pairwise_cons.mpr ⟨fun e he => ?_, h⟩
      rcases List.mem_cons.mp he with rfl | he
      · exact hlt
      · exact String.lt_trans hlt (hk e he)
    · next hge =>
      split
      · next heq =>
        subst heq
        exact List.pairwise_cons.mpr ⟨hk, ht⟩
      · next hne =>
        have hlt : k < key := Std.lt_of_le_of_ne (Std.not_lt.mp hge) (Ne.symm hne)
        refine List.pairwise_cons.mpr ⟨fun e he => ?_, ih ht⟩
        rcases mem_insert he with rfl | he
        · exact hlt
        · exact hk e he

/-- A key that comes after all others is put last. -/
theorem insert_of_last {key : String} (a : α) {t : Table α} (h : ∀ e ∈ t, e.1 < key) :
    insert key a t = t ++ [(key, a)] := by
  induction t with
  | nil => rfl
  | cons f t ih =>
    obtain ⟨k, b⟩ := f
    have hlt : k < key := h _ List.mem_cons_self
    simp only [insert]
    rw [if_neg (String.lt_asymm hlt), if_neg (String.ne_of_lt hlt).symm,
      ih fun e he => h e (List.mem_cons_of_mem _ he), List.cons_append]

end Table

end Microversion
