import Mathlib.Data.String.Basic
import Microversion.Table

/-! # What a table has collected

A table that was given entries has their keys, and under each key the last value
that was given to it. Keys of one kind compare by their order: the greatest of them
is the last one in the table, whenever it was given.
-/

namespace Microversion

namespace Table

variable {α : Type} {key : String} {a : α} {t : Table α} {p : String → Bool}

section Last

variable {es fs : List (String × α)} {e : String × α}

/-- The last of the entries whose key satisfies the condition. -/
def last? (p : String → Bool) (es : List (String × α)) : Option (String × α) :=
  (es.filter (p ·.1)).getLast?

theorem last?_append (es fs : List (String × α)) :
    last? p (es ++ fs) = (last? p fs).or (last? p es) := by
  rw [last?, last?, last?, List.filter_append, List.getLast?_append]

theorem last?_eq_none_iff : last? p es = none ↔ ∀ e ∈ es, p e.1 = false := by
  rw [last?, List.getLast?_eq_none_iff, List.filter_eq_nil_iff]
  simp only [Bool.not_eq_true]

theorem last?_ne_none (he : e ∈ es) (hp : p e.1 = true) : last? p es ≠ none := by
  intro h
  rw [last?_eq_none_iff.mp h e he] at hp
  cases hp

theorem last?_append_of_none (h : last? p fs = none) : last? p (es ++ fs) = last? p es := by
  rw [last?_append, h, Option.none_or]

theorem last?_cons_of_none (h : last? p es = none) (hp : p e.1 = true) :
    last? p (e :: es) = some e := by
  have hself : last? p [e] = some e := by simp [last?, hp]
  rw [← List.singleton_append, last?_append_of_none h, hself]

/-- After the last one of some keys there are no others of them. -/
theorem exists_of_last? (h : last? p es = some e) :
    p e.1 = true ∧ ∃ before after, es = before ++ e :: after ∧ last? p after = none := by
  induction es with
  | nil => cases h
  | cons f es ih =>
    rw [← List.singleton_append, last?_append] at h
    cases hes : last? p es with
    | some e' =>
      rw [hes] at h
      cases h
      obtain ⟨hp, before, after, rfl, hafter⟩ := ih hes
      exact ⟨hp, f :: before, after, rfl, hafter⟩
    | none =>
      rw [hes, Option.none_or] at h
      have hmem : e ∈ [f].filter (p ·.1) := List.mem_of_getLast? h
      obtain ⟨hf, hp⟩ := List.mem_filter.mp hmem
      obtain rfl := List.mem_singleton.mp hf
      exact ⟨hp, [], es, rfl, hes⟩

theorem mem_of_last? (h : last? p es = some e) : e ∈ es := by
  obtain ⟨-, before, after, rfl, -⟩ := exists_of_last? h
  exact List.mem_append_right _ List.mem_cons_self

/-- Where the last one of some keys is one of fewer keys, it is the last one of these. -/
theorem last?_of_last? {q : String → Bool} (h : last? p es = some e) (hq : q e.1 = true)
    (himp : ∀ key, q key = true → p key = true) : last? q es = some e := by
  obtain ⟨-, before, after, rfl, hafter⟩ := exists_of_last? h
  have hnone : last? q after = none := by
    rw [last?_eq_none_iff]
    intro e' he'
    apply Bool.eq_false_iff.mpr
    intro hq'
    exact last?_ne_none he' (himp e'.1 hq') hafter
  rw [last?_append, last?_cons_of_none hnone hq, Option.some_or]

end Last

section Collect

variable {es : List (String × α)}

theorem mem_of_get? (h : get? key t = some a) : (key, a) ∈ t := by
  induction t with
  | nil => cases h
  | cons e t ih =>
    rw [get?] at h
    split at h
    · next hkey =>
      cases h
      exact hkey ▸ List.mem_cons_self
    · exact List.mem_cons_of_mem _ (ih h)

theorem get?_of_mem (hs : t.Sorted) (h : (key, a) ∈ t) : get? key t = some a := by
  induction t with
  | nil => cases h
  | cons e t ih =>
    obtain ⟨hlt, ht⟩ := List.pairwise_cons.mp hs
    rw [get?]
    rcases List.mem_cons.mp h with rfl | hmem
    · exact if_pos rfl
    · rw [if_neg (ne_of_gt (hlt _ hmem)), ih ht hmem]

theorem sorted_extend (h : t.Sorted) (es : List (String × α)) : (t.extend es).Sorted := by
  induction es generalizing t with
  | nil => exact h
  | cons e es ih => exact ih (sorted_insert e.1 e.2 h)

/-- Under a key stays the last value that it was given. -/
theorem get?_extend (key : String) (t : Table α) (es : List (String × α)) :
    get? key (t.extend es) = ((last? (· == key) es).map (·.2)).or (get? key t) := by
  induction es generalizing t with
  | nil => rfl
  | cons e es ih =>
    have hstep : t.extend (e :: es) = (insert e.1 e.2 t).extend es := rfl
    rw [hstep, ih, ← List.singleton_append, last?_append]
    by_cases he : e.1 = key
    · subst he
      have hself : last? (· == e.1) [e] = some e := last?_cons_of_none rfl (beq_self_eq_true e.1)
      rw [get?_insert_self, hself]
      cases last? (· == e.1) es <;> rfl
    · have hnone : last? (· == key) [e] = none := by simp [last?, he]
      rw [get?_insert_of_ne e.2 t (Ne.symm he), hnone, Option.or_none]

theorem sorted_ofList (es : List (String × α)) : (ofList es).Sorted :=
  sorted_extend List.Pairwise.nil es

theorem get?_ofList (key : String) (es : List (String × α)) :
    get? key (ofList es) = (last? (· == key) es).map (·.2) :=
  (get?_extend key [] es).trans (Option.or_none ..)

/-- What is there under a key is what was given last under it. -/
theorem mem_ofList_iff : (key, a) ∈ ofList es ↔ last? (· == key) es = some (key, a) := by
  have hget := get?_ofList key es
  constructor
  · intro h
    rw [get?_of_mem (sorted_ofList es) h] at hget
    obtain ⟨e, hlast, rfl⟩ := Option.map_eq_some_iff.mp hget.symm
    obtain rfl := beq_iff_eq.mp (exists_of_last? hlast).1
    exact hlast
  · intro h
    rw [h] at hget
    exact mem_of_get? hget

theorem exists_mem_ofList {e : String × α} (h : e ∈ es) : ∃ a, (e.1, a) ∈ ofList es := by
  cases hlast : last? (· == e.1) es with
  | none => exact absurd hlast (last?_ne_none h (beq_self_eq_true e.1))
  | some e' =>
    obtain ⟨key, a⟩ := e'
    obtain rfl : key = e.1 := beq_iff_eq.mp (exists_of_last? hlast).1
    exact ⟨a, mem_ofList_iff.mpr hlast⟩

/-- Of the keys of a kind this one is the greatest, and this was given last under it. -/
structure Survives (p : String → Bool) (es : List (String × α)) (key : String) (a : α) : Prop where
  kind : p key = true
  last : last? (· == key) es = some (key, a)
  greatest : ∀ e ∈ es, p e.1 = true → e.1 ≤ key

theorem last?_ofList_eq_none_iff : last? p (ofList es) = none ↔ last? p es = none := by
  rw [last?_eq_none_iff, last?_eq_none_iff]
  constructor
  · intro h e he
    obtain ⟨a, hmem⟩ := exists_mem_ofList he
    exact h (e.1, a) hmem
  · rintro h ⟨key, a⟩ hmem
    exact h _ (mem_of_last? (mem_ofList_iff.mp hmem))

theorem survives_of_last? (h : last? p (ofList es) = some (key, a)) : Survives p es key a := by
  obtain ⟨hp, before, after, hes, hafter⟩ := exists_of_last? h
  constructor
  case kind => exact hp
  case last => exact mem_ofList_iff.mp (mem_of_last? h)
  case greatest =>
    intro e he hpe
    have hsorted := sorted_ofList es
    obtain ⟨b, hmem⟩ := exists_mem_ofList he
    rw [hes] at hsorted hmem
    rcases List.mem_append.mp hmem with hmem | hmem
    · exact ((List.pairwise_append.mp hsorted).2.2 _ hmem _ List.mem_cons_self).le
    · rcases List.mem_cons.mp hmem with heq | hmem
      · exact (congrArg Prod.fst heq).le
      · exact absurd hafter (last?_ne_none hmem hpe)

theorem Survives.mem (h : Survives p es key a) : (key, a) ∈ es := mem_of_last? h.last

theorem Survives.unique {other : String} {b : α} (h : Survives p es key a)
    (ho : Survives p es other b) : key = other ∧ a = b := by
  obtain rfl : key = other :=
    le_antisymm (ho.greatest _ h.mem h.kind) (h.greatest _ ho.mem ho.kind)
  have hlast := h.last
  rw [ho.last] at hlast
  cases hlast
  exact ⟨rfl, rfl⟩

/-- What was given last to a kind survives if it was given under the greatest key. -/
theorem survives_of_greatest {e : String × α} (hlast : last? p es = some e)
    (h : ∀ other ∈ es, p other.1 = true → other.1 ≤ e.1) : Survives p es e.1 e.2 := by
  have hkind := (exists_of_last? hlast).1
  refine ⟨hkind, last?_of_last? hlast (beq_self_eq_true e.1) ?_, h⟩
  intro key hkey
  rw [beq_iff_eq.mp hkey]
  exact hkind

end Collect

end Table

end Microversion
