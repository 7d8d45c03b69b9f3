import Mathlib.Data.List.Induction
import Mathlib.Data.List.TakeWhile
import Microversion.Storage.Path

/-! # The names on a path

A path that ends in a name is that name after the parts before it. The path with
another extension and the path of the directory that holds it share these parts.
-/

namespace Microversion.Storage.Path

/-- No piece holds a slash. -/
def IsClean (p : Path) : Prop := ∀ piece ∈ p.pieces, '/' ∉ piece.toList

theorem isClean_ofText (s : String) : (ofText s).IsClean := by
  intro piece h
  obtain ⟨cs, hcs, rfl⟩ := List.mem_map.mp h
  rw [String.toList_ofList]
  exact Text.not_mem_of_mem_splitAll hcs

theorem IsClean.parts {p : Path} (h : p.IsClean) : ∀ part ∈ p.parts, '/' ∉ part.toList :=
  fun part hp => h part (List.mem_filter.mp hp).1

section Trimming

variable {pieces way : List String} {name : String}

theorem trimmed_concat (h : isPart name = true) :
    trimmed (pieces ++ [name]) = pieces ++ [name] := by
  simp [trimmed, h]

theorem trimmed_concat_of_not (h : isPart name = false) :
    trimmed (pieces ++ [name]) = trimmed pieces := by
  simp [trimmed, h]

/-- The pieces up to the last one that leads somewhere. -/
theorem exists_trimmed (h : pieces.filter isPart = way ++ [name]) :
    ∃ before, trimmed pieces = before ++ [name] ∧ before.filter isPart = way := by
  induction pieces using List.reverseRecOn with
  | nil => simp at h
  | append_singleton pieces last ih =>
    rw [List.filter_append] at h
    cases hlast : isPart last with
    | true =>
      rw [List.filter_cons_of_pos hlast, List.filter_nil] at h
      obtain ⟨hway, hname⟩ := List.append_inj' h rfl
      cases hname
      exact ⟨pieces, trimmed_concat hlast, hway⟩
    | false =>
      rw [List.filter_cons_of_neg (by simp [hlast]), List.filter_nil, List.append_nil] at h
      rw [trimmed_concat_of_not hlast]
      exact ih h

theorem filter_trimmed (pieces : List String) :
    (trimmed pieces).filter isPart = pieces.filter isPart := by
  induction pieces using List.reverseRecOn with
  | nil => rfl
  | append_singleton pieces last ih =>
    cases hlast : isPart last with
    | true => rw [trimmed_concat hlast]
    | false => rw [trimmed_concat_of_not hlast, ih]; simp [hlast]

theorem trimmed_isPrefix (pieces : List String) : trimmed pieces <+: pieces := by
  have hsuffix := pieces.reverse.dropWhile_suffix (!isPart ·)
  rw [trimmed]
  simpa using List.reverse_prefix.mpr hsuffix

theorem mem_of_mem_trimmed {piece : String} (h : piece ∈ trimmed pieces) : piece ∈ pieces :=
  (trimmed_isPrefix pieces).subset h

end Trimming

section Names

variable {p : Path} {before way : List String} {name extension : String}

/-- A path that ends in a name ends in the piece that is the name. -/
theorem pieces_of_bare (hparts : p.parts = way ++ [name]) (hbare : p.ending = .bare) :
    ∃ before, p.pieces = before ++ [name] ∧ before.filter isPart = way := by
  have hne : p.parts.isEmpty = false := by simp [hparts]
  rcases List.eq_nil_or_concat p.pieces with hnil | ⟨before, last, hlast⟩
  · simp [parts, hnil] at hparts
  rw [List.concat_eq_append] at hlast
  have hpart : isPart last = true := by
    unfold ending at hbare
    split at hbare
    · next hnil =>
      have hall := List.dropWhile_eq_nil_iff.mp hnil
      have : p.parts = [] := List.filter_eq_nil_iff.mpr fun piece h => by
        have := hall piece (List.mem_reverse.mpr h)
        simp_all [isPart]
      simp [this] at hne
    · next z _ hz =>
      rw [hne] at hbare
      split at hbare
      · contradiction
      split at hbare
      · cases hbare
      split at hbare
      · cases hbare
      next hpoint hslash =>
        rw [hlast, List.getLast?_concat, Option.some.injEq] at hslash
        have hz : last = z := by
          simp only [hlast, List.reverse_append, List.reverse_singleton, List.singleton_append,
            List.dropWhile_cons, beq_iff_eq, hslash, if_false] at hz
          exact (List.cons_eq_cons.mp hz).1
        simp [isPart, hslash, hz ▸ hpoint]
  rw [parts, hlast, List.filter_append, List.filter_cons_of_pos hpart, List.filter_nil] at hparts
  obtain ⟨hway, hname⟩ := List.append_inj' hparts rfl
  cases hname
  exact ⟨before, hlast, hway⟩

theorem ending_concat (h : isPart name = true) : (⟨before ++ [name]⟩ : Path).ending = .bare := by
  have hname : name ≠ "" ∧ name ≠ "." := by simpa [isPart] using h
  simp [ending, hname]

theorem parts_concat (h : isPart name = true) :
    (⟨before ++ [name]⟩ : Path).parts = before.filter isPart ++ [name] := by
  simp [parts, h]

/-- The directory that holds the last name is where the parts before it lead. -/
theorem exists_parent (hparts : p.parts = way ++ [name]) :
    ∃ parent, p.parent? = some parent ∧ parent.parts = way ∧ (p.IsClean → parent.IsClean) := by
  obtain ⟨before, htrimmed, hway⟩ := exists_trimmed hparts
  have hne : p.parts.isEmpty = false := by simp [hparts]
  have hfilter : (trimmed before).filter isPart = way := (filter_trimmed before).trans hway
  have hsub : ∀ piece ∈ trimmed before, piece ∈ p.pieces := fun piece h => by
    have h := mem_of_mem_trimmed h
    exact mem_of_mem_trimmed (htrimmed ▸ List.mem_append_left _ h)
  rw [parent?, hne, htrimmed, List.dropLast_concat, if_neg Bool.false_ne_true]
  cases hcase : trimmed before with
  | nil =>
    rw [hcase] at hfilter
    refine ⟨_, rfl, ?_, fun _ => ?_⟩
    · rw [← hfilter]
      simp only [parts]
      split <;> rfl
    · intro piece hpiece
      simp only at hpiece
      split at hpiece <;> simp_all
  | cons first rest =>
    rw [hcase] at hfilter hsub
    exact ⟨_, rfl, hfilter, fun hclean piece hpiece => hclean piece (hsub piece hpiece)⟩

theorem isClean_of_parent? {parent : Path} (hclean : p.IsClean) (h : p.parent? = some parent) :
    parent.IsClean := by
  rcases List.eq_nil_or_concat p.parts with hnil | ⟨way, name, hconcat⟩
  · simp [parent?, hnil] at h
  · rw [List.concat_eq_append] at hconcat
    obtain ⟨parent', hparent, -, hclean'⟩ := exists_parent hconcat
    rw [h, Option.some.injEq] at hparent
    exact hparent ▸ hclean' hclean

theorem isPart_of_mem_parts (h : name ∈ p.parts) : isPart name = true := (List.mem_filter.mp h).2

theorem mem_of_mem_stem {cs : List Char} {c : Char} (h : c ∈ stem cs) : c ∈ cs := by
  unfold stem at h
  split at h
  · exact h
  · next before _ hsplit =>
    rw [Text.splitLast?_eq_some hsplit]
    exact List.mem_append_left _ h
  · exact h

theorem isPart_append (base : String) (h : extension ≠ "") :
    isPart (base ++ "." ++ extension) = true := by
  have hlength : 0 < extension.toList.length := by
    rw [List.length_pos_iff]
    simpa using h
  simp only [isPart, Bool.and_eq_true, bne_iff_ne]
  constructor
  · intro heq
    simp at heq
  · intro heq
    have := congrArg (fun s : String => s.toList.length) heq
    simp at this hlength
    omega

/-- The path with another extension has another last name after the same parts. -/
theorem exists_withExtension (hparts : p.parts = way ++ [name]) (hup : name ≠ "..")
    (hextension : extension ≠ "") :
    ∃ before new, trimmed p.pieces = before ++ [name] ∧ before.filter isPart = way ∧
      p.withExtension extension = ⟨before ++ [new]⟩ ∧ isPart new = true ∧
      ('/' ∉ name.toList → '/' ∉ extension.toList → '/' ∉ new.toList) := by
  obtain ⟨before, htrimmed, hway⟩ := exists_trimmed hparts
  have hlast : p.parts.getLast? = some name := by rw [hparts]; exact List.getLast?_concat
  refine ⟨before, if stem name.toList = ['.'] ∧ p.ending = .bare then ".."
    else String.ofList (stem name.toList) ++ "." ++ extension, htrimmed, hway, ?_, ?_, ?_⟩
  · simp only [withExtension, hlast, if_neg hup, htrimmed, List.dropLast_concat]
  · split
    · decide
    · exact isPart_append _ hextension
  · intro hname hslash
    split
    · decide
    · simp only [String.toList_append, String.toList_ofList, List.mem_append, not_or]
      exact ⟨⟨fun h => hname (mem_of_mem_stem h), by decide⟩, hslash⟩

theorem withExtension_of_up (h : ∀ way name, p.parts = way ++ [name] → name = "..") :
    p.withExtension extension = p := by
  rcases List.eq_nil_or_concat p.parts with hnil | ⟨way, name, hconcat⟩
  · simp [withExtension, hnil]
  · rw [List.concat_eq_append] at hconcat
    simp [withExtension, hconcat, h way name hconcat]

theorem parts_withExtension (hparts : p.parts = way ++ [name]) (hup : name ≠ "..")
    (hextension : extension ≠ "") : ∃ new, (p.withExtension extension).parts = way ++ [new] ∧
      (p.withExtension extension).ending = .bare ∧
      (p.ending = .bare → new = name → p.withExtension extension = p) := by
  obtain ⟨before, new, htrimmed, hway, heq, hpart, -⟩ :=
    exists_withExtension hparts hup hextension
  refine ⟨new, ?_, ?_, fun hbare hnew => ?_⟩
  · rw [heq, parts_concat hpart, hway]
  · rw [heq, ending_concat hpart]
  · obtain ⟨before', hpieces, -⟩ := pieces_of_bare hparts hbare
    have hname : isPart name = true :=
      isPart_of_mem_parts (by rw [hparts]; exact List.mem_append_right _ List.mem_cons_self)
    rw [hpieces, trimmed_concat hname] at htrimmed
    obtain ⟨rfl, -⟩ := List.append_inj' htrimmed rfl
    rw [heq, hnew, ← hpieces]

/-- A name comes from another extension of a name after the same parts. -/
theorem exists_parts_of_withExtension (hextension : extension ≠ "")
    (hparts : (p.withExtension extension).parts = way ++ [name]) (hup : name ≠ "..") :
    ∃ old, p.parts = way ++ [old] ∧ old ≠ ".." := by
  by_cases h : ∀ way name, p.parts = way ++ [name] → name = ".."
  · rw [withExtension_of_up h] at hparts
    exact absurd (h _ _ hparts) hup
  · push Not at h
    obtain ⟨way', old, hold, hup'⟩ := h
    obtain ⟨new, hnew, -⟩ := parts_withExtension hold hup' hextension
    obtain ⟨rfl, -⟩ := List.append_inj' (hnew.symm.trans hparts) rfl
    exact ⟨old, hold, hup'⟩

/-- A path that takes an extension ends in a name. -/
theorem ending_withExtension (hextension : extension ≠ "")
    (hparts : (p.withExtension extension).parts = way ++ [name]) (hup : name ≠ "..") :
    (p.withExtension extension).ending = .bare := by
  obtain ⟨old, hold, hup'⟩ := exists_parts_of_withExtension hextension hparts hup
  obtain ⟨_, -, hbare, -⟩ := parts_withExtension hold hup' hextension
  exact hbare

theorem isClean_withExtension (hextension : extension ≠ "") (hslash : '/' ∉ extension.toList)
    (h : p.IsClean) : (p.withExtension extension).IsClean := by
  by_cases hall : ∀ way name, p.parts = way ++ [name] → name = ".."
  · rwa [withExtension_of_up hall]
  · push Not at hall
    obtain ⟨way, name, hparts, hup⟩ := hall
    obtain ⟨before, new, htrimmed, -, heq, -, hnew⟩ := exists_withExtension hparts hup hextension
    have hname : '/' ∉ name.toList :=
      h.parts name (by rw [hparts]; exact List.mem_append_right _ List.mem_cons_self)
    intro piece hpiece
    rw [heq] at hpiece
    rcases List.mem_append.mp hpiece with hpiece | hpiece
    · exact h piece (mem_of_mem_trimmed (htrimmed ▸ List.mem_append_left _ hpiece))
    · rw [List.mem_singleton.mp hpiece]
      exact hnew hname hslash

end Names

section Sizes

theorem foldl_utf8ByteSize (pieces : List String) (n : Nat) :
    pieces.foldl (fun n piece => n + piece.utf8ByteSize) n =
      n + pieces.foldl (fun n piece => n + piece.utf8ByteSize) 0 := by
  induction pieces generalizing n with
  | nil => rfl
  | cons piece pieces ih =>
    rw [List.foldl_cons, List.foldl_cons, ih, ih (0 + piece.utf8ByteSize), Nat.zero_add,
      Nat.add_assoc]

theorem size_le_of_isPrefix {before pieces : List String} (h : before <+: pieces) :
    (⟨before⟩ : Path).size ≤ (⟨pieces⟩ : Path).size := by
  obtain ⟨after, rfl⟩ := h
  have hsum := foldl_utf8ByteSize before
  simp only [size, List.foldl_append, List.length_append]
  rw [foldl_utf8ByteSize after, hsum (before.length - 1), hsum (before.length + after.length - 1)]
  omega

theorem size_parent?_le {p parent : Path} (h : p.parent? = some parent) : parent.size ≤ p.size := by
  unfold parent? at h
  split at h
  · cases h
  split at h
  · cases h
    by_cases habsolute : p.absolute
    · have hlength : 1 < p.pieces.length := by
        simp only [absolute, Bool.and_eq_true, decide_eq_true_eq] at habsolute
        exact habsolute.2
      obtain ⟨pieces⟩ := p
      rw [if_pos habsolute, size, size, foldl_utf8ByteSize pieces]
      exact Nat.le_add_right_of_le (Nat.le_sub_one_of_lt hlength)
    · rw [if_neg habsolute]
      exact Nat.zero_le _
  · cases h
    exact size_le_of_isPrefix ((trimmed_isPrefix _).trans
      ((List.dropLast_prefix _).trans (trimmed_isPrefix _)))

end Sizes

end Microversion.Storage.Path
