import Mathlib.Data.List.DropRight
import Microversion.Endpoint
import Microversion.Proofs.Text.Pieces

/-! # The spellings of an endpoint

An endpoint may be written with slashes behind it and with a segment that names a
version. The client keeps all these texts as one, and a path comes behind that as it
is. Nothing is taken from the scheme or the authority, whatever they look like.
-/

namespace Microversion.Endpoint

section Slashes

variable {cs : List Char} {endpoint path : String} {rest : List Char}

theorem dropSlashes_dropSlashes (cs : List Char) :
    dropSlashes (dropSlashes cs) = dropSlashes cs := by
  rw [dropSlashes, dropSlashes, Text.dropEndWhile, Text.dropEndWhile, List.reverse_reverse,
    List.dropWhile_idempotent]

theorem dropSlashes_trim (url : String) :
    dropSlashes (trim url).toList = (trim url).toList := by
  rw [trim, String.toList_ofList]
  unfold trimChars
  dsimp only
  split
  · split
    · exact dropSlashes_dropSlashes _
    · exact dropSlashes_dropSlashes _
  · exact dropSlashes_dropSlashes _

/-- A target is put behind an endpoint as it is. -/
theorem toList_join (h : dropSlashes endpoint.toList = endpoint.toList)
    (hpath : path.toList = '/' :: rest) :
    (join endpoint path).toList = endpoint.toList ++ '/' :: rest := by
  rw [join, String.toList_ofList]
  unfold joinChars
  dsimp only
  rw [h, hpath]
  rfl

theorem dropSlashes_append_replicate (cs : List Char) (n : ℕ) :
    dropSlashes (cs ++ List.replicate n '/') = dropSlashes cs := by
  refine Text.dropEndWhile_append_of_all ?_
  intro c hc
  rw [List.eq_of_mem_replicate hc]
  rfl

theorem dropSlashes_of_getLast? (h : cs.getLast? ≠ some '/') : dropSlashes cs = cs := by
  rcases List.eq_nil_or_concat cs with rfl | ⟨init, c, rfl⟩
  · rfl
  · rw [List.concat_eq_append] at h ⊢
    rw [List.getLast?_concat, ne_eq, Option.some.injEq] at h
    exact Text.dropEndWhile_of_last (beq_eq_false_iff_ne.mpr h)

/-- Nothing but slashes is dropped. -/
theorem exists_dropSlashes (cs : List Char) :
    ∃ n, cs = dropSlashes cs ++ List.replicate n '/' := by
  obtain ⟨after, hcs, hslash, -⟩ := Text.exists_dropEndWhile (· == '/') cs
  refine ⟨after.length, ?_⟩
  rw [← List.eq_replicate_of_mem fun c hc => beq_iff_eq.mp (hslash c hc)]
  exact hcs

end Slashes

/-- The segment is a `v` and digits. -/
def NamesVersion (segment : List Char) : Prop :=
  ∃ digits, segment = 'v' :: digits ∧ digits ≠ [] ∧ ∀ c ∈ digits, c.isDigit = true

/-- A scheme, an authority and a path that does not end in a slash or in a version. -/
structure IsStem (scheme authority path : String) : Prop where
  scheme_slash : '/' ∉ scheme.toList
  authority_slash : '/' ∉ authority.toList
  authority_ne : authority.toList ≠ []
  path_starts : ∀ c ∈ path.toList.head?, c = '/'
  path_ends : path.toList.getLast? ≠ some '/'
  path_segment : ∀ before segment, path.toList = before ++ '/' :: segment → '/' ∉ segment →
    ¬NamesVersion segment

/-- The endpoint of a scheme, an authority and a path. -/
def stem (scheme authority path : String) : String := scheme ++ "://" ++ authority ++ path

/-- Any number of slashes. -/
def slashes (n : ℕ) : String := String.ofList (List.replicate n '/')

/-- A text is the endpoint with slashes behind it, and maybe a version between them. -/
inductive Spells (endpoint : String) : String → Prop where
  | plain (n : ℕ) : Spells endpoint (endpoint ++ slashes n)
  | versioned (k n : ℕ) {segment : String} (h : NamesVersion segment.toList) :
      Spells endpoint (endpoint ++ slashes (k + 1) ++ segment ++ slashes n)

section Segments

variable {segment : List Char}

theorem isVersionSegment_iff : isVersionSegment segment = true ↔ NamesVersion segment := by
  unfold isVersionSegment NamesVersion
  split
  · next digits =>
    rw [Bool.and_eq_true, Bool.not_eq_true', List.isEmpty_eq_false_iff, List.all_eq_true]
    constructor
    · rintro ⟨hne, hdigit⟩
      exact ⟨digits, rfl, hne, hdigit⟩
    · rintro ⟨digits', heq, hne, hdigit⟩
      cases heq
      exact ⟨hne, hdigit⟩
  · next hnot =>
    simp only [Bool.false_eq_true, false_iff]
    rintro ⟨digits, rfl, -⟩
    exact hnot digits rfl

theorem NamesVersion.not_mem (h : NamesVersion segment) : '/' ∉ segment := by
  obtain ⟨digits, rfl, -, hdigit⟩ := h
  rw [List.mem_cons, not_or]
  exact ⟨by decide, fun hmem => absurd (hdigit '/' hmem) (by decide)⟩

theorem NamesVersion.ne_nil (h : NamesVersion segment) : segment ≠ [] := by
  obtain ⟨digits, rfl, -⟩ := h
  exact List.cons_ne_nil _ _

end Segments

/-! ## What is kept -/

section Trim

variable {cs base segment : List Char}

theorem getLast?_append_ne (hne : segment ≠ []) (h : '/' ∉ segment) :
    (cs ++ segment).getLast? ≠ some '/' := by
  rw [List.getLast?_append_of_ne_nil _ hne]
  intro hlast
  exact h (List.mem_of_getLast? hlast)

/-- A last segment stays unless it names a version below an authority. -/
theorem trimChars_of_segment (hne : segment ≠ []) (hslash : '/' ∉ segment)
    (h : Text.occursIn [':', '/', '/'] base = true → ¬NamesVersion segment) :
    trimChars (base ++ '/' :: segment) = base ++ '/' :: segment := by
  have hdrop : dropSlashes (base ++ '/' :: segment) = base ++ '/' :: segment := by
    rw [← List.singleton_append, ← List.append_assoc]
    exact dropSlashes_of_getLast? (getLast?_append_ne hne hslash)
  have hnot : ¬(Text.occursIn [':', '/', '/'] base = true ∧ isVersionSegment segment = true) := by
    rintro ⟨hbase, hversion⟩
    exact h hbase (isVersionSegment_iff.mp hversion)
  unfold trimChars
  dsimp only
  rw [hdrop, Text.splitLast?_append base hslash]
  exact if_neg hnot

theorem trimChars_of_version (hbase : Text.occursIn [':', '/', '/'] base = true)
    (h : NamesVersion segment) : trimChars (base ++ '/' :: segment) = dropSlashes base := by
  have hdrop : dropSlashes (base ++ '/' :: segment) = base ++ '/' :: segment := by
    rw [← List.singleton_append, ← List.append_assoc]
    exact dropSlashes_of_getLast? (getLast?_append_ne h.ne_nil h.not_mem)
  unfold trimChars
  dsimp only
  rw [hdrop, Text.splitLast?_append base h.not_mem]
  exact if_pos ⟨hbase, isVersionSegment_iff.mpr h⟩

theorem trimChars_append_replicate (cs : List Char) (n : ℕ) :
    trimChars (cs ++ List.replicate n '/') = trimChars cs := by
  unfold trimChars
  rw [dropSlashes_append_replicate]

/-- Every text spells what is kept of it. -/
theorem spells_trim (text : String) : Spells (trim text) text := by
  obtain ⟨n, htext⟩ := exists_dropSlashes text.toList
  have hplain : Spells (String.ofList (dropSlashes text.toList)) text := by
    have heq : text = String.ofList (dropSlashes text.toList) ++ slashes n := by
      rw [← String.toList_inj, String.toList_append, slashes, String.toList_ofList,
        String.toList_ofList, ← htext]
    have hspells := @Spells.plain (String.ofList (dropSlashes text.toList)) n
    rwa [← heq] at hspells
  unfold trim trimChars
  dsimp only
  split
  · next base segment hsplit =>
    split
    · next hversion =>
      obtain ⟨k, hk⟩ := exists_dropSlashes base
      have heq : text = String.ofList (dropSlashes base) ++ slashes (k + 1) ++
          String.ofList segment ++ slashes n := by
        rw [← String.toList_inj, htext, Text.splitLast?_eq_some hsplit]
        conv_lhs => rw [hk]
        simp [slashes, List.replicate_succ']
      have hnames : NamesVersion (String.ofList segment).toList := by
        rw [String.toList_ofList]
        exact isVersionSegment_iff.mp hversion.2
      have hspells := @Spells.versioned (String.ofList (dropSlashes base)) k n _ hnames
      rwa [← heq] at hspells
    · exact hplain
  · exact hplain

end Trim

section Stem

variable {scheme authority path text target : String}

theorem toList_stem (scheme authority path : String) :
    (stem scheme authority path).toList =
      scheme.toList ++ ':' :: '/' :: '/' :: (authority.toList ++ path.toList) := by
  simp [stem]

theorem occursIn_stem (scheme authority path : String) (more : List Char) :
    Text.occursIn [':', '/', '/'] ((stem scheme authority path).toList ++ more) = true := by
  rw [Text.occursIn_iff, toList_stem]
  exact ⟨scheme.toList, authority.toList ++ path.toList ++ more, by simp⟩

/-- What stands before the authority is no scheme with two slashes. -/
theorem not_occursIn_scheme (h : '/' ∉ scheme.toList) :
    Text.occursIn [':', '/', '/'] (scheme.toList ++ [':', '/']) ≠ true := by
  rw [ne_eq, Text.occursIn_iff]
  intro hinfix
  have hcount := hinfix.sublist.count_le '/'
  rw [List.count_append, List.count_eq_zero_of_not_mem h] at hcount
  exact absurd hcount (by decide)

theorem exists_last_slash {cs : List Char} (h : '/' ∈ cs) :
    ∃ before segment, cs = before ++ '/' :: segment ∧ '/' ∉ segment := by
  obtain ⟨after, before, hcs, hafter⟩ := List.eq_append_cons_of_mem (List.mem_reverse.mpr h)
  refine ⟨before.reverse, after.reverse, ?_, fun hmem => hafter (List.mem_reverse.mp hmem)⟩
  rw [← List.reverse_reverse cs, hcs]
  simp

/-- A stem ends in a segment that names no version, or in its authority. -/
theorem IsStem.exists_segment (h : IsStem scheme authority path) :
    ∃ base segment, (stem scheme authority path).toList = base ++ '/' :: segment ∧
      segment ≠ [] ∧ '/' ∉ segment ∧
      (Text.occursIn [':', '/', '/'] base = true → ¬NamesVersion segment) := by
  by_cases hpath : '/' ∈ path.toList
  · obtain ⟨before, segment, hlast, hslash⟩ := exists_last_slash hpath
    refine ⟨scheme.toList ++ ':' :: '/' :: '/' :: (authority.toList ++ before), segment, ?_, ?_,
      hslash, fun _ => h.path_segment before segment hlast hslash⟩
    · rw [toList_stem, hlast]
      simp
    · rintro rfl
      exact h.path_ends (by rw [hlast, List.getLast?_concat])
  · have hnil : path.toList = [] := by
      cases hp : path.toList with
      | nil => rfl
      | cons c rest =>
        have hc := h.path_starts c (by rw [hp]; rfl)
        exact absurd (by rw [hp, hc]; exact List.mem_cons_self) hpath
    refine ⟨scheme.toList ++ [':', '/'], authority.toList, ?_, h.authority_ne, h.authority_slash,
      fun hscheme => absurd hscheme (not_occursIn_scheme h.scheme_slash)⟩
    rw [toList_stem, hnil]
    simp

theorem IsStem.dropSlashes_eq (h : IsStem scheme authority path) :
    dropSlashes (stem scheme authority path).toList = (stem scheme authority path).toList := by
  obtain ⟨base, segment, hstem, hne, hslash, -⟩ := h.exists_segment
  rw [hstem, ← List.singleton_append, ← List.append_assoc]
  exact dropSlashes_of_getLast? (getLast?_append_ne hne hslash)

theorem IsStem.trimChars_eq (h : IsStem scheme authority path) :
    trimChars (stem scheme authority path).toList = (stem scheme authority path).toList := by
  obtain ⟨base, segment, hstem, hne, hslash, hversion⟩ := h.exists_segment
  rw [hstem, trimChars_of_segment hne hslash hversion]

theorem IsStem.trim_eq (h : IsStem scheme authority path)
    (hs : Spells (stem scheme authority path) text) : trim text = stem scheme authority path := by
  rw [← String.toList_inj, trim, String.toList_ofList]
  cases hs with
  | plain n =>
    rw [String.toList_append, slashes, String.toList_ofList, trimChars_append_replicate,
      h.trimChars_eq]
  | @versioned k n segment hsegment =>
    have hbase := occursIn_stem scheme authority path (List.replicate k '/')
    have htext : (stem scheme authority path ++ slashes (k + 1) ++ segment ++ slashes n).toList =
        (stem scheme authority path).toList ++ List.replicate k '/' ++ '/' :: segment.toList ++
          List.replicate n '/' := by
      simp [slashes, List.replicate_succ']
    rw [htext, trimChars_append_replicate, trimChars_of_version hbase hsegment,
      dropSlashes_append_replicate, h.dropSlashes_eq]

/-- What is kept of a text is a stem exactly if the text spells that stem, and then a path that
starts with a slash is put right behind it. -/
theorem trim_eq_stem_iff (h : IsStem scheme authority path) :
    (∀ text, trim text = stem scheme authority path ↔ Spells (stem scheme authority path) text) ∧
    ∀ text target, Spells (stem scheme authority path) text → target.toList.head? = some '/' →
      join (trim text) target = stem scheme authority path ++ target := by
  constructor
  · intro text
    constructor
    · intro htrim
      exact htrim ▸ spells_trim text
    · exact h.trim_eq
  · intro text target hs htarget
    obtain ⟨rest, hrest⟩ := List.head?_eq_some_iff.mp htarget
    rw [h.trim_eq hs, ← String.toList_inj, toList_join h.dropSlashes_eq hrest,
      String.toList_append, hrest]

/-- An authority that looks like a version stays, and so does a segment that is not quite one. -/
theorem trim_eq_stem_iff_versions :
    IsStem "http" "v1" "/v2/v1beta" ∧
      Spells "http://v1/v2/v1beta" "http://v1/v2/v1beta///v10//" ∧
      trim "http://v1/v2/v1beta///v10//" = "http://v1/v2/v1beta" ∧
      join (trim "http://v1/v2/v1beta///v10//") "/v1/nodes" = "http://v1/v2/v1beta/v1/nodes" := by
  have hstem : IsStem "http" "v1" "/v2/v1beta" := by
    refine ⟨by simp, by simp, by simp, by simp, by simp, ?_⟩
    intro before segment hpath hslash hversion
    have hsplit := Text.splitLast?_append before hslash
    rw [← hpath] at hsplit
    cases hsplit
    exact absurd (isVersionSegment_iff.mpr hversion) (by decide)
  have hversion : NamesVersion "v10".toList := isVersionSegment_iff.mp (by decide)
  have hspells : Spells "http://v1/v2/v1beta" "http://v1/v2/v1beta///v10//" :=
    .versioned 2 2 hversion
  obtain ⟨htrim, hjoin⟩ := trim_eq_stem_iff hstem
  exact ⟨hstem, hspells, (htrim _).mpr hspells, hjoin _ "/v1/nodes" hspells (by decide)⟩

example : trim "http://v1/v2" = "http://v1" := rfl

end Stem

end Microversion.Endpoint
