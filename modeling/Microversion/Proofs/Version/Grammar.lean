import Mathlib.Data.List.Forall2
import Microversion.Proofs.Text.Pieces
import Microversion.Version.Parser

/-! # What texts ask for

A version is spelled by two runs of digits with a point between them. A text without
blanks around it asks for the newest version, for one version, or for any of the
versions between its commas. Of any other text the first piece that is no version says
what is wrong with it.
-/

namespace Microversion

namespace Text

/-- Digits that write a number; zeros in front of it do not count. -/
structure Writes (cs : List Char) (n : Nat) : Prop where
  ne_nil : cs ≠ []
  isDigit : ∀ c ∈ cs, c.isDigit = true
  value : Nat.ofDigitChars 10 cs 0 = n

theorem valueBelow?_eq_some_iff {bound n : Nat} {cs : List Char} :
    valueBelow? bound cs = some n ↔ Writes cs n ∧ n < bound := by
  rw [valueBelow?_eq_some]
  constructor
  · rintro ⟨hne, hdigit, hvalue, hlt⟩
    exact ⟨⟨hne, hdigit, hvalue⟩, hlt⟩
  · rintro ⟨⟨hne, hdigit, hvalue⟩, hlt⟩
    exact ⟨hne, hdigit, hvalue, hlt⟩

theorem toNat_of_isDigit {c : Char} (h : c.isDigit = true) : 48 ≤ c.toNat ∧ c.toNat ≤ 57 := by
  simp only [Char.isDigit, Bool.and_eq_true, decide_eq_true_eq, ge_iff_le,
    UInt32.le_iff_toNat_le] at h
  exact h

theorem Writes.not_mem {cs : List Char} {n : Nat} {c : Char} (h : Writes cs n)
    (hc : c.isDigit = false) : c ∉ cs := by
  intro hmem
  rw [h.isDigit c hmem] at hc
  cases hc

end Text

namespace Version

/-- The characters are two numbers with a point between them, which are those of the version. -/
def SpelledBy (v : Version) (cs : List Char) : Prop :=
  ∃ major minor, cs = major ++ '.' :: minor ∧ Text.Writes major v.major.toNat ∧
    Text.Writes minor v.minor.toNat

section SpelledBy

variable {v : Version} {cs : List Char}

theorem component?_eq_some_iff {n : UInt32} :
    component? cs = some n ↔ Text.Writes cs n.toNat := by
  unfold component?
  constructor
  · intro h
    obtain ⟨m, hm, rfl⟩ := Option.map_eq_some_iff.mp h
    obtain ⟨hwrites, hlt⟩ := Text.valueBelow?_eq_some_iff.mp hm
    rwa [UInt32.toNat_ofNat_of_lt' hlt]
  · intro h
    rw [Text.valueBelow?_eq_some_iff.mpr ⟨h, n.toNat_lt⟩, Option.map_some, UInt32.ofNat_toNat]

theorem ofChars?_eq_some_iff : ofChars? cs = some v ↔ v.SpelledBy cs := by
  unfold ofChars?
  constructor
  · intro h
    split at h
    · cases h
    · next major minor hsplit =>
      split at h
      · next a b ha hb =>
        cases h
        exact ⟨major, minor, (Text.splitFirst?_eq_some hsplit).1, component?_eq_some_iff.mp ha,
          component?_eq_some_iff.mp hb⟩
      · cases h
  · rintro ⟨major, minor, rfl, hmajor, hminor⟩
    rw [Text.splitFirst?_append (hmajor.not_mem (by decide)) minor]
    dsimp only
    rw [component?_eq_some_iff.mpr hmajor, component?_eq_some_iff.mpr hminor]

theorem spelledBy_chars (v : Version) : v.SpelledBy v.chars :=
  ofChars?_eq_some_iff.mp (ofChars?_chars v)

theorem SpelledBy.not_mem {c : Char} (h : v.SpelledBy cs) (hpoint : c ≠ '.')
    (hc : c.isDigit = false) : c ∉ cs := by
  obtain ⟨major, minor, rfl, hmajor, hminor⟩ := h
  simp [hmajor.not_mem hc, hminor.not_mem hc, hpoint]

theorem not_isBlank_of_isDigit {c : Char} (h : c.isDigit = true) : Text.isBlank c = false := by
  have hrange := Text.toNat_of_isDigit h
  simp only [Text.isBlank, Bool.or_eq_false_iff, Bool.and_eq_false_iff, decide_eq_false_iff_not,
    beq_eq_false_iff_ne]
  omega

/-- A version neither begins nor ends with a blank. -/
theorem SpelledBy.trims {piece : List Char} (h : v.SpelledBy cs) (ha : Text.Surrounds piece cs) :
    Text.Trims piece cs := by
  obtain ⟨major, minor, rfl, hmajor, hminor⟩ := h
  refine ⟨ha, ?_, ?_⟩
  · intro c hc
    rw [List.head?_append_of_ne_nil _ hmajor.ne_nil] at hc
    exact not_isBlank_of_isDigit (hmajor.isDigit c (List.mem_of_head? hc))
  · intro c hc
    rw [List.getLast?_append_of_ne_nil _ (List.cons_ne_nil _ _),
      List.getLast?_cons_of_ne_nil hminor.ne_nil] at hc
    exact not_isBlank_of_isDigit (hminor.isDigit c (List.mem_of_getLast? hc))

theorem parse_eq_ok_iff {s : String} : Version.parse s = .ok v ↔ v.SpelledBy s.toList := by
  rw [← ofChars?_eq_some_iff, Version.parse, ofText?]
  cases ofChars? s.toList <;> simp

theorem parse_eq_error_iff {s : String} {e : Error} :
    Version.parse s = .error e ↔ e = .invalidVersion s ∧ ∀ v : Version, ¬v.SpelledBy s.toList := by
  simp only [← ofChars?_eq_some_iff, Version.parse, ofText?]
  cases ofChars? s.toList with
  | none => simp [eq_comm]
  | some v => simp

end SpelledBy

end Version

namespace Requested

/-- A version with blanks around it. -/
def IsCandidate (piece : List Char) (v : Version) : Prop :=
  ∃ core, Text.Trims piece core ∧ v.SpelledBy core

/-- Why a piece between commas is no version. -/
inductive Offends (piece : List Char) : Error → Prop where
  | latest (h : Text.Trims piece latestWord.toList) : Offends piece (.validation .latestInList)
  | malformed {core : List Char} (h : Text.Trims piece core) (hlatest : core ≠ latestWord.toList)
      (hversion : ∀ v : Version, ¬v.SpelledBy core) :
      Offends piece (.invalidVersion (String.ofList core))

/-- What a text without blanks around it asks for, or why it asks for nothing. -/
inductive Means : List Char → Except Error Requested → Prop where
  | latest : Means latestWord.toList (.ok .latest)
  | pinned {cs : List Char} {v : Version} (hcomma : ',' ∉ cs) (h : v.SpelledBy cs) :
      Means cs (.ok (.pinned v))
  | malformed {cs : List Char} (hcomma : ',' ∉ cs) (hlatest : cs ≠ latestWord.toList)
      (hversion : ∀ v : Version, ¬v.SpelledBy cs) :
      Means cs (.error (.invalidVersion (String.ofList cs)))
  | anyOf {pieces : List (List Char)} {vs : List Version} (htwo : 2 ≤ pieces.length)
      (hcomma : ∀ p ∈ pieces, ',' ∉ p) (h : List.Forall₂ IsCandidate pieces vs) :
      Means (Text.joinWith [','] pieces) (.ok (.anyOf vs))
  | offended {before after : List (List Char)} {piece : List Char} {e : Error}
      (htwo : 2 ≤ (before ++ piece :: after).length)
      (hcomma : ∀ p ∈ before ++ piece :: after, ',' ∉ p)
      (h : ∀ p ∈ before, ∃ v, IsCandidate p v) (he : Offends piece e) :
      Means (Text.joinWith [','] (before ++ piece :: after)) (.error e)

section Candidates

variable {piece : List Char} {pieces : List (List Char)} {v : Version} {vs : List Version}
  {e : Error}

/-- The word for the newest version spells none. -/
theorem not_spelledBy_latestWord (v : Version) : ¬v.SpelledBy latestWord.toList := by
  rintro ⟨major, minor, hword, -⟩
  have hpoint : '.' ∉ latestWord.toList := by decide
  exact hpoint (hword ▸ List.mem_append_right major List.mem_cons_self)

theorem parseCandidate_eq_ok_iff : parseCandidate piece = .ok v ↔ IsCandidate piece v := by
  simp only [IsCandidate, Text.trims_iff, exists_eq_left', parseCandidate]
  split
  · next h =>
    have hword : Text.trimChars piece = latestWord.toList := by rw [← h, String.toList_ofList]
    simp [hword, not_spelledBy_latestWord]
  · rw [Version.parse_eq_ok_iff, String.toList_ofList]

theorem parseCandidate_eq_error_iff : parseCandidate piece = .error e ↔ Offends piece e := by
  unfold parseCandidate
  constructor
  · intro h
    dsimp only at h
    split at h
    · next hword =>
      cases h
      refine .latest (Text.trims_iff.mpr ?_)
      rw [← hword, String.toList_ofList]
    · next hword =>
      obtain ⟨rfl, hversion⟩ := Version.parse_eq_error_iff.mp h
      rw [String.toList_ofList] at hversion
      refine .malformed (Text.trims_trimChars piece) ?_ hversion
      rintro hcore
      rw [hcore, String.ofList_toList] at hword
      exact hword rfl
  · rintro (h | ⟨h, hlatest, hversion⟩)
    · rw [Text.trims_iff.mp h, String.ofList_toList]
      rfl
    · rw [Text.trims_iff.mp h]
      dsimp only
      rw [if_neg, Version.parse_eq_error_iff, String.toList_ofList]
      · exact ⟨rfl, hversion⟩
      · rintro hword
        rw [← hword, String.toList_ofList] at hlatest
        exact hlatest rfl

theorem parseCandidates_eq_ok_iff :
    parseCandidates pieces = .ok vs ↔ List.Forall₂ IsCandidate pieces vs := by
  induction pieces generalizing vs with
  | nil => simp [parseCandidates, eq_comm]
  | cons p ps ih =>
    rw [List.forall₂_cons_left_iff, parseCandidates]
    cases hp : parseCandidate p with
    | error e =>
      simp only [reduceCtorEq, false_iff]
      rintro ⟨v, us, hv, -⟩
      rw [parseCandidate_eq_ok_iff.mpr hv] at hp
      cases hp
    | ok v =>
      have hv := parseCandidate_eq_ok_iff.mp hp
      constructor
      · intro h
        cases hps : parseCandidates ps with
        | error e =>
          rw [hps] at h
          cases h
        | ok us =>
          rw [hps] at h
          cases h
          exact ⟨v, us, hv, ih.mp hps, rfl⟩
      · rintro ⟨w, us, hw, hus, rfl⟩
        rw [parseCandidate_eq_ok_iff.mpr hw] at hp
        cases hp
        dsimp only
        rw [ih.mpr hus]
        rfl

theorem exists_of_candidates (h : List.Forall₂ IsCandidate pieces vs) (hp : piece ∈ pieces) :
    ∃ v, IsCandidate piece v := by
  induction h with
  | nil => cases hp
  | @cons p v ps vs hv _ ih =>
    rcases List.mem_cons.mp hp with rfl | hp
    · exact ⟨v, hv⟩
    · exact ih hp

/-- A list fails for the first of its pieces that is no version. -/
theorem parseCandidates_eq_error_iff :
    parseCandidates pieces = .error e ↔ ∃ before piece after,
      pieces = before ++ piece :: after ∧ (∀ p ∈ before, ∃ v, IsCandidate p v) ∧
        Offends piece e := by
  induction pieces with
  | nil => simp [parseCandidates]
  | cons p ps ih =>
    rw [parseCandidates]
    cases hp : parseCandidate p with
    | error e' =>
      have he' := parseCandidate_eq_error_iff.mp hp
      constructor
      · rintro ⟨⟩
        exact ⟨[], p, ps, rfl, by simp, he'⟩
      · rintro ⟨before, piece, after, hpieces, hbefore, he⟩
        cases before with
        | nil =>
          cases hpieces
          rw [parseCandidate_eq_error_iff.mpr he] at hp
          cases hp
          rfl
        | cons q before =>
          cases hpieces
          obtain ⟨v, hv⟩ := hbefore p List.mem_cons_self
          rw [parseCandidate_eq_ok_iff.mpr hv] at hp
          cases hp
    | ok v =>
      have hv := parseCandidate_eq_ok_iff.mp hp
      have hmap : (parseCandidates ps).map (v :: ·) = .error e ↔ parseCandidates ps = .error e := by
        cases parseCandidates ps <;> simp [Except.map]
      dsimp only
      rw [hmap, ih]
      constructor
      · rintro ⟨before, piece, after, rfl, hbefore, he⟩
        refine ⟨p :: before, piece, after, rfl, ?_, he⟩
        rintro q hq
        rcases List.mem_cons.mp hq with rfl | hq
        · exact ⟨v, hv⟩
        · exact hbefore q hq
      · rintro ⟨before, piece, after, hpieces, hbefore, he⟩
        cases before with
        | nil =>
          cases hpieces
          rw [parseCandidate_eq_error_iff.mpr he] at hp
          cases hp
        | cons q before =>
          cases hpieces
          exact ⟨before, piece, after, rfl, fun r hr => hbefore r (List.mem_cons_of_mem _ hr), he⟩

/-- Candidates are read alike where their cores are the same. -/
theorem parseCandidates_congr {qs : List (List Char)}
    (h : pieces.map Text.trimChars = qs.map Text.trimChars) :
    parseCandidates pieces = parseCandidates qs := by
  induction pieces generalizing qs with
  | nil => rw [List.map_nil, eq_comm, List.map_eq_nil_iff] at h; rw [h]
  | cons p ps ih =>
    cases qs with
    | nil => cases h
    | cons q qs =>
      obtain ⟨hp, hps⟩ := List.cons_eq_cons.mp h
      rw [parseCandidates, parseCandidates, parseCandidate, parseCandidate, hp, ih hps]

end Candidates

section Parse

variable {s : String} {cs core : List Char} {r : Except Error Requested}

theorem ofCandidates_pieces {pieces : List (List Char)} (hne : pieces ≠ []) :
    ofCandidates (pieces.map String.ofList) = (parseCandidates pieces).map .anyOf := by
  have hmap : (pieces.map String.ofList).map String.toList = pieces := by simp
  rw [ofCandidates, hmap]
  cases hps : parseCandidates pieces with
  | error e => rfl
  | ok vs =>
    cases vs with
    | nil => exact absurd (List.forall₂_nil_right_iff.mp (parseCandidates_eq_ok_iff.mp hps)) hne
    | cons v vs => rfl

/-- What is read of the core of a text. -/
theorem parse_of_trims (h : Text.Trims s.toList core) :
    parse s = if core = latestWord.toList then .ok .latest
      else if ',' ∈ core then (parseCandidates (Text.splitAll ',' core)).map .anyOf
      else (Version.parse (String.ofList core)).map .pinned := by
  rw [parse, Text.trims_iff.mp h, ofCandidates_pieces (Text.splitAll_ne_nil ',' core)]

theorem mem_joinWith {pieces : List (List Char)} (htwo : 2 ≤ pieces.length)
    (hcomma : ∀ p ∈ pieces, ',' ∉ p) : ',' ∈ Text.joinWith [','] pieces := by
  have hne : pieces ≠ [] := List.ne_nil_of_length_pos (by omega)
  have hlength := Text.length_splitAll ',' (Text.joinWith [','] pieces)
  rw [Text.splitAll_joinWith hne hcomma] at hlength
  exact List.count_pos_iff.mp (by omega)

theorem Means.eq (h : Means core r) :
    (if core = latestWord.toList then .ok .latest
      else if ',' ∈ core then (parseCandidates (Text.splitAll ',' core)).map .anyOf
      else (Version.parse (String.ofList core)).map .pinned) = r := by
  have hlatest : ∀ {pieces : List (List Char)}, 2 ≤ pieces.length → (∀ p ∈ pieces, ',' ∉ p) →
      Text.joinWith [','] pieces ≠ latestWord.toList := by
    intro pieces htwo hcomma hword
    have hmem := mem_joinWith htwo hcomma
    rw [hword] at hmem
    exact absurd hmem (by decide)
  cases h with
  | latest => rw [if_pos rfl]
  | @pinned _ v hcomma h =>
    have hne : core ≠ latestWord.toList := by
      rintro rfl
      exact not_spelledBy_latestWord v h
    have hv : Version.parse (String.ofList core) = .ok v := by
      rw [Version.parse_eq_ok_iff, String.toList_ofList]
      exact h
    rw [if_neg hne, if_neg hcomma, hv]
    rfl
  | malformed hcomma hne hversion =>
    have he : Version.parse (String.ofList core) =
        .error (.invalidVersion (String.ofList core)) := by
      rw [Version.parse_eq_error_iff, String.toList_ofList]
      exact ⟨rfl, hversion⟩
    rw [if_neg hne, if_neg hcomma, he]
    rfl
  | @anyOf pieces vs htwo hcomma h =>
    have hne : pieces ≠ [] := List.ne_nil_of_length_pos (by omega)
    rw [if_neg (hlatest htwo hcomma), if_pos (mem_joinWith htwo hcomma),
      Text.splitAll_joinWith hne hcomma, parseCandidates_eq_ok_iff.mpr h]
    rfl
  | @offended before after piece e htwo hcomma h he =>
    have hne : before ++ piece :: after ≠ [] := List.append_ne_nil_of_right_ne_nil _ (by simp)
    rw [if_neg (hlatest htwo hcomma), if_pos (mem_joinWith htwo hcomma),
      Text.splitAll_joinWith hne hcomma,
      parseCandidates_eq_error_iff.mpr ⟨before, piece, after, rfl, h, he⟩]
    rfl

theorem means_parse (h : Text.Trims s.toList core) : Means core (parse s) := by
  rw [parse_of_trims h]
  split
  · next hword =>
    rw [hword]
    exact .latest
  · next hword =>
    split
    · next hmem =>
      -- the text is what its pieces are joined to, of which there are two at least
      have hfree : ∀ p ∈ Text.splitAll ',' core, ',' ∉ p := fun p => Text.not_mem_of_mem_splitAll
      have htwo : 2 ≤ (Text.splitAll ',' core).length := by
        have hpos := List.count_pos_iff.mpr hmem
        rw [Text.length_splitAll]
        omega
      have hjoin := Text.joinWith_splitAll ',' core
      generalize Text.splitAll ',' core = pieces at hfree htwo hjoin
      subst hjoin
      cases hps : parseCandidates pieces with
      | ok vs => exact .anyOf htwo hfree (parseCandidates_eq_ok_iff.mp hps)
      | error e =>
        obtain ⟨before, piece, after, rfl, hbefore, he⟩ := parseCandidates_eq_error_iff.mp hps
        exact .offended htwo hfree hbefore he
    · next hmem =>
      cases hv : Version.parse (String.ofList core) with
      | ok v =>
        rw [Version.parse_eq_ok_iff, String.toList_ofList] at hv
        exact .pinned hmem hv
      | error e =>
        obtain ⟨rfl, hversion⟩ := Version.parse_eq_error_iff.mp hv
        rw [String.toList_ofList] at hversion
        exact .malformed hmem hword hversion

/-- Reading a text gives what its core means and nothing else. -/
theorem parse_eq_iff : parse s = r ↔ ∃ core, Text.Trims s.toList core ∧ Means core r := by
  constructor
  · rintro rfl
    have htrims := Text.trims_trimChars s.toList
    exact ⟨_, htrims, means_parse htrims⟩
  · rintro ⟨core, htrims, h⟩
    rw [parse_of_trims htrims, h.eq]

/-- A text with a comma is read piece by piece, with the blanks around it or without them. -/
theorem parse_of_comma (h : ',' ∈ s.toList) :
    parse s = (parseCandidates (Text.splitAll ',' s.toList)).map .anyOf := by
  have htrims := Text.trims_trimChars s.toList
  have hcomma : ',' ∈ Text.trimChars s.toList := (htrims.mem_iff (by decide)).mp h
  have hlatest : Text.trimChars s.toList ≠ latestWord.toList := by
    intro hword
    rw [hword] at hcomma
    exact absurd hcomma (by decide)
  rw [parse_of_trims htrims, if_neg hlatest, if_pos hcomma,
    parseCandidates_congr (Text.map_trimChars_splitAll (by decide) s.toList)]

/-- What is asked for by a list of versions, joined by commas. -/
theorem parse_of_pieces {pieces : List (List Char)} (htwo : 2 ≤ pieces.length)
    (hcomma : ∀ p ∈ pieces, ',' ∉ p) :
    parse (String.ofList (Text.joinWith [','] pieces)) = (parseCandidates pieces).map .anyOf := by
  have hne : pieces ≠ [] := List.ne_nil_of_length_pos (by omega)
  have hmem := mem_joinWith htwo hcomma
  rw [← String.toList_ofList (l := Text.joinWith [','] pieces)] at hmem
  rw [parse_of_comma hmem, String.toList_ofList, Text.splitAll_joinWith hne hcomma]

theorem Means.length_eq {vs : List Version} (h : Means core (.ok (.anyOf vs))) :
    vs.length = core.count ',' + 1 := by
  cases h with
  | @anyOf pieces _ htwo hcomma h =>
    have hne : pieces ≠ [] := List.ne_nil_of_length_pos (by omega)
    rw [← Text.length_splitAll, Text.splitAll_joinWith hne hcomma, h.length_eq]

/-- A text asks for what its core means, and for nothing if that means nothing. There is a version
for each piece of a list, and so there are always some; the word for the newest spoils any list,
and versions between commas are a list of them. -/
theorem isGrammatical_parse :
    (∀ (s : String) (r : Except Error Requested),
      parse s = r ↔ ∃ core, Text.Trims s.toList core ∧ Means core r) ∧
    (∀ (s : String) (vs : List Version), parse s = .ok (.anyOf vs) →
      vs.length = s.toList.count ',' + 1 ∧ vs ≠ []) ∧
    (∀ pieces : List (List Char), 2 ≤ pieces.length → (∀ p ∈ pieces, ',' ∉ p) →
      (∃ p ∈ pieces, Text.Trims p latestWord.toList) →
      ∃ e, parse (String.ofList (Text.joinWith [','] pieces)) = .error e) ∧
    ∀ (pieces : List (List Char)) (vs : List Version), 2 ≤ vs.length →
      List.Forall₂ (fun p v => Text.Surrounds p (Version.chars v)) pieces vs →
      parse (String.ofList (Text.joinWith [','] pieces)) = .ok (.anyOf vs) := by
  refine ⟨fun s r => parse_eq_iff, ?_, ?_, ?_⟩
  · intro s vs h
    obtain ⟨core, htrims, hmeans⟩ := parse_eq_iff.mp h
    have hlength : vs.length = s.toList.count ',' + 1 := by
      rw [hmeans.length_eq, htrims.count_eq (by decide)]
    exact ⟨hlength, List.ne_nil_of_length_pos (by omega)⟩
  · rintro pieces htwo hcomma ⟨p, hp, hword⟩
    rw [parse_of_pieces htwo hcomma]
    cases hps : parseCandidates pieces with
    | error e => exact ⟨e, rfl⟩
    | ok vs =>
      obtain ⟨v, core, htrims, hv⟩ := exists_of_candidates (parseCandidates_eq_ok_iff.mp hps) hp
      rw [htrims.eq_trimChars, ← hword.eq_trimChars] at hv
      exact absurd hv (not_spelledBy_latestWord v)
  · intro pieces vs htwo h
    have hcandidates : List.Forall₂ IsCandidate pieces vs :=
      h.imp fun p v hp => ⟨v.chars, v.spelledBy_chars.trims hp, v.spelledBy_chars⟩
    have hfree : ∀ p ∈ pieces, ',' ∉ p := by
      intro p hp hmem
      obtain ⟨v, core, htrims, hv⟩ := exists_of_candidates hcandidates hp
      exact hv.not_mem (by decide) (by decide) ((htrims.mem_iff (by decide)).mp hmem)
    rw [parse_of_pieces (h.length_eq ▸ htwo) hfree, parseCandidates_eq_ok_iff.mpr hcandidates]
    rfl

theorem isGrammatical_parse_padded :
    List.Forall₂ (fun p v => Text.Surrounds p (Version.chars v))
        [" 1.9 ".toList, "\t1.31".toList] [⟨1, 9⟩, ⟨1, 31⟩] ∧
      parse " 1.9 ,\t1.31" = .ok (.anyOf [⟨1, 9⟩, ⟨1, 31⟩]) := by
  have hpieces : List.Forall₂ (fun p v => Text.Surrounds p (Version.chars v))
      [" 1.9 ".toList, "\t1.31".toList] [⟨1, 9⟩, ⟨1, 31⟩] :=
    .cons ⟨[' '], [' '], rfl, by simp [Text.isBlank], by simp [Text.isBlank]⟩
      (.cons ⟨['\t'], [], rfl, by simp [Text.isBlank], by simp⟩ .nil)
  have hparse := isGrammatical_parse.2.2.2 _ _ (by decide) hpieces
  have htext : Text.joinWith [','] [" 1.9 ".toList, "\t1.31".toList] = " 1.9 ,\t1.31".toList := by
    decide
  rw [htext, String.ofList_toList] at hparse
  exact ⟨hpieces, hparse⟩

example : parse "1.2,,latest" = .error (.invalidVersion "") := rfl

end Parse

end Requested

end Microversion
