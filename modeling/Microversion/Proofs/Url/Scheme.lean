import Microversion.Proofs.Text.Pieces
import Microversion.Url.Parser

/-! # Schemes of URLs

A URL that has been read has a scheme of letters, digits and a few marks, and an
authority whenever the scheme is special. So the text of a URL shows by its
first characters whether the scheme is one of HTTP.
-/

namespace Microversion.Url

/-- The character may stand in a scheme. -/
def isSchemeChar (c : Char) : Bool := c.isAlphanum || c == '+' || c == '-' || c == '.'

/-- A URL as it is after reading. -/
structure Formed (u : Url) : Prop where
  scheme : ∀ c ∈ u.scheme, c ≠ ':' ∧ c ≠ '/'
  authority : u.kind = .special → u.authority.isSome = true

/-- The scheme is one of HTTP. -/
def IsWeb (u : Url) : Prop := u.scheme = "http".toList ∨ u.scheme = "https".toList

instance (u : Url) : Decidable u.IsWeb := inferInstanceAs (Decidable (_ ∨ _))

section Formed

variable {scheme rest cs : List Char} {authority : Option Authority} {u base : Url}

theorem ne_of_isSchemeChar {c : Char} (h : isSchemeChar c = true) :
    c.toLower ≠ ':' ∧ c.toLower ≠ '/' := by
  have hc : c.toNat < 128 := by
    simp only [isSchemeChar, Bool.or_eq_true, beq_iff_eq] at h
    rcases h with ((h | rfl) | rfl) | rfl
    · exact Text.toNat_lt_of_isAlphanum h
    · decide
    · decide
    · decide
  -- capitals become small letters, so the characters themselves are looked at
  have hall : ∀ n < 128, isSchemeChar (Char.ofNat n) = true →
      (Char.ofNat n).toLower ≠ ':' ∧ (Char.ofNat n).toLower ≠ '/' := by decide
  rw [← Char.ofNat_toNat c] at h ⊢
  exact hall c.toNat hc h

theorem formed_assemble (hs : ∀ c ∈ scheme, c ≠ ':' ∧ c ≠ '/')
    (ha : schemeKind scheme = .special → authority.isSome = true) (path : Path)
    (rest : List Char) : (assemble scheme authority path rest).Formed :=
  ⟨hs, ha⟩

theorem Formed.withFragment (h : base.Formed) (fragment : Option (List Char)) :
    ({ base with fragment } : Url).Formed :=
  ⟨h.scheme, h.authority⟩

theorem ne_of_file : ∀ c ∈ "file".toList, c ≠ ':' ∧ c ≠ '/' := by simp

theorem formed_fileUrl (host : Host) (segs : List (List Char)) (rest : List Char) :
    (fileUrl host segs rest).Formed :=
  formed_assemble ne_of_file (fun h => by cases h) _ _

theorem formed_of_afterSlashes (hs : ∀ c ∈ scheme, c ≠ ':' ∧ c ≠ '/')
    (h : afterSlashes scheme cs = .ok u) : u.Formed := by
  unfold afterSlashes at h
  cases hr : readAuthority scheme cs with
  | error e =>
    rw [hr] at h
    cases h
  | ok read =>
    rw [hr] at h
    cases h
    exact formed_assemble hs (fun _ => rfl) _ _

theorem formed_of_fileAfterSlashes (h : fileAfterSlashes cs = .ok u) : u.Formed := by
  unfold fileAfterSlashes at h
  dsimp only at h
  split at h
  · cases h
    exact formed_fileUrl _ _ _
  · generalize Host.parse (unbroken (cs.takeWhile _)) = host at h
    cases host with
    | error e => split at h <;> cases h
    | ok host =>
      simp only [bind, Except.bind] at h
      split at h
      · cases h
        exact formed_fileUrl _ _ _
      · cases h
        exact formed_fileUrl _ _ _

theorem formed_of_below {base : Option Url} (hb : ∀ b ∈ base, b.Formed)
    (h : readFile.below base cs = .ok u) : u.Formed := by
  unfold readFile.below at h
  split at h
  · cases h
    exact (hb _ rfl).withFragment none
  · cases h
    exact formed_assemble ne_of_file (fun h => by cases h) _ _
  · cases h
    exact (hb _ rfl).withFragment _
  · cases h
    exact formed_fileUrl _ _ _
  · split at h
    · split at h
      · cases h
        exact formed_fileUrl _ _ _
      · split at h <;> cases h
        · exact formed_fileUrl _ _ _
        · exact formed_fileUrl _ _ _
    · split at h
      · split at h <;> cases h
        · exact formed_fileUrl _ _ _
        · exact formed_fileUrl _ _ _
      · cases h
        exact formed_fileUrl _ _ _

theorem formed_of_readFile {base : Option Url} (hb : ∀ b ∈ base, b.Formed)
    (h : readFile base cs = .ok u) : u.Formed := by
  unfold readFile at h
  split at h
  · split at h
    · exact formed_of_fileAfterSlashes h
    · exact formed_of_below hb h
  · exact formed_of_below hb h

theorem formed_of_readRelative (hb : base.Formed) (h : readRelative base cs = .ok u) :
    u.Formed := by
  unfold readRelative at h
  dsimp only at h
  split at h
  · cases h
    exact hb.withFragment none
  · cases h
    exact formed_assemble hb.scheme hb.authority _ _
  · cases h
    exact hb.withFragment _
  · split at h
    · split at h
      · split at h
        · split at h
          · exact formed_of_afterSlashes hb.scheme h
          · exact formed_of_afterSlashes hb.scheme h
        · cases h
          exact formed_assemble hb.scheme hb.authority _ _
      · cases h
        exact formed_assemble hb.scheme hb.authority _ _
    · cases h
      exact formed_assemble hb.scheme hb.authority _ _

theorem formed_of_afterScheme {base : Option Url} (hs : ∀ c ∈ scheme, c ≠ ':' ∧ c ≠ '/')
    (hb : ∀ b ∈ base, b.Formed) (h : afterScheme base scheme cs = .ok u) : u.Formed := by
  unfold afterScheme at h
  dsimp only at h
  split at h
  · split at h
    · next b hf =>
      split at h
      · exact formed_of_readRelative (hb b (Option.filter_eq_some_iff.mp hf).1) h
      · exact formed_of_afterSlashes hs h
    · exact formed_of_afterSlashes hs h
  · next hk =>
    split at h
    · exact formed_of_afterSlashes hs h
    · cases h
      exact formed_assemble hs (fun hk' => absurd hk' hk) _ _
    · cases h
      exact formed_assemble hs (fun hk' => absurd hk' hk) _ _

theorem ne_of_splitScheme? (h : splitScheme? cs = some (scheme, rest)) :
    ∀ c ∈ scheme, c ≠ ':' ∧ c ≠ '/' := by
  intro c hc
  unfold splitScheme? at h
  split at h
  · cases h
  · dsimp only at h
    split at h
    · split at h <;> cases h
      obtain ⟨d, hd, rfl⟩ := List.mem_map.mp hc
      exact ne_of_isSchemeChar (List.all_eq_true.mp List.all_takeWhile d hd)
    · cases h

theorem formed_of_parseChars {base : Option Url} (hb : ∀ b ∈ base, b.Formed)
    (h : parseChars base cs = .ok u) : u.Formed := by
  unfold parseChars at h
  dsimp only at h
  split at h
  · next scheme rest base hs =>
    split at h
    · exact formed_of_readFile (fun b hf => hb b (Option.filter_eq_some_iff.mp hf).1) h
    · exact formed_of_afterScheme (ne_of_splitScheme? hs) hb h
  · cases h
  · next base _ =>
    have hbase : base.Formed := hb base rfl
    split at h
    · cases h
      exact hbase.withFragment _
    · split at h
      · cases h
      · split at h
        · exact formed_of_readFile hb h
        · exact formed_of_readRelative hbase h

theorem formed_of_parse {s : String} (h : parse s = .ok u) : u.Formed :=
  formed_of_parseChars (by rintro b ⟨⟩) h

theorem formed_of_join {s : String} (hb : base.Formed) (h : join base s = .ok u) : u.Formed := by
  refine formed_of_parseChars ?_ h
  rintro b ⟨⟩
  exact hb

theorem chars_eq (u : Url) : ∃ rest, u.chars = u.scheme ++ ':' :: (u.authorityChars ++ rest) := by
  refine ⟨u.path.chars ++ optionalPart '?' u.query ++ optionalPart '#' u.fragment, ?_⟩
  simp only [chars, List.append_assoc, List.cons_append]

/-- The text of a URL starts with a special scheme and two slashes if that is its scheme. -/
theorem Formed.startsWith_iff (h : u.Formed) (hs : ':' ∉ scheme)
    (hk : schemeKind scheme = .special) :
    scheme ++ "://".toList <+: u.chars ↔ u.scheme = scheme := by
  obtain ⟨rest, hu⟩ := chars_eq u
  constructor
  · rintro ⟨more, hm⟩
    have hsplit := Text.splitFirst?_append (fun hc => (h.scheme ':' hc).1 rfl)
      (u.authorityChars ++ rest)
    have hsplit' := Text.splitFirst?_append hs ('/' :: '/' :: more)
    have he : scheme ++ ':' :: '/' :: '/' :: more =
        u.scheme ++ ':' :: (u.authorityChars ++ rest) := by
      rw [← hu, ← hm, List.append_assoc]
      rfl
    rw [he, hsplit] at hsplit'
    exact congrArg Prod.fst (Option.some.inj hsplit')
  · rintro rfl
    obtain ⟨a, ha⟩ := Option.isSome_iff_exists.mp (h.authority hk)
    refine ⟨a.chars ++ rest, ?_⟩
    rw [hu, authorityChars, ha, List.append_assoc]
    rfl

end Formed

end Microversion.Url
