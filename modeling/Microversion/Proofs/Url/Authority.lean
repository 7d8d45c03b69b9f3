import Mathlib.Data.List.TakeWhile
import Microversion.Proofs.Url.Scheme

/-! # The beginnings of URLs

What a URL of a special scheme begins with does not depend on what follows: the
scheme ends at its colon, and the authority at a slash or at another mark.
-/

namespace Microversion

section Lists

variable {α : Type} {p : α → Bool} {stop : α}

theorem takeWhile_append_stop (h : p stop = false) (xs ys : List α) :
    (xs ++ stop :: ys).takeWhile p = xs.takeWhile p := by
  induction xs with
  | nil => rw [List.nil_append, List.takeWhile_cons, h]; rfl
  | cons x xs ih =>
    rw [List.cons_append, List.takeWhile_cons, List.takeWhile_cons, ih]

theorem dropWhile_append_stop (h : p stop = false) (xs ys : List α) :
    (xs ++ stop :: ys).dropWhile p = xs.dropWhile p ++ stop :: ys := by
  induction xs with
  | nil => rw [List.nil_append, List.dropWhile_cons, h]; rfl
  | cons x xs ih =>
    rw [List.cons_append, List.dropWhile_cons, List.dropWhile_cons, ih]
    split <;> rfl

theorem drop_takeWhile (p : α → Bool) (xs : List α) :
    xs.drop (xs.takeWhile p).length = xs.dropWhile p := by
  have hdrop := @List.drop_left _ (xs.takeWhile p) (xs.dropWhile p)
  rwa [List.takeWhile_append_dropWhile] at hdrop

end Lists

namespace Url

variable {scheme cs ys : List Char} {c stop : Char}

/-! ## The characters that count -/

/-- The characters of a URL that count. -/
def counted (cs : List Char) : List Char :=
  unbroken (Text.dropEndWhile isEdge (cs.dropWhile isEdge))

theorem unbroken_append (xs ys : List Char) :
    unbroken (xs ++ ys) = unbroken xs ++ unbroken ys := List.filter_append _ _

/-- Nothing before a slash is dropped at the end. -/
theorem dropEndWhile_append_slash (xs ys : List Char) :
    Text.dropEndWhile isEdge (xs ++ '/' :: ys) = xs ++ '/' :: Text.dropEndWhile isEdge ys := by
  unfold Text.dropEndWhile
  rw [List.reverse_append, List.reverse_cons, List.append_assoc, List.singleton_append,
    dropWhile_append_stop (by decide)]
  simp

/-- What stands before a slash counts whatever stands after it. -/
theorem counted_append (xs ys : List Char) :
    counted (xs ++ '/' :: ys) =
      unbroken (xs.dropWhile isEdge) ++ '/' :: unbroken (Text.dropEndWhile isEdge ys) := by
  rw [counted, dropWhile_append_stop (by decide), dropEndWhile_append_slash, unbroken_append,
    unbroken_cons]
  rfl

/-! ## The scheme -/

/-- Breaks make no difference to the characters that a scheme may hold. -/
theorem takeWhile_markBreaks (cs : List Char) :
    (markBreaks false cs).takeWhile isSchemeChar = (unbroken cs).takeWhile isSchemeChar ∧
      (markBreaks false cs).head? = (unbroken cs).head? ∧
      ((markBreaks false cs).dropWhile isSchemeChar).head? =
        ((unbroken cs).dropWhile isSchemeChar).head? ∧
      unbroken ((markBreaks false cs).dropWhile isSchemeChar) =
        (unbroken cs).dropWhile isSchemeChar := by
  induction cs with
  | nil => exact ⟨rfl, rfl, rfl, rfl⟩
  | cons c cs ih =>
    rw [markBreaks, unbroken_cons]
    split
    · exact ih
    · next hbreak =>
      cases hc : isSchemeChar c with
      | false =>
        simp only [List.takeWhile_cons, List.dropWhile_cons, hc]
        refine ⟨rfl, rfl, rfl, ?_⟩
        rw [if_neg Bool.false_ne_true, if_neg Bool.false_ne_true, unbroken_cons, if_neg hbreak,
          unbroken_markBreaks]
      | true =>
        have hcolon : (c == ':') = false := by
          cases hcolon : c == ':' with
          | false => rfl
          | true =>
            rw [beq_iff_eq] at hcolon
            subst hcolon
            exact absurd hc (by decide)
        simp only [hcolon, List.takeWhile_cons, List.dropWhile_cons, hc, if_true, List.head?_cons,
          true_and]
        obtain ⟨htake, -, hhead, hdrop⟩ := ih
        exact ⟨by rw [htake], hhead, hdrop⟩

theorem splitScheme?_eq_some {rest : List Char} : splitScheme? cs = some (scheme, rest) ↔
    ∃ c ∈ cs.head?, c.isAlpha = true ∧ cs.dropWhile isSchemeChar = ':' :: rest ∧
      (cs.takeWhile isSchemeChar).map Char.toLower = scheme := by
  cases cs with
  | nil =>
    constructor
    · rintro ⟨⟩
    · rintro ⟨c, ⟨⟩, -⟩
  | cons c cs =>
    simp only [splitScheme?, List.head?_cons, Option.mem_some_iff, exists_eq_left']
    constructor
    · intro h
      split at h
      · next rest' hdrop =>
        split at h
        · next halpha =>
          cases h
          exact ⟨halpha, hdrop, rfl⟩
        · cases h
      · cases h
    · rintro ⟨halpha, hdrop, hscheme⟩
      split
      · next rest' hdrop' =>
        obtain ⟨-, rfl⟩ := List.cons.inj (hdrop.symm.trans hdrop')
        rw [if_pos halpha, ← hscheme]
        rfl
      · next hnone => exact absurd hdrop (hnone rest)

/-- The scheme is the one of the characters that count. -/
theorem splitScheme?_counted {rest : List Char} : splitScheme? (counted cs) = some (scheme, rest) ↔
    ∃ rest', splitScheme? (marked cs) = some (scheme, rest') ∧ unbroken rest' = rest := by
  unfold counted marked
  obtain ⟨htake, hhead, hdrop, hrest⟩ :=
    takeWhile_markBreaks (Text.dropEndWhile isEdge (cs.dropWhile isEdge))
  simp only [splitScheme?_eq_some, ← htake, ← hhead, ← hrest]
  have hcolon : isBreak ':' = false := by decide
  constructor
  · rintro ⟨c, hc, halpha, hrest', hscheme⟩
    cases hmarked : (markBreaks false (Text.dropEndWhile isEdge (cs.dropWhile isEdge))).dropWhile
        isSchemeChar with
    | nil =>
      rw [hmarked] at hrest'
      cases hrest'
    | cons d ds =>
      rw [hmarked, ← hrest, hmarked] at hdrop
      rw [hmarked] at hrest'
      rw [hrest', List.head?_cons, List.head?_cons, Option.some.injEq] at hdrop
      subst hdrop
      rw [unbroken_cons, hcolon, if_neg Bool.false_ne_true, List.cons.injEq] at hrest'
      exact ⟨ds, ⟨c, hc, halpha, rfl, hscheme⟩, hrest'.2⟩
  · rintro ⟨rest', ⟨c, hc, halpha, hmarked, hscheme⟩, rfl⟩
    refine ⟨c, hc, halpha, ?_, hscheme⟩
    rw [hmarked, unbroken_cons, hcolon]
    rfl

theorem splitScheme?_append {xs rest : List Char} :
    splitScheme? (xs ++ '/' :: ys) = some (scheme, rest) ↔
      ∃ rest', splitScheme? xs = some (scheme, rest') ∧ rest = rest' ++ '/' :: ys := by
  have hslash : isSchemeChar '/' = false := by decide
  simp only [splitScheme?_eq_some, takeWhile_append_stop hslash, dropWhile_append_stop hslash]
  constructor
  · rintro ⟨c, hc, halpha, hdrop, hscheme⟩
    cases xs with
    | nil =>
      cases hc
      exact absurd halpha (by decide)
    | cons x xs =>
      cases hx : (x :: xs).dropWhile isSchemeChar with
      | nil =>
        rw [hx] at hdrop
        cases hdrop
      | cons d ds =>
        rw [hx] at hdrop
        obtain ⟨rfl, rfl⟩ := List.cons.inj hdrop
        exact ⟨ds, ⟨c, hc, halpha, rfl, hscheme⟩, rfl⟩
  · rintro ⟨rest', ⟨c, hc, halpha, hdrop, hscheme⟩, rfl⟩
    cases xs with
    | nil => cases hc
    | cons x xs => exact ⟨c, hc, halpha, by rw [hdrop]; rfl, hscheme⟩

/-! ## Special schemes -/

/-- A URL of a special scheme is read from the characters that count. -/
theorem parseChars_of_special {rest : List Char}
    (h : splitScheme? (counted cs) = some (scheme, rest)) (hkind : schemeKind scheme = .special) :
    parseChars none cs = afterSlashes scheme (rest.dropWhile isAnySlash) := by
  obtain ⟨rest', hmarked, rfl⟩ := splitScheme?_counted.mp h
  have hfile : ¬schemeKind scheme = .file := by rw [hkind]; decide
  unfold parseChars
  simp only [hmarked, if_neg hfile, afterScheme, if_pos hkind, Option.filter_none]
  rw [drop_takeWhile]

theorem scheme_of_fileAfterSlashes {u : Url} (h : fileAfterSlashes cs = .ok u) :
    u.scheme = fileScheme := by
  unfold fileAfterSlashes at h
  dsimp only at h
  split at h
  · cases h
    rfl
  · generalize Host.parse (unbroken (cs.takeWhile _)) = host at h
    cases host with
    | error e => split at h <;> cases h
    | ok host =>
      simp only [bind, Except.bind] at h
      split at h <;> cases h <;> rfl

theorem scheme_of_readFile {u : Url} (h : readFile none cs = .ok u) : u.scheme = fileScheme := by
  have hbelow : ∀ cs, readFile.below none cs = .ok u → u.scheme = fileScheme := by
    intro cs h
    unfold readFile.below at h
    split at h
    · next heq => cases heq
    · next heq => cases heq
    · next heq => cases heq
    · cases h
      rfl
    · split at h
      · split at h
        · cases h
          rfl
        · cases h
          rfl
      · cases h
        rfl
  unfold readFile at h
  split at h
  · split at h
    · exact scheme_of_fileAfterSlashes h
    · exact hbelow _ h
  · exact hbelow _ h

theorem scheme_of_afterSlashes {u : Url} (h : afterSlashes scheme cs = .ok u) :
    u.scheme = scheme := by
  unfold afterSlashes at h
  cases hr : readAuthority scheme cs with
  | error e =>
    rw [hr] at h
    cases h
  | ok read =>
    rw [hr] at h
    cases h
    rfl

theorem scheme_of_afterScheme {u : Url} (h : afterScheme none scheme cs = .ok u) :
    u.scheme = scheme := by
  unfold afterScheme at h
  simp only [Option.filter_none] at h
  split at h
  · exact scheme_of_afterSlashes h
  · split at h
    · exact scheme_of_afterSlashes h
    · cases h
      rfl
    · cases h
      rfl

/-- A text that is a URL of a special scheme is read so. -/
theorem exists_splitScheme? {u : Url} (h : parseChars none cs = .ok u)
    (hkind : u.kind = .special) : ∃ rest, splitScheme? (counted cs) = some (u.scheme, rest) := by
  unfold parseChars at h
  dsimp only at h
  split at h
  · next scheme rest hmarked =>
    have hscheme : u.scheme = scheme := by
      split at h
      · next hfile =>
        have hu := scheme_of_readFile h
        rw [kind, hu] at hkind
        cases hkind
      · exact scheme_of_afterScheme h
    subst hscheme
    exact ⟨_, splitScheme?_counted.mpr ⟨rest, hmarked, rfl⟩⟩
  · cases h
  · next hbase => cases hbase

/-! ## The authority -/

section Authority

variable {kind : SchemeKind} {text host : List Char}

/-- User name and password, and the host and port, of an authority that something follows. -/
def splitRegion (text : List Char) :
    Except ParseError (List Char × Option (List Char) × List Char) :=
  match Text.splitLast? '@' text with
  | none => .ok ([], none, text)
  | some ([], host) => if host.isEmpty then .error .emptyHost else .ok ([], none, host)
  | some (user, host) => .ok ((readUser user).1, (readUser user).2, host)

/-- Nothing in the text ends an authority. -/
def IsRegion (kind : SchemeKind) (text : List Char) : Prop :=
  ∀ c ∈ text, endsAuthority kind c = false

theorem IsRegion.of_subset (h : IsRegion kind text) (hsubset : host ⊆ text) :
    IsRegion kind host := fun c hc => h c (hsubset hc)

theorem splitUser_append (htext : IsRegion kind text) (hstop : endsAuthority kind stop = true) :
    splitUser kind (text ++ stop :: ys) =
      (splitRegion text).map fun (name, password, host) =>
        (name, password, host ++ stop :: ys) := by
  have hstop' : (!endsAuthority kind stop) = false := by rw [hstop]; rfl
  have htake : text.takeWhile (!endsAuthority kind ·) = text :=
    List.takeWhile_eq_self_iff.mpr fun c hc => by rw [htext c hc]; rfl
  have hdrop : text.dropWhile (!endsAuthority kind ·) = [] :=
    List.dropWhile_eq_nil_iff.mpr fun c hc => by rw [htext c hc]; rfl
  unfold splitUser splitRegion
  simp only [takeWhile_append_stop (p := (!endsAuthority kind ·)) hstop', htake,
    dropWhile_append_stop (p := (!endsAuthority kind ·)) hstop', hdrop, List.nil_append]
  cases Text.splitLast? '@' text with
  | none => rfl
  | some parts =>
    obtain ⟨user, host⟩ := parts
    cases user with
    | nil => cases host <;> rfl
    | cons c user => rfl

theorem splitRegion_subset {name : List Char} {password : Option (List Char)}
    (h : splitRegion text = .ok (name, password, host)) : host ⊆ text := by
  have hlast : ∀ user host, Text.splitLast? '@' text = some (user, host) → host ⊆ text := by
    intro user host hsplit
    rw [Text.splitLast?_eq_some hsplit]
    exact fun c hc => List.mem_append_right _ (List.mem_cons_of_mem _ hc)
  unfold splitRegion at h
  split at h
  · cases h
    exact List.Subset.refl _
  · next hsplit =>
    split at h
    · cases h
    · cases h
      exact hlast _ _ hsplit
  · next hsplit =>
    cases h
    exact hlast _ _ hsplit

theorem hostLength_append (hstop : endsAuthority kind stop = true) (inside : Bool)
    (host : List Char) :
    hostLength kind inside (host ++ stop :: ys) = hostLength kind inside host := by
  induction host generalizing inside with
  | nil => simp [hostLength, hstop]
  | cons c host ih =>
    rw [List.cons_append, hostLength, hostLength, ih]

theorem hostLength_le (inside : Bool) (host : List Char) :
    hostLength kind inside host ≤ host.length := by
  induction host generalizing inside with
  | nil => exact Nat.le_refl _
  | cons c host ih =>
    rw [hostLength]
    split
    · exact Nat.zero_le _
    · exact Nat.succ_le_succ (ih _)

/-- A colon ends the host, or else nothing follows it. -/
theorem drop_hostLength (h : IsRegion kind host) (inside : Bool) :
    host.drop (hostLength kind inside host) = [] ∨
      ∃ digits, host.drop (hostLength kind inside host) = ':' :: digits := by
  induction host generalizing inside with
  | nil => exact .inl rfl
  | cons c host ih =>
    rw [hostLength]
    split
    · next hends =>
      rw [h c List.mem_cons_self, Bool.or_false, Bool.and_eq_true, beq_iff_eq] at hends
      exact .inr ⟨host, by rw [hends.1]; rfl⟩
    · exact ih (h.of_subset (List.subset_cons_self c host)) _

theorem readPort_append {digits : List Char} (hdigits : IsRegion .special digits)
    (hstop : endsAuthority .special stop = true) :
    readPort scheme (digits ++ stop :: ys) =
      (readPort scheme digits).map fun r => (r.1, stop :: ys) := by
  have hcases : stop = '/' ∨ stop = '?' ∨ stop = '#' ∨ stop = '\\' := by
    simpa [endsAuthority, or_assoc] using hstop
  have hdigit : stop.isDigit = false := by rcases hcases with rfl | rfl | rfl | rfl <;> rfl
  unfold readPort
  simp only [takeWhile_append_stop hdigit, dropWhile_append_stop hdigit]
  cases hrest : digits.dropWhile Char.isDigit with
  | nil =>
    have hends : (stop == '/' || stop == '\\' || stop == '?' || stop == '#') = true := by
      rcases hcases with rfl | rfl | rfl | rfl <;> rfl
    simp only [List.nil_append, hends]
    split
    · rfl
    · split <;> rfl
  | cons c rest =>
    have hmem : c ∈ digits :=
      (List.dropWhile_suffix Char.isDigit).subset (hrest ▸ List.mem_cons_self)
    have hends : (c == '/' || c == '\\' || c == '?' || c == '#') = false := by
      have hc := hdigits c hmem
      simp only [endsAuthority, Bool.or_eq_false_iff] at hc ⊢
      exact ⟨⟨⟨hc.1.1.1, (Bool.and_true _).symm.trans hc.2⟩, hc.1.1.2⟩, hc.1.2⟩
    simp only [List.cons_append, hends]
    rfl

/-- The port of a host, and what follows. -/
def portAfter (scheme : List Char) (host : Host) :
    List Char → Except ParseError (Option Nat × List Char)
  | ':' :: digits => if host.isEmpty then .error .emptyHost else readPort scheme digits
  | rest => .ok (none, rest)

/-- The authority of a special scheme from its host on, and what follows. -/
def readHost (scheme name : List Char) (password : Option (List Char)) (cs : List Char) :
    Except ParseError (Authority × List Char) :=
  let count := hostLength .special false cs
  if (cs.take count).isEmpty then .error .emptyHost
  else
    (Host.parse (cs.take count)).bind fun host =>
      (portAfter scheme host (cs.drop count)).bind fun (port, rest) =>
        if host.isEmpty ∧ (!name.isEmpty ∨ password.isSome) then .error .emptyHost
        else .ok (⟨name, password, host, port⟩, rest)

theorem readAuthority_special (hkind : schemeKind scheme = .special) (cs : List Char) :
    readAuthority scheme cs =
      (splitUser .special cs).bind fun (name, password, cs) =>
        readHost scheme name password cs := by
  unfold readAuthority
  simp only [hkind]
  cases splitUser .special cs with
  | error e => rfl
  | ok user =>
    obtain ⟨name, password, cs⟩ := user
    simp only [bind, Except.bind, readHost]
    generalize cs.drop (hostLength .special false cs) = rest
    split
    · next hempty =>
      rw [if_pos hempty.2]
      rfl
    · next hempty =>
      have hempty : ¬(cs.take (hostLength .special false cs)).isEmpty = true :=
        fun h => hempty ⟨trivial, h⟩
      rw [if_neg hempty, if_neg (by decide)]
      cases Host.parse (cs.take (hostLength .special false cs)) with
      | error e => rfl
      | ok host =>
        by_cases hcolon : ∃ digits, rest = ':' :: digits
        · obtain ⟨digits, rfl⟩ := hcolon
          simp only [portAfter]
          split
          · rfl
          · cases readPort scheme digits with
            | error e => rfl
            | ok port => rfl
        · have hport : portAfter scheme host rest = .ok (none, rest) := by
            unfold portAfter
            split
            · next digits => exact absurd ⟨digits, rfl⟩ hcolon
            · rfl
          dsimp only
          rw [hport]
          split
          · next digits => exact absurd ⟨digits, rfl⟩ hcolon
          · rfl

theorem portAfter_append {host : Host} {rest : List Char}
    (hrest : rest = [] ∨ ∃ digits, rest = ':' :: digits ∧ IsRegion .special digits)
    (hstop : endsAuthority .special stop = true) :
    portAfter scheme host (rest ++ stop :: ys) =
      (portAfter scheme host rest).map fun r => (r.1, stop :: ys) := by
  rcases hrest with rfl | ⟨digits, rfl, hdigits⟩
  · have hcolon : stop ≠ ':' := by
      rintro rfl
      cases hstop
    unfold portAfter
    split
    · next heq => exact absurd (List.cons.inj heq).1 hcolon
    · rfl
  · rw [List.cons_append, portAfter, portAfter, readPort_append hdigits hstop]
    split <;> rfl

theorem readHost_append {name : List Char} {password : Option (List Char)}
    (hhost : IsRegion .special host) (hstop : endsAuthority .special stop = true) :
    readHost scheme name password (host ++ stop :: ys) =
      (readHost scheme name password host).map fun r => (r.1, stop :: ys) := by
  have hle : hostLength .special false host ≤ host.length := hostLength_le false host
  have hrest : host.drop (hostLength .special false host) = [] ∨
      ∃ digits, host.drop (hostLength .special false host) = ':' :: digits ∧
        IsRegion .special digits := by
    rcases drop_hostLength hhost false with hnil | ⟨digits, hdigits⟩
    · exact .inl hnil
    · refine .inr ⟨digits, hdigits, hhost.of_subset ?_⟩
      intro c hc
      exact List.mem_of_mem_drop (hdigits ▸ List.mem_cons_of_mem _ hc)
  unfold readHost
  simp only [hostLength_append hstop, List.take_append_of_le_length hle,
    List.drop_append_of_le_length hle, portAfter_append hrest hstop]
  split
  · rfl
  · cases Host.parse (host.take (hostLength .special false host)) with
    | error e => rfl
    | ok parsed =>
      simp only [Except.bind]
      cases portAfter scheme parsed (host.drop (hostLength .special false host)) with
      | error e => rfl
      | ok port =>
        simp only [Except.map]
        split <;> rfl

/-- The authority of a special scheme that something follows. -/
def authorityOf (scheme text : List Char) : Except ParseError Authority :=
  (splitRegion text).bind fun (name, password, host) =>
    (readHost scheme name password host).map Prod.fst

/-- What follows an authority makes no difference to it. -/
theorem readAuthority_append (hkind : schemeKind scheme = .special)
    (htext : IsRegion .special text) (hstop : endsAuthority .special stop = true) :
    readAuthority scheme (text ++ stop :: ys) =
      (authorityOf scheme text).map fun a => (a, stop :: ys) := by
  rw [readAuthority_special hkind, splitUser_append htext hstop, authorityOf]
  cases hregion : splitRegion text with
  | error e => rfl
  | ok region =>
    obtain ⟨name, password, host⟩ := region
    simp only [Except.map, Except.bind]
    rw [readHost_append (htext.of_subset (splitRegion_subset hregion)) hstop]
    cases readHost scheme name password host <;> rfl

end Authority

end Url

end Microversion
