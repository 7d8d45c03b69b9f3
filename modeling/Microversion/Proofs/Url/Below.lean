import Microversion.Proofs.Url.Authority
import Microversion.Proofs.Url.Written

/-! # URLs below a text

A text that is a URL, and has a slash and more after it, is read with the same
authority and with the same directories before the rest. So the path of what is
read there leads elsewhere when it is put below the text again.
-/

namespace Microversion.Url

variable {scheme cs ys : List Char} {c stop : Char}

/-! ## Below a text -/

section Below

variable {a : Authority} {text : List Char} {dirs : List (List Char)} {base : Url}

/-- The URL of a special scheme below an authority and some directories, of which the last one
comes first. -/
def below (scheme : List Char) (a : Authority) (dirs : List (List Char)) (cs : List Char) : Url :=
  assemble scheme (some a)
    (.rooted (closeAll .special dirs (pathPieces .special cs)).reverse) (afterPath cs)

/-- Whatever follows the text and a slash is read below the authority and the directories. -/
structure IsBase (text scheme : List Char) (a : Authority) (dirs : List (List Char)) : Prop where
  kind : schemeKind scheme = .special
  written : ∀ seg ∈ dirs, IsWritten seg
  reads : ∀ rest, parseChars none (text ++ '/' :: rest) =
    .ok (below scheme a dirs (unbroken (Text.dropEndWhile isEdge rest)))

theorem afterSlashes_append (hkind : schemeKind scheme = .special)
    (htext : IsRegion .special text) (hstop : endsAuthority .special stop = true) :
    afterSlashes scheme (text ++ stop :: ys) = (authorityOf scheme text).map fun a =>
      assemble scheme (some a) (.rooted (pathAfterAuthority .special (stop :: ys)).1)
        (pathAfterAuthority .special (stop :: ys)).2 := by
  unfold afterSlashes
  rw [readAuthority_append hkind htext hstop, hkind]
  cases authorityOf scheme text <;> rfl

theorem pathAfterAuthority_slash (hstop : isAnySlash stop = true) :
    pathAfterAuthority .special (stop :: ys) =
      ((closeAll .special [] (pathPieces .special ys)).reverse, afterPath ys) := by
  have hslash : isSlash .special stop = true := by
    simpa [isSlash, isAnySlash] using hstop
  rw [pathAfterAuthority, if_pos hslash]
  rfl

theorem endsAuthority_of_not_mark (hstop : isAnySlash stop = false)
    (hmark : (stop != '?' && stop != '#') = true) : endsAuthority .special stop = false := by
  simp only [isAnySlash, Bool.or_eq_false_iff, Bool.and_eq_true, bne_iff_ne, ne_eq,
    beq_eq_false_iff_ne] at hstop hmark
  simp [endsAuthority, hstop, hmark]

theorem pathAfterAuthority_stop (hstop : isAnySlash stop = false) :
    (pathAfterAuthority .special (stop :: ys)).2 = afterPath (stop :: ys) := by
  have hslash : ¬isSlash .special stop = true := by
    simpa [isSlash, isAnySlash] using hstop
  rw [pathAfterAuthority, if_neg hslash, if_neg (by rintro ⟨h, -⟩; cases h)]
  rfl

theorem exists_of_map {ε α β : Type} {x : Except ε α} {f : α → β} {b : β}
    (h : x.map f = .ok b) : ∃ a, x = .ok a ∧ b = f a := by
  cases x with
  | error e => cases h
  | ok a => exact ⟨a, rfl, (Except.ok.inj h).symm⟩

/-- Without query and fragment there is no mark that begins one. -/
theorem ne_mark_of_assemble {path : Path}
    (hquery : (assemble scheme (some a) path (afterPath cs)).query = none)
    (hfragment : (assemble scheme (some a) path (afterPath cs)).fragment = none) :
    ∀ c ∈ cs, (c != '?' && c != '#') = true := by
  have h : readQuery (schemeKind scheme) (afterPath cs) = (none, none) := Prod.ext hquery hfragment
  cases hrest : cs.dropWhile (fun c => c != '?' && c != '#') with
  | nil => exact List.dropWhile_eq_nil_iff.mp hrest
  | cons c rest =>
    have hc : c = '?' ∨ c = '#' := by
      have hhead := List.head?_dropWhile_not (fun c => c != '?' && c != '#') cs
      rw [hrest, List.head?_cons] at hhead
      simpa [Classical.or_iff_not_imp_left] using hhead
    rw [afterPath, hrest, unbroken_cons] at h
    rcases hc with rfl | rfl <;> cases h

theorem closeAll_blank (dirs : List (List Char)) :
    closeAll .special dirs (pathPieces .special []) = [] :: dirs := by
  have hpieces : pathPieces .special [] = [[]] := rfl
  rw [hpieces, closeAll, closeAll, isWritten_nil.closePiece_eq]

/-- The pieces of a path up to a slash become directories. -/
theorem below_append (htext : ∀ c ∈ text, (c != '?' && c != '#') = true) (a : Authority)
    (ys : List Char) :
    below scheme a [] (text ++ '/' :: ys) = below scheme a
      (closeInner [] (Text.splitAll '/' (text.map fun c => if isSlash .special c then '/' else c)))
      ys := by
  have hpath : pathText (text ++ '/' :: ys) = text ++ '/' :: pathText ys := by
    unfold pathText
    rw [List.takeWhile_append_of_pos htext, List.takeWhile_cons]
    rfl
  have hafter : afterPath (text ++ '/' :: ys) = afterPath ys := by
    unfold afterPath
    rw [List.dropWhile_append_of_pos htext, List.dropWhile_cons]
    rfl
  have hpieces : pathPieces .special (text ++ '/' :: ys) =
      Text.splitAll '/' (text.map fun c => if isSlash .special c then '/' else c) ++
        pathPieces .special ys := by
    unfold pathPieces
    rw [hpath, List.map_append, List.map_cons]
    exact Text.splitAll_append _ _
  have hne : pathPieces .special ys ≠ [] := Text.splitAll_ne_nil _ _
  rw [below, below, hafter, hpieces, closeAll_append _ _ hne]

theorem isUnbroken_of_splitScheme? {rest : List Char} (hcs : IsUnbroken cs)
    (h : splitScheme? cs = some (scheme, rest)) : IsUnbroken rest := by
  obtain ⟨c, -, -, hdrop, -⟩ := splitScheme?_eq_some.mp h
  intro d hd
  exact hcs d ((List.dropWhile_suffix isSchemeChar).subset (hdrop ▸ List.mem_cons_of_mem _ hd))

theorem afterSlashes_slash (hkind : schemeKind scheme = .special)
    (htext : IsRegion .special text) (hstop : isAnySlash stop = true) :
    afterSlashes scheme (text ++ stop :: ys) =
      (authorityOf scheme text).map fun a => below scheme a [] ys := by
  have hends : endsAuthority .special stop = true := by
    simp only [isAnySlash, Bool.or_eq_true, beq_iff_eq] at hstop
    rcases hstop with rfl | rfl <;> rfl
  rw [afterSlashes_append hkind htext hends, pathAfterAuthority_slash hstop]
  rfl

theorem path_below_nil (scheme : List Char) (a : Authority) (dirs : List (List Char)) :
    (below scheme a dirs []).path = .rooted (dirs.reverse ++ [[]]) := by
  show Path.rooted (closeAll .special dirs (pathPieces .special [])).reverse = _
  rw [closeAll_blank, List.reverse_cons]

/-- The path after an authority is made of slashes and directories if nothing follows it. -/
theorem exists_isBase_of_read {region path : List Char} (hkind : schemeKind scheme = .special)
    (hregion : IsRegion .special region) (hpath : IsUnbroken path)
    (hstop : ∀ stop ∈ path.head?, endsAuthority .special stop = true)
    (hread : ∀ ys, parseChars none (text ++ '/' :: ys) =
      afterSlashes scheme (region ++ path ++ '/' :: unbroken (Text.dropEndWhile isEdge ys)))
    (h : parseChars none (text ++ ['/']) = .ok base) (hquery : base.query = none)
    (hfragment : base.fragment = none) :
    ∃ a dirs, IsBase text scheme a dirs ∧ base.path = .rooted (dirs.reverse ++ [[]]) := by
  rw [hread] at h
  cases path with
  | nil =>
    rw [List.append_nil, afterSlashes_slash hkind hregion rfl] at h
    obtain ⟨a, ha, hbase⟩ := exists_of_map h
    refine ⟨a, [], ⟨hkind, by rintro seg ⟨⟩, ?_⟩, hbase ▸ path_below_nil scheme a []⟩
    intro ys
    rw [hread, List.append_nil, afterSlashes_slash hkind hregion rfl, ha]
    rfl
  | cons stop path =>
    have hends := hstop stop rfl
    rw [List.append_assoc, List.cons_append] at h
    cases hslash : isAnySlash stop with
    | false =>
      -- the text ends in a query or a fragment
      rw [afterSlashes_append hkind hregion hends] at h
      obtain ⟨a, -, hbase⟩ := exists_of_map h
      rw [pathAfterAuthority_stop hslash] at hbase
      subst hbase
      have hmark := ne_mark_of_assemble hquery hfragment stop List.mem_cons_self
      rw [endsAuthority_of_not_mark hslash hmark] at hends
      cases hends
    | true =>
      rw [afterSlashes_slash hkind hregion hslash] at h
      obtain ⟨a, ha, hbase⟩ := exists_of_map h
      subst hbase
      have hmarks : ∀ c ∈ path, (c != '?' && c != '#') = true := fun c hc =>
        ne_mark_of_assemble hquery hfragment c (List.mem_append_left _ hc)
      have hpieces := isPiece_of_mem_splitAll fun c hc => hpath c (List.mem_cons_of_mem _ hc)
      refine ⟨a, closeInner [] (Text.splitAll '/' (path.map fun c =>
        if isSlash .special c then '/' else c)), ⟨hkind, ?_, ?_⟩, ?_⟩
      · exact isWritten_closeInner (by rintro seg ⟨⟩) hpieces
      · intro ys
        rw [hread, List.append_assoc, List.cons_append, afterSlashes_slash hkind hregion hslash,
          ha, ← below_append hmarks]
        rfl
      · rw [below_append hmarks]
        exact path_below_nil _ _ _

/-- A text that is a URL with nothing after its path, once a slash follows, is a base of URLs. -/
theorem exists_isBase (h : parseChars none (text ++ ['/']) = .ok base)
    (hkind : base.kind = .special) (hquery : base.query = none) (hfragment : base.fragment = none) :
    ∃ a dirs, IsBase text base.scheme a dirs ∧ base.path = .rooted (dirs.reverse ++ [[]]) := by
  obtain ⟨rest, hsplit⟩ := exists_splitScheme? h hkind
  rw [counted_append] at hsplit
  obtain ⟨after, hafter, -⟩ := splitScheme?_append.mp hsplit
  have hread : ∀ ys, parseChars none (text ++ '/' :: ys) = afterSlashes base.scheme
      ((after ++ '/' :: unbroken (Text.dropEndWhile isEdge ys)).dropWhile isAnySlash) := by
    intro ys
    refine parseChars_of_special ?_ hkind
    rw [counted_append]
    exact splitScheme?_append.mpr ⟨after, hafter, rfl⟩
  have hunbroken : IsUnbroken after := isUnbroken_of_splitScheme? (isUnbroken_unbroken _) hafter
  by_cases hslashes : (after.dropWhile isAnySlash).isEmpty
  · rw [hread, List.dropWhile_append, if_pos hslashes] at h
    have herror : afterSlashes base.scheme [] = .error .emptyHost := by
      rw [afterSlashes, readAuthority_special hkind]
      rfl
    exact absurd (herror.symm.trans h) (by rintro ⟨⟩)
  · have hdrop : ∀ ys, (after ++ ys).dropWhile isAnySlash = after.dropWhile isAnySlash ++ ys := by
      intro ys
      rw [List.dropWhile_append, if_neg hslashes]
    have hsuffix : after.dropWhile isAnySlash ⊆ after :=
      (List.dropWhile_suffix isAnySlash).subset
    generalize after.dropWhile isAnySlash = start at hdrop hsuffix
    have hregion : IsRegion .special (start.takeWhile (!endsAuthority .special ·)) := by
      intro c hc
      have hends := List.mem_takeWhile_imp hc
      rwa [Bool.not_eq_true'] at hends
    have hpath : IsUnbroken (start.dropWhile (!endsAuthority .special ·)) := fun c hc =>
      hunbroken c (hsuffix ((List.dropWhile_suffix _).subset hc))
    have hstop : ∀ stop ∈ (start.dropWhile (!endsAuthority .special ·)).head?,
        endsAuthority .special stop = true := by
      intro stop hstop
      have hhead := List.head?_dropWhile_not (!endsAuthority .special ·) start
      rw [Option.mem_def.mp hstop] at hhead
      simpa using hhead
    refine exists_isBase_of_read hkind hregion hpath hstop ?_ h hquery hfragment
    intro ys
    rw [hread, hdrop, List.takeWhile_append_dropWhile]

theorem IsBase.authority_eq {scheme : List Char} (h : IsBase text scheme a dirs)
    (hbase : parseChars none (text ++ ['/']) = .ok base) : base.authority = some a := by
  rw [h.reads, Except.ok.injEq] at hbase
  rw [← hbase]
  rfl

end Below

/-! ## The path and the query of a URL, read again -/

section Target

variable {a : Authority} {text : List Char} {dirs : List (List Char)} {query : Option (List Char)}
  {segs : List (List Char)} {seg : List Char}

/-- A query as it stands in a URL that has been read. -/
def IsWrittenQuery (query : Option (List Char)) : Prop :=
  ∀ q ∈ query, encode inSpecialQuerySet q = q ∧ ∀ c ∈ q, inSpecialQuerySet c = false

theorem readQuery_of_not_mem (h : '#' ∉ cs) :
    ∃ query, readQuery .special (afterPath cs) = (query, none) ∧ IsWrittenQuery query := by
  have hafter : '#' ∉ afterPath cs := fun hc =>
    h ((List.dropWhile_suffix _).subset (List.mem_filter.mp hc).1)
  generalize afterPath cs = rest at hafter
  have hfragment : readFragment rest = none := by
    unfold readFragment
    split
    · exact absurd List.mem_cons_self hafter
    · rfl
  unfold readQuery
  split
  · next q =>
    have hq : ∀ c ∈ q, (c != '#') = true := by
      intro c hc
      rw [bne_iff_ne]
      rintro rfl
      exact hafter (List.mem_cons_of_mem _ hc)
    rw [List.dropWhile_eq_nil_iff.mpr hq]
    refine ⟨_, rfl, ?_⟩
    rintro q' ⟨⟩
    have hset : escapes.all (!inSpecialQuerySet ·) = true := by decide
    exact ⟨encode_encode hset, fun c hc => (safe_of_mem_encode hset hc).1⟩
  · rw [hfragment]
    exact ⟨none, rfl, by rintro q ⟨⟩⟩

theorem readQuery_optionalPart (h : IsWrittenQuery query) :
    readQuery .special (optionalPart '?' query) = (query, none) := by
  cases query with
  | none => rfl
  | some q =>
    obtain ⟨hencode, hsafe⟩ := h q rfl
    have hq : ∀ c ∈ q, (c != '#') = true := by
      intro c hc
      rw [bne_iff_ne]
      rintro rfl
      exact absurd (hsafe '#' hc) (by decide)
    show (some (encode inSpecialQuerySet (q.takeWhile (· != '#'))),
      readFragment (q.dropWhile (· != '#'))) = _
    rw [List.dropWhile_eq_nil_iff.mpr hq, List.takeWhile_eq_self_iff.mpr hq, hencode]
    rfl

/-- The characters of segments with slashes between them. -/
theorem mem_segments {c : Char} (h : ∀ s ∈ seg :: segs, IsWritten s)
    (hc : c ∈ seg ++ segs.flatMap ('/' :: ·)) :
    c = '/' ∨ inPathSet c = false ∧ isAnySlash c = false := by
  rcases List.mem_append.mp hc with hc | hc
  · have hseg := h seg List.mem_cons_self
    exact .inr ⟨(hseg.safe c hc).1, hseg.slash c hc⟩
  · obtain ⟨s, hs, hc⟩ := List.mem_flatMap.mp hc
    have hseg := h s (List.mem_cons_of_mem _ hs)
    rcases List.mem_cons.mp hc with rfl | hc
    · exact .inl rfl
    · exact .inr ⟨(hseg.safe c hc).1, hseg.slash c hc⟩

theorem not_isEdge_of_not_inSpecialQuerySet {c : Char} (h : inSpecialQuerySet c = false) :
    isEdge c = false := by
  simp only [inSpecialQuerySet, inQuerySet, Bool.or_eq_false_iff, beq_eq_false_iff_ne] at h
  exact not_isEdge_of_not_isControl h.1.1.1.1.1.1 h.1.1.1.1.1.2

theorem not_isEdge_of_mem_optionalPart (h : IsWrittenQuery query) :
    ∀ c ∈ optionalPart '?' query, isEdge c = false := by
  intro c hc
  cases query with
  | none => cases hc
  | some q =>
    rcases List.mem_cons.mp hc with rfl | hc
    · rfl
    · exact not_isEdge_of_not_inSpecialQuerySet ((h q rfl).2 c hc)

theorem isUnbroken_of_not_isEdge (h : ∀ c ∈ cs, isEdge c = false) : IsUnbroken cs := fun c hc =>
  not_isBreak_of_not_isEdge (h c hc)

/-- Written segments and a written query are read below directories as they are. -/
theorem below_of_isWritten (hkind : schemeKind scheme = .special)
    (h : ∀ s ∈ seg :: segs, IsWritten s) (hquery : IsWrittenQuery query) (a : Authority)
    (dirs : List (List Char)) :
    below scheme a dirs (seg ++ segs.flatMap ('/' :: ·) ++ optionalPart '?' query) =
      ⟨scheme, some a, .rooted (dirs.reverse ++ seg :: segs), query, none⟩ := by
  have hmark : ∀ c ∈ seg ++ segs.flatMap ('/' :: ·), (c != '?' && c != '#') = true := by
    intro c hc
    rw [Bool.and_eq_true, bne_iff_ne, bne_iff_ne]
    rcases mem_segments h hc with rfl | ⟨hsafe, -⟩
    · decide
    · constructor
      · rintro rfl
        cases hsafe
      · rintro rfl
        cases hsafe
  have hmap :
      (seg ++ segs.flatMap ('/' :: ·)).map (fun c => if isSlash .special c then '/' else c) =
        seg ++ segs.flatMap ('/' :: ·) := by
    refine (List.map_congr_left fun c hc => ?_).trans (List.map_id _)
    rcases mem_segments h hc with rfl | ⟨-, hslash⟩
    · rfl
    · rw [if_neg (by simpa [isSlash, isAnySlash] using hslash)]
      rfl
  have hpieces : pathPieces .special (seg ++ segs.flatMap ('/' :: ·) ++ optionalPart '?' query) =
      seg :: segs := by
    have htake : (optionalPart '?' query).takeWhile (fun c => c != '?' && c != '#') = [] := by
      cases query <;> rfl
    rw [pathPieces, pathText, List.takeWhile_append_of_pos hmark, htake, List.append_nil, hmap,
      splitAll_of_isWritten h]
  have hafter : afterPath (seg ++ segs.flatMap ('/' :: ·) ++ optionalPart '?' query) =
      optionalPart '?' query := by
    have hdrop : (optionalPart '?' query).dropWhile (fun c => c != '?' && c != '#') =
        optionalPart '?' query := by
      cases query <;> rfl
    rw [afterPath, List.dropWhile_append_of_pos hmark, hdrop]
    exact (isUnbroken_of_not_isEdge (not_isEdge_of_mem_optionalPart hquery)).unbroken_eq
  rw [below, hpieces, hafter, closeAll_of_isWritten h, List.reverse_append, List.reverse_reverse,
    assemble, hkind, readQuery_optionalPart hquery]

theorem dropEndWhile_of_not {p : Char → Bool} (h : ∀ c ∈ cs, p c = false) :
    Text.dropEndWhile p cs = cs := by
  have hreverse : ∀ c ∈ cs.reverse, p c = false := fun c hc => h c (List.mem_reverse.mp hc)
  have hdrop : cs.reverse.dropWhile p = cs.reverse := by
    cases hcs : cs.reverse with
    | nil => rfl
    | cons c rest =>
      rw [List.dropWhile_cons, hreverse c (hcs ▸ List.mem_cons_self)]
      rfl
  rw [Text.dropEndWhile, hdrop, List.reverse_reverse]

/-- Nothing is dropped from written segments and a written query. -/
theorem unbroken_of_isWritten (h : ∀ s ∈ seg :: segs, IsWritten s) (hquery : IsWrittenQuery query) :
    unbroken (Text.dropEndWhile isEdge (seg ++ segs.flatMap ('/' :: ·) ++ optionalPart '?' query)) =
      seg ++ segs.flatMap ('/' :: ·) ++ optionalPart '?' query := by
  have hedge : ∀ c ∈ seg ++ segs.flatMap ('/' :: ·) ++ optionalPart '?' query,
      isEdge c = false := by
    intro c hc
    rcases List.mem_append.mp hc with hc | hc
    · rcases mem_segments h hc with rfl | ⟨hsafe, -⟩
      · rfl
      · exact not_isEdge_of_not_inPathSet hsafe
    · exact not_isEdge_of_mem_optionalPart hquery c hc
  rw [dropEndWhile_of_not hedge]
  exact (isUnbroken_of_not_isEdge hedge).unbroken_eq

/-- The path and the query of a URL below a base, put below the base, are read with its
directories before the path once more. -/
theorem IsBase.read_target (h : IsBase text scheme a dirs) {rest : List Char} (hhash : '#' ∉ rest) :
    ∃ u after, parseChars none (text ++ '/' :: rest) = .ok u ∧ u.path = .rooted u.path.segments ∧
      u.target.toList = '/' :: after ∧
      parseChars none (text ++ '/' :: after) =
        .ok { u with path := .rooted (dirs.reverse ++ u.path.segments) } := by
  have hunbroken := isUnbroken_unbroken (Text.dropEndWhile isEdge rest)
  have hhash' : '#' ∉ unbroken (Text.dropEndWhile isEdge rest) := by
    intro hc
    have hmem := (List.dropWhile_suffix _).subset (List.mem_reverse.mp (List.mem_filter.mp hc).1)
    exact hhash (List.mem_reverse.mp hmem)
  have hread := h.reads rest
  generalize unbroken (Text.dropEndWhile isEdge rest) = cs at hunbroken hhash' hread
  obtain ⟨query, hafter, hquery⟩ := readQuery_of_not_mem hhash'
  have hpieces := isPiece_of_mem_splitAll hunbroken.pathText
  have hwritten := isWritten_closeAll h.written hpieces
  have hne := @closeAll_ne_nil dirs _ hpieces (Text.splitAll_ne_nil _ _)
  have hbelow : below scheme a dirs cs = ⟨scheme, some a,
      .rooted (closeAll .special dirs (pathPieces .special cs)).reverse, query, none⟩ := by
    rw [below, assemble, h.kind, hafter]
  obtain ⟨seg, segs, hsegs⟩ :
      ∃ seg segs, (closeAll .special dirs (pathPieces .special cs)).reverse = seg :: segs :=
    List.exists_cons_of_ne_nil fun hnil => hne (List.reverse_eq_nil_iff.mp hnil)
  have hwritten : ∀ s ∈ seg :: segs, IsWritten s := fun s hs =>
    hwritten s (List.mem_reverse.mp (hsegs ▸ hs))
  rw [hbelow, hsegs] at hread
  refine ⟨_, seg ++ segs.flatMap ('/' :: ·) ++ optionalPart '?' query, hread, rfl, ?_, ?_⟩
  · rw [target, String.toList_ofList]
    rfl
  · rw [h.reads, unbroken_of_isWritten hwritten hquery, below_of_isWritten h.kind hwritten hquery]
    rfl

end Target

end Microversion.Url
