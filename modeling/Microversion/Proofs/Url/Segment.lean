import Microversion.Proofs.Url.Below
import Microversion.Proofs.Url.Percent

/-! # Texts as segments of paths

What is read below some directories ends in a segment, which stands for the text only if
the text has no mark of its own in a URL: no slash, query or fragment, no percent sequence,
no points, and nothing that is dropped. Any other character may stand in it.
-/

namespace Microversion.Url

open Utf8 (bytesOf)

variable {scheme cs seg : List Char} {a : Authority} {dirs : List (List Char)}

/-- A text without a mark of its own in a URL. -/
structure IsUnmarked (cs : List Char) : Prop where
  slash : ∀ c ∈ cs, isAnySlash c = false
  mark : ∀ c ∈ cs, c ≠ '?' ∧ c ≠ '#'
  unbroken : IsUnbroken cs
  last : ∀ c ∈ cs.getLast?, isEdge c = false
  escape : ¬HasEscape cs
  dots : cs ≠ ['.'] ∧ cs ≠ ['.', '.']

/-- The path goes from a directory to one segment, which stands for the text. -/
structure EndsIn (u : Url) (directory cs : List Char) : Prop where
  query : u.query = none
  fragment : u.fragment = none
  path : ∃ seg, '/' ∉ seg ∧ u.path.chars = directory ++ '/' :: seg ∧ decodePercent seg = bytesOf cs

/-! ## The last segment -/

section Last

theorem decodePercent_of_isSingleDot (h : isSingleDot seg = true) :
    decodePercent seg = bytesOf ['.'] := by
  simp only [isSingleDot, List.any_cons, List.any_nil, Bool.or_false, Bool.or_eq_true,
    beq_iff_eq] at h
  rcases h with rfl | rfl | rfl <;> decide

theorem decodePercent_of_isDoubleDot (h : isDoubleDot seg = true) :
    decodePercent seg = bytesOf ['.', '.'] := by
  simp only [isDoubleDot, List.any_cons, List.any_nil, Bool.or_false, Bool.or_eq_true,
    beq_iff_eq] at h
  rcases h with rfl | rfl | rfl | rfl | rfl | rfl | rfl | rfl | rfl <;> decide

/-- The last piece becomes the last segment, or else that is empty. -/
theorem exists_last (pieces : List (List Char)) {piece : List Char} (hpiece : IsUnbroken piece)
    (dirs : List (List Char)) :
    ∃ seg segs, closeAll .special dirs (pieces ++ [piece]) = seg :: segs ∧
      (seg = [] ∨ seg = encode inPathSet piece ∧ isSingleDot seg = false ∧
        isDoubleDot seg = false) := by
  rw [closeAll_append _ _ (List.cons_ne_nil _ _), closeAll, closeAll,
    closePiece_of_isUnbroken hpiece, List.isEmpty_nil, close]
  split
  · exact ⟨[], _, rfl, .inl rfl⟩
  · next hdouble =>
    split
    · exact ⟨[], _, rfl, .inl rfl⟩
    · next hsingle =>
      rw [descend_special]
      exact ⟨_, _, rfl, .inr ⟨rfl, by simpa using hsingle, by simpa using hdouble⟩⟩

theorem path_chars_concat (segs : List (List Char)) (seg : List Char) :
    (Path.rooted (segs ++ [seg])).chars = segs.flatMap ('/' :: ·) ++ '/' :: seg := by
  simp [Path.chars]

/-- A path has one last segment. -/
theorem eq_of_path_chars {segs : List (List Char)} {directory seg' : List Char}
    (hseg : '/' ∉ seg) (hseg' : '/' ∉ seg')
    (h : (Path.rooted (segs ++ [seg])).chars = directory ++ '/' :: seg') : seg = seg' := by
  rw [path_chars_concat] at h
  have hlast := congrArg (Text.splitLast? '/') h
  rw [Text.splitLast?_append _ hseg, Text.splitLast?_append _ hseg'] at hlast
  exact (Prod.mk.inj (Option.some.inj hlast)).2

end Last

/-! ## The text of the last segment -/

section Piece

variable {piece : List Char}

theorem sublist_of_mem_pieces
    (h : piece ∈ Text.splitAll '/' (cs.map fun c => if isSlash .special c then '/' else c)) :
    piece.Sublist cs := by
  obtain ⟨part, hpart, rfl⟩ := List.sublist_map_iff.mp (Text.sublist_of_mem_splitAll h)
  have hsame : ∀ c ∈ part, (if isSlash .special c then '/' else c) = c := by
    intro c hc
    split
    · next hslash =>
      refine absurd ?_ (Text.not_mem_of_mem_splitAll h)
      exact List.mem_map.mpr ⟨c, hc, if_pos hslash⟩
    · rfl
  rwa [List.map_congr_left hsame, List.map_id']

theorem sublist_bytesOf (h : piece.Sublist cs) : (bytesOf piece).Sublist (bytesOf cs) := by
  induction h with
  | slnil => exact List.Sublist.refl _
  | cons c _ ih => exact ih.trans (List.sublist_append_right _ _)
  | cons_cons c _ ih => exact ih.append_left _

/-- A part that stands for all bytes of a text is the whole text, and holds no percent sequence. -/
theorem eq_of_decodePercent (h : piece.Sublist cs) (hdecode : decodePercent piece = bytesOf cs) :
    piece = cs ∧ ¬HasEscape cs := by
  have hle : (bytesOf cs).length ≤ (bytesOf piece).length :=
    hdecode ▸ length_decodePercent_le piece
  obtain rfl := Utf8.bytesOf_inj.mp ((sublist_bytesOf h).eq_of_length_le hle)
  exact ⟨rfl, decodePercent_eq_bytesOf_iff.mp hdecode⟩

end Piece

section Ends

/-- What is left of a text when breaks and the characters at its end are dropped. -/
theorem sublist_unbroken (cs : List Char) :
    (unbroken (Text.dropEndWhile isEdge cs)).Sublist (Text.dropEndWhile isEdge cs) ∧
      (Text.dropEndWhile isEdge cs).Sublist cs := by
  obtain ⟨after, hafter, -, -⟩ := Text.exists_dropEndWhile isEdge cs
  have hfront := List.sublist_append_left (Text.dropEndWhile isEdge cs) after
  rw [← hafter] at hfront
  exact ⟨List.filter_sublist, hfront⟩

theorem not_mem_encode_of_not_mem (h : ∀ c ∈ cs, isAnySlash c = false) :
    '/' ∉ encode inPathSet cs := by
  intro hc
  rcases mem_encode hc with ⟨hc, -⟩ | hc
  · exact absurd (h '/' hc) (by decide)
  · exact absurd hc (by decide)

/-- The path of a text without query and fragment ends in what the last piece of it becomes. -/
theorem exists_path_below (hunbroken : IsUnbroken cs)
    (hmark : ∀ c ∈ cs, (c != '?' && c != '#') = true) (scheme : List Char) (a : Authority)
    (dirs : List (List Char)) :
    ∃ piece segs seg, IsPiece piece ∧ piece.Sublist cs ∧ '/' ∉ seg ∧
      (below scheme a dirs cs).path = .rooted (segs ++ [seg]) ∧
      (seg = [] ∨ seg = encode inPathSet piece ∧ isSingleDot seg = false ∧
        isDoubleDot seg = false) := by
  have htext : pathText cs = cs := List.takeWhile_eq_self_iff.mpr hmark
  obtain ⟨pieces, piece, hpieces⟩ :=
    (List.eq_nil_or_concat (pathPieces .special cs)).resolve_left (Text.splitAll_ne_nil _ _)
  rw [List.concat_eq_append] at hpieces
  have hmem : piece ∈ pathPieces .special cs := by simp [hpieces]
  rw [pathPieces, htext] at hmem
  have hpiece := isPiece_of_mem_splitAll hunbroken piece hmem
  have hunbrokenPiece : IsUnbroken piece := fun c hc => (hpiece c hc).1
  obtain ⟨seg, segs, hclose, hseg⟩ := exists_last pieces hunbrokenPiece dirs
  refine ⟨piece, segs.reverse, seg, hpiece, sublist_of_mem_pieces hmem, ?_, ?_, hseg⟩
  · rcases hseg with rfl | ⟨rfl, -, -⟩
    · exact List.not_mem_nil
    · exact not_mem_encode_of_not_mem fun c hc => (hpiece c hc).2
  · show Path.rooted (closeAll .special dirs (pathPieces .special cs)).reverse = _
    rw [hpieces, hclose, List.reverse_cons]

theorem isUnmarked_of_endsIn (hcs : cs ≠ []) {directory : List Char}
    (h : EndsIn (below scheme a dirs (unbroken (Text.dropEndWhile isEdge cs))) directory cs) :
    IsUnmarked cs := by
  obtain ⟨hquery, hfragment, seg', hslash', hchars, hdecode⟩ := h
  obtain ⟨hbreaks, hdropped⟩ := sublist_unbroken cs
  have hunbroken := isUnbroken_unbroken (Text.dropEndWhile isEdge cs)
  have hmark := ne_mark_of_assemble hquery hfragment
  obtain ⟨piece, segs, seg, hpiece, hpart, hslash, hpath, hseg⟩ :=
    exists_path_below hunbroken hmark scheme a dirs
  rw [hpath] at hchars
  obtain rfl := eq_of_path_chars hslash hslash' hchars
  rcases hseg with rfl | ⟨rfl, hsingle, hdouble⟩
  · have hnil : bytesOf [] = bytesOf cs := hdecode
    exact absurd (Utf8.bytesOf_inj.mp hnil).symm hcs
  · rw [decodePercent_encode keepsEscapes_inPathSet] at hdecode
    obtain ⟨rfl, hescape⟩ := eq_of_decodePercent (hpart.trans (hbreaks.trans hdropped)) hdecode
    -- the piece is a part of what is left of the text, so that nothing has been dropped
    have hleft := hpart.eq_of_length_le (hbreaks.trans hdropped).length_le
    have hkept := hdropped.eq_of_length_le (hpart.trans hbreaks).length_le
    rw [← hleft] at hunbroken hmark
    obtain ⟨-, -, -, hlast⟩ := Text.exists_dropEndWhile isEdge piece
    constructor
    case slash => exact fun c hc => (hpiece c hc).2
    case mark => exact fun c hc => by simpa using hmark c hc
    case unbroken => exact hunbroken
    case last => exact hkept ▸ hlast
    case escape => exact hescape
    case dots =>
      constructor
      · rintro rfl
        exact absurd hsingle (by decide)
      · rintro rfl
        exact absurd hdouble (by decide)

theorem endsIn_of_isUnmarked (h : IsUnmarked cs) :
    EndsIn (below scheme a dirs (unbroken (Text.dropEndWhile isEdge cs)))
      (dirs.reverse.flatMap ('/' :: ·)) cs := by
  have hdropped : Text.dropEndWhile isEdge cs = cs := by
    obtain rfl | ⟨init, c, rfl⟩ := List.eq_nil_or_concat cs
    · rfl
    · rw [List.concat_eq_append] at h ⊢
      exact Text.dropEndWhile_of_last (h.last c (by simp))
  have hmark : ∀ c ∈ cs, (c != '?' && c != '#') = true := fun c hc => by simpa using h.mark c hc
  have htext : pathText cs = cs := List.takeWhile_eq_self_iff.mpr hmark
  have hafter : afterPath cs = [] := by
    rw [afterPath, List.dropWhile_eq_nil_iff.mpr hmark]
    rfl
  have hmap : cs.map (fun c => if isSlash .special c then '/' else c) = cs := by
    refine (List.map_congr_left fun c hc => ?_).trans (List.map_id _)
    rw [if_neg (by simpa [isSlash, isAnySlash] using h.slash c hc)]
    rfl
  have hpieces : pathPieces .special cs = [] ++ [cs] := by
    rw [pathPieces, htext, hmap, Text.splitAll_of_not_mem (not_mem_of_isAnySlash h.slash)]
    rfl
  have hdecode : decodePercent (encode inPathSet cs) = bytesOf cs := by
    rw [decodePercent_encode keepsEscapes_inPathSet, decodePercent_eq_bytesOf_iff]
    exact h.escape
  -- a segment of points would stand for points
  have hsingle : isSingleDot (encode inPathSet cs) = false := by
    rw [Bool.eq_false_iff]
    intro hdot
    exact h.dots.1 (Utf8.bytesOf_inj.mp (hdecode.symm.trans (decodePercent_of_isSingleDot hdot)))
  have hdouble : isDoubleDot (encode inPathSet cs) = false := by
    rw [Bool.eq_false_iff]
    intro hdot
    exact h.dots.2 (Utf8.bytesOf_inj.mp (hdecode.symm.trans (decodePercent_of_isDoubleDot hdot)))
  have hclose : closeAll .special dirs [cs] = encode inPathSet cs :: dirs := by
    rw [closeAll, closeAll, closePiece_of_isUnbroken h.unbroken, close, hsingle, hdouble,
      descend_special]
    rfl
  rw [hdropped, h.unbroken.unbroken_eq, below, hafter, hpieces, List.nil_append, hclose]
  refine ⟨rfl, rfl, encode inPathSet cs, not_mem_encode_of_not_mem h.slash, ?_, hdecode⟩
  show (Path.rooted (encode inPathSet cs :: dirs).reverse).chars = _
  rw [List.reverse_cons, path_chars_concat]

end Ends

end Microversion.Url
