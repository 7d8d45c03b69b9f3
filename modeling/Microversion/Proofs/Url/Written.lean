import Microversion.Proofs.Text.Pieces
import Microversion.Url.Parser

/-! # What is written in a URL is read as it is

Reading encodes characters and resolves points. What comes out of that holds
neither any more, so that the path and the query of a URL are read back unchanged.
-/

namespace Microversion

namespace Url

section Encode

variable {set : Char → Bool} {c : Char} {cs : List Char}

/-- The characters of percent sequences. -/
def escapes : List Char := "%0123456789ABCDEF".toList

theorem mem_escapes_of_mem_percentByte {b : UInt8} (h : c ∈ percentByte b) : c ∈ escapes := by
  have hhex : ∀ n < 16, upperHex n ∈ escapes := by decide
  have hb := b.toNat_lt
  simp only [percentByte, List.mem_cons, List.not_mem_nil, or_false] at h
  rcases h with rfl | rfl | rfl
  · decide
  · exact hhex _ (by omega)
  · exact hhex _ (Nat.mod_lt _ (by decide))

/-- An encoded text holds characters of the text that need no encoding, and percent sequences. -/
theorem mem_encode (h : c ∈ encode set cs) :
    (c ∈ cs ∧ set c = false ∧ c.toNat < 0x80) ∨ c ∈ escapes := by
  obtain ⟨d, hd, hc⟩ := List.mem_flatMap.mp h
  unfold encodeChar at hc
  split at hc
  · obtain ⟨b, -, hb⟩ := List.mem_flatMap.mp hc
    exact .inr (mem_escapes_of_mem_percentByte hb)
  · next hsafe =>
    obtain rfl := List.mem_singleton.mp hc
    simp only [Bool.or_eq_true, decide_eq_true_eq, not_or, Bool.not_eq_true, Nat.not_le] at hsafe
    exact .inl ⟨hd, hsafe.1, hsafe.2⟩

theorem safe_of_mem_encode (hset : escapes.all (!set ·) = true) (h : c ∈ encode set cs) :
    set c = false ∧ c.toNat < 0x80 := by
  have hascii : escapes.all (·.toNat < 0x80) = true := by decide
  rcases mem_encode h with ⟨-, hsafe⟩ | hescape
  · exact hsafe
  · exact ⟨(Bool.not_eq_true' _).mp (List.all_eq_true.mp hset c hescape),
      of_decide_eq_true (List.all_eq_true.mp hascii c hescape)⟩

/-- Encoding a second time changes nothing. -/
theorem encode_encode (hset : escapes.all (!set ·) = true) :
    encode set (encode set cs) = encode set cs :=
  encode_of_safe fun _ hc => safe_of_mem_encode hset hc

end Encode

section Breaks

variable {c : Char} {cs : List Char}

/-- No character is a break. -/
def IsUnbroken (cs : List Char) : Prop := ∀ c ∈ cs, isBreak c = false

theorem isUnbroken_unbroken (cs : List Char) : IsUnbroken (unbroken cs) := by
  intro c hc
  simpa using (List.mem_filter.mp hc).2

theorem IsUnbroken.unbroken_eq (h : IsUnbroken cs) : unbroken cs = cs :=
  List.filter_eq_self.mpr fun c hc => by rw [h c hc]; rfl

theorem not_isEdge_of_not_isControl (hcontrol : isControl c = false) (hblank : c ≠ ' ') :
    isEdge c = false := by
  simp only [isControl, Bool.or_eq_false_iff, decide_eq_false_iff_not, Nat.not_lt] at hcontrol
  have hne : c.toNat ≠ ' '.toNat := fun h => hblank (Char.toNat_inj.mp h)
  have hblank : ' '.toNat = 0x20 := rfl
  simp only [isEdge, decide_eq_false_iff_not, Nat.not_le]
  omega

theorem not_isBreak_of_not_isEdge (h : isEdge c = false) : isBreak c = false := by
  cases hbreak : isBreak c with
  | false => rfl
  | true =>
    simp only [isBreak, Bool.or_eq_true, beq_iff_eq] at hbreak
    rcases hbreak with (rfl | rfl) | rfl <;> cases h

end Breaks

/-! ## Segments -/

/-- A segment as it stands in a URL that has been read. -/
structure IsWritten (seg : List Char) : Prop where
  safe : ∀ c ∈ seg, inPathSet c = false ∧ c.toNat < 0x80
  slash : ∀ c ∈ seg, isAnySlash c = false
  single : isSingleDot seg = false
  double : isDoubleDot seg = false

section Segments

variable {c : Char} {seg piece : List Char} {segs pieces more : List (List Char)} {slash : Bool}

theorem isWritten_nil : IsWritten [] where
  safe := by rintro c ⟨⟩
  slash := by rintro c ⟨⟩
  single := rfl
  double := rfl

theorem not_isEdge_of_not_inPathSet (h : inPathSet c = false) : isEdge c = false := by
  simp only [inPathSet, inFragmentSet, Bool.or_eq_false_iff, beq_eq_false_iff_ne] at h
  exact not_isEdge_of_not_isControl h.1.1.1.1.1.1.1.1.1 h.1.1.1.1.1.1.1.1.2

theorem IsWritten.encode_eq (h : IsWritten seg) : encode inPathSet seg = seg :=
  encode_of_safe h.safe

theorem IsWritten.isUnbroken (h : IsWritten seg) : IsUnbroken seg := fun c hc =>
  not_isBreak_of_not_isEdge (not_isEdge_of_not_inPathSet (h.safe c hc).1)

theorem splitDrive?_of_isUnbroken (h : IsUnbroken piece) : splitDrive? piece = none := by
  unfold splitDrive?
  split
  · exact absurd (h '\n' (by simp)) (by decide)
  · rfl

theorem closePiece_of_isUnbroken (h : IsUnbroken piece) (kind : SchemeKind)
    (segs : List (List Char)) (slash : Bool) :
    closePiece kind segs piece slash = close kind segs (encode inPathSet piece) slash := by
  unfold closePiece
  rw [splitDrive?_of_isUnbroken h, h.unbroken_eq]
  cases segs <;> rfl

theorem descend_special (segs : List (List Char)) (seg : List Char) :
    descend .special segs seg = seg :: segs := by
  unfold descend
  split <;> rfl

/-- A segment that is written is added as it is. -/
theorem IsWritten.closePiece_eq (h : IsWritten seg) (segs : List (List Char)) (slash : Bool) :
    closePiece .special segs seg slash = seg :: segs := by
  rw [closePiece_of_isUnbroken h.isUnbroken, h.encode_eq, close, h.double, h.single,
    descend_special]
  rfl

theorem closeAll_of_isWritten (h : ∀ seg ∈ pieces, IsWritten seg) (segs : List (List Char)) :
    closeAll .special segs pieces = pieces.reverse ++ segs := by
  induction pieces generalizing segs with
  | nil => rfl
  | cons piece pieces ih =>
    have hpiece := h piece List.mem_cons_self
    have hpieces := fun seg hseg => h seg (List.mem_cons_of_mem _ hseg)
    rw [closeAll, hpiece.closePiece_eq, ih hpieces, List.reverse_cons, List.append_assoc]
    rfl

theorem ascend_subset (segs : List (List Char)) : ascend segs ⊆ segs := by
  cases segs with
  | nil => exact List.Subset.refl _
  | cons seg segs =>
    rw [ascend]
    split
    · exact List.Subset.refl _
    · exact List.subset_cons_self seg segs

/-- A piece of a path between slashes: no breaks and no slashes. -/
def IsPiece (piece : List Char) : Prop :=
  ∀ c ∈ piece, isBreak c = false ∧ isAnySlash c = false

/-- What is read is written. -/
theorem isWritten_closePiece (hsegs : ∀ seg ∈ segs, IsWritten seg) (hpiece : IsPiece piece) :
    ∀ seg ∈ closePiece .special segs piece slash, IsWritten seg := by
  have hascend : ∀ seg ∈ ascend segs, IsWritten seg := fun seg hseg =>
    hsegs seg (ascend_subset segs hseg)
  have hnew : ∀ {segs : List (List Char)}, (∀ seg ∈ segs, IsWritten seg) →
      ∀ seg ∈ [] :: segs, IsWritten seg := by
    intro segs hsegs seg hseg
    rcases List.mem_cons.mp hseg with rfl | hseg
    · exact isWritten_nil
    · exact hsegs seg hseg
  rw [closePiece_of_isUnbroken fun c hc => (hpiece c hc).1]
  unfold close
  split
  · cases slash with
    | true => exact hascend
    | false => exact hnew hascend
  · next hdouble =>
    split
    · cases slash with
      | true => exact hsegs
      | false => exact hnew hsegs
    · next hsingle =>
      rw [descend_special]
      intro seg hseg
      rcases List.mem_cons.mp hseg with rfl | hseg
      · refine ⟨fun c hc => safe_of_mem_encode (by decide) hc, ?_, by simpa using hsingle,
          by simpa using hdouble⟩
        intro c hc
        have hescapes : escapes.all (!isAnySlash ·) = true := by decide
        rcases mem_encode hc with ⟨hc, -⟩ | hc
        · exact (hpiece c hc).2
        · exact (Bool.not_eq_true' _).mp (List.all_eq_true.mp hescapes c hc)
      · exact hsegs seg hseg

theorem isWritten_closeAll (hsegs : ∀ seg ∈ segs, IsWritten seg)
    (hpieces : ∀ piece ∈ pieces, IsPiece piece) :
    ∀ seg ∈ closeAll .special segs pieces, IsWritten seg := by
  induction pieces generalizing segs with
  | nil => exact hsegs
  | cons piece pieces ih =>
    rw [closeAll]
    exact ih (isWritten_closePiece hsegs (hpieces piece List.mem_cons_self))
      fun p hp => hpieces p (List.mem_cons_of_mem _ hp)

/-- The pieces that a slash follows, one after the other. -/
def closeInner (segs pieces : List (List Char)) : List (List Char) :=
  pieces.foldl (fun segs piece => closePiece .special segs piece true) segs

theorem isWritten_closeInner (hsegs : ∀ seg ∈ segs, IsWritten seg)
    (hpieces : ∀ piece ∈ pieces, IsPiece piece) :
    ∀ seg ∈ closeInner segs pieces, IsWritten seg := by
  induction pieces generalizing segs with
  | nil => exact hsegs
  | cons piece pieces ih =>
    exact ih (isWritten_closePiece hsegs (hpieces piece List.mem_cons_self))
      fun p hp => hpieces p (List.mem_cons_of_mem _ hp)

theorem closeAll_append (segs pieces : List (List Char)) (hmore : more ≠ []) :
    closeAll .special segs (pieces ++ more) = closeAll .special (closeInner segs pieces) more := by
  induction pieces generalizing segs with
  | nil => rfl
  | cons piece pieces ih =>
    have hslash : (!(pieces ++ more).isEmpty) = true := by simp [hmore]
    rw [List.cons_append, closeAll, hslash, ih]
    rfl

theorem closePiece_ne_nil (h : IsUnbroken piece) :
    closePiece .special segs piece false ≠ [] := by
  rw [closePiece_of_isUnbroken h, close, descend_special]
  split
  · exact List.cons_ne_nil _ _
  · split <;> exact List.cons_ne_nil _ _

theorem closeAll_ne_nil (hpieces : ∀ piece ∈ pieces, IsPiece piece) (hne : pieces ≠ []) :
    closeAll .special segs pieces ≠ [] := by
  have hlast := List.dropLast_concat_getLast hne
  rw [← hlast, closeAll_append _ _ (List.cons_ne_nil _ _), closeAll, closeAll]
  exact closePiece_ne_nil fun c hc => (hpieces _ (List.getLast_mem hne) c hc).1

end Segments

/-! ## Paths and queries -/

section Text

variable {segs : List (List Char)} {cs : List Char}

theorem not_mem_of_isAnySlash {seg : List Char} (h : ∀ c ∈ seg, isAnySlash c = false) :
    '/' ∉ seg := fun hc => absurd (h '/' hc) (by decide)

theorem isPiece_of_mem_splitAll (h : IsUnbroken cs) :
    ∀ piece ∈ Text.splitAll '/' (cs.map fun c => if isSlash .special c then '/' else c),
      IsPiece piece := by
  intro piece hpiece c hc
  have hslash : c ≠ '/' := by
    rintro rfl
    exact Text.not_mem_of_mem_splitAll hpiece hc
  obtain ⟨d, hd, hdc⟩ := List.mem_map.mp (Text.mem_of_mem_splitAll hpiece hc)
  split at hdc
  · exact absurd hdc.symm hslash
  · next hd' =>
    subst hdc
    exact ⟨h d hd, by simpa [isAnySlash, isSlash] using hd'⟩

theorem IsUnbroken.pathText (h : IsUnbroken cs) : IsUnbroken (pathText cs) := fun c hc =>
  h c ((List.takeWhile_prefix _).subset hc)

/-- The text of written segments, of which the first has lost its slash. -/
theorem splitAll_of_isWritten {seg : List Char} (h : ∀ s ∈ seg :: segs, IsWritten s) :
    Text.splitAll '/' (seg ++ segs.flatMap ('/' :: ·)) = seg :: segs := by
  have hseg := not_mem_of_isAnySlash (h seg List.mem_cons_self).slash
  induction segs generalizing seg with
  | nil => rw [List.flatMap_nil, List.append_nil, Text.splitAll_of_not_mem hseg]
  | cons next segs ih =>
    have hrest := fun s hs => h s (List.mem_cons_of_mem _ hs)
    rw [List.flatMap_cons, List.cons_append, Text.splitAll_append, Text.splitAll_of_not_mem hseg,
      ih hrest (not_mem_of_isAnySlash (hrest next List.mem_cons_self).slash)]
    rfl

end Text

end Url

end Microversion
