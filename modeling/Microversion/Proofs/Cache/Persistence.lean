import Microversion.Proofs.Cache.Atomicity
import Microversion.Proofs.Cache.Refinement

/-! # Entries that last

An entry stays in the file of a cache as long as nothing is saved under its key.
Other saves add entries of their own, or they fail and leave the file as it was.
-/

namespace Microversion.Cache

open Storage

variable {c : Cache} {fs : FileSystem} {bs : Bytes}

namespace Saving

variable {s : Saving}

/-- If its temporary file is the cache file itself and that can be read, then a save succeeds. -/
theorem readyIn_of_temporary (h : s.cache.IsHosted fs) (hstored : s.cache.stored? fs = some bs)
    (hsame : s.temporary = s.cache.file) : ∃ way d name, s.ReadyIn fs way d name name := by
  have hplain : fs.PlainAt s.cache.file := hsame ▸ h.temporary
  obtain ⟨way, name, d, hnames, hd, hnode⟩ :=
    FileSystem.exists_of_read h.tree hplain (stored?_eq_some.mp hstored)
  have hleaf := FileSystem.isLeaf_of_file hnode
  refine ⟨way, d, name, h, ?_, hnames, hsame ▸ hnames, hd, hleaf, hleaf⟩
  intro parent hparent
  exact FileSystem.isDirectory_parent? h.tree hnames hd hparent

/-- Whatever is done beside the file of a cache, the file keeps its content. -/
theorem maintains_content (h : s.cache.IsHosted fs) (hapart : s.IsApart)
    (hstored : s.cache.stored? fs = some bs) :
    s.Maintains fs fun fs' => s.cache.IsHosted fs' ∧ s.cache.stored? fs' = some bs where
  start := ⟨h, hstored⟩
  made := ⟨h.makeParent, stored?_makeParent_of_some h.tree hstored⟩
  altered := fun ⟨hhosted, hstored⟩ hspot halters =>
    ⟨hhosted.alters hspot halters, (hspot.stored?_eq hapart hhosted halters).trans hstored⟩
  hosted := And.left

end Saving

/-- A save that fails leaves the content of a file that could be read. -/
theorem ok_or_stored?_save (h : c.IsHosted fs) (hstored : c.stored? fs = some bs) (now : Nat)
    (key : ServerKey) (version : String) :
    (c.save now key version fs).2 = .ok () ∨
      c.stored? (c.save now key version fs).1 = some bs := by
  by_cases hsame : (Saving.mk c key version now).temporary = c.file
  -- opening the temporary file empties the cache, but from then on nothing can fail
  · obtain ⟨way, d, name, hready⟩ :=
      Saving.readyIn_of_temporary (s := ⟨c, key, version, now⟩) h hstored hsame
    exact .inl hready.save.1
  · have hkept := Saving.maintains_content (s := ⟨c, key, version, now⟩) h
      (fun heq => absurd heq hsame) hstored
    rcases hkept.save with ⟨⟨-, hafter⟩, -⟩ | ⟨hok, -⟩
    · exact .inr hafter
    · exact .inl hok

section Uses

variable {key : String} {e : Entry}

theorem held?_eq_some : c.held? fs key = some e ↔
    ∃ bs doc, fs.read c.file = .ok bs ∧ Document.decode? bs = some doc ∧
      Table.get? key doc = some e := by
  simp only [held?, document?_content, Option.bind_eq_some_iff, stored?_eq_some]
  constructor
  · rintro ⟨doc, ⟨bs, hread, hdoc⟩, he⟩
    exact ⟨bs, doc, hread, hdoc, he⟩
  · rintro ⟨bs, doc, hread, hdoc, he⟩
    exact ⟨doc, ⟨bs, hread, hdoc⟩, he⟩

theorem retrieve_eq (c : Cache) (now : Nat) (key : ServerKey) (fs : FileSystem) :
    c.retrieve now key fs = (c.held? fs key.text).bind (fresh? c.expiry now) := rfl

/-- A use that saves nothing under a key leaves its entry, whether or not it succeeds. -/
theorem held?_use_of_saved? (h : c.IsHosted fs) {u : Use} (hu : u.saved? key = none)
    (hheld : c.held? fs key = some e) : c.held? (c.use fs u).1 key = some e := by
  cases u with
  | save now k version =>
    obtain ⟨bs, doc, hread, hdoc, he⟩ := held?_eq_some.mp hheld
    rcases ok_or_stored?_save h (stored?_eq_some.mpr hread) now.toNat k version with hok | hsame
    · have hafter := held?_use h (u := .save now k version) (by rintro result ⟨⟩; exact hok) key
      rwa [hu, Option.none_or, hheld] at hafter
    · exact held?_eq_some.mpr ⟨bs, doc, stored?_eq_some.mp hsame, hdoc, he⟩
  | retrieve now k maxAge => cases maxAge <;> exact hheld

theorem held?_of_lastSaved? {uses : List Use} (h : c.IsHosted fs)
    (huses : lastSaved? key uses = none) (hheld : c.held? fs key = some e) :
    c.held? (c.filesAfter fs uses) key = some e := by
  induction uses generalizing fs with
  | nil => exact hheld
  | cons u us ih =>
    rw [lastSaved?, Option.or_eq_none_iff] at huses
    exact ih (h.use u) huses.1 (held?_use_of_saved? h huses.2 hheld)

end Uses

end Microversion.Cache
