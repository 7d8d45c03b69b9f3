import Microversion.Proofs.Cache.Saving

/-! # When saves succeed

A save succeeds when the directory of the cache is there and nothing but files stand
in the places of the cache file and of the temporary file; and then it leaves them so.
-/

namespace Microversion.Cache.Saving

open Storage

variable {s : Saving} {fs fs' : FileSystem} {there d : Location} {way : List String}
  {name new : String}

/-- The directory of the cache is there, with nothing but files in the places of the cache file and
of the temporary file. -/
structure ReadyIn (s : Saving) (fs : FileSystem) (way : List String) (d : Location)
    (name new : String) : Prop where
  hosted : s.cache.IsHosted fs
  directory : ∀ parent ∈ s.cache.file.parent?, fs.isDirectory parent = true ∨ parent.size = 0
  fileNames : FileSystem.Names s.cache.file way name
  temporaryNames : FileSystem.Names s.temporary way new
  leads : fs.Leads FileSystem.maxLinks .root way d
  fileLeaf : fs.IsLeaf (d.child name)
  temporaryLeaf : fs.IsLeaf (d.child new)

namespace ReadyIn

theorem spot (h : s.ReadyIn fs way d name new) : s.Spot fs (d.child new) :=
  ⟨way, new, d, h.temporaryNames, h.leads, rfl⟩

theorem locate (h : s.ReadyIn fs way d name new) (follow : Ending → Bool) :
    fs.locate follow s.cache.file = .ok (d.child name, .bare) :=
  FileSystem.locate_of_leads h.fileNames (fun _ => h.fileLeaf.not_isLink) h.leads

theorem alters (h : s.ReadyIn fs way d name new) (hhosted : s.cache.IsHosted fs')
    (halters : FileSystem.Alters there fs fs') : s.ReadyIn fs' way d name new where
  hosted := hhosted
  directory parent hparent :=
    (h.directory parent hparent).imp_left (FileSystem.isDirectory_keeps halters.keeps)
  fileNames := h.fileNames
  temporaryNames := h.temporaryNames
  leads := h.leads.keeps halters.keeps
  fileLeaf := halters.isLeaf h.fileLeaf
  temporaryLeaf := halters.isLeaf h.temporaryLeaf

theorem makeParent (h : s.ReadyIn fs way d name new) : s.makeParent fs = (fs, .ok ()) := by
  unfold Saving.makeParent
  split
  · next parent hparent => exact if_pos (h.directory parent hparent)
  · rfl

theorem afterLoad (h : s.ReadyIn fs way d name new) :
    ∃ doc, s.afterLoad (s.cache.content fs) = .directories doc := by
  have hcontent : ∀ e, s.cache.content fs ≠ .unreadable e := by
    intro e
    unfold Cache.content
    simp only [FileSystem.read, h.locate]
    cases hnode : fs.node? (d.child name) with
    | none => exact fun heq => by cases heq
    | some node =>
      obtain ⟨content, rfl⟩ := h.fileLeaf node hnode
      simp only [if_true, Content.ofRead]
      split <;> exact fun heq => by cases heq
  cases hcase : s.cache.content fs with
  | unreadable e => exact absurd hcase (hcontent e)
  | _ => exact ⟨_, rfl⟩

/-- The stages of a save that meets no failure. -/
theorem after (h : s.ReadyIn fs way d name new) : ∃ fs', s.ReadyIn fs' way d name new ∧
    s.after (fun _ => none) fs 7 = (.finished (.ok ()), fs') := by
  obtain ⟨doc, hload⟩ := h.afterLoad
  have hopen := FileSystem.openEmpty_leaf (h.spot.locate h.hosted _) h.temporaryLeaf
  have hemptied := FileSystem.Alters.put h.temporaryLeaf []
  generalize hfs₁ : fs.put (d.child new) (.file []) = fs₁ at hopen hemptied
  have h₁ := h.alters (h.hosted.alters h.spot hemptied) hemptied
  have hempty : fs₁.node? (d.child new) = some (.file []) :=
    hfs₁ ▸ FileSystem.node?_put_self h.temporaryLeaf.ne_root
  have hwritten := FileSystem.Alters.put h₁.temporaryLeaf doc.encode
  have hwrite := FileSystem.write_file hempty doc.encode
  generalize hfs₂ : fs₁.put (d.child new) (.file doc.encode) = fs₂ at hwrite hwritten
  have h₂ := h₁.alters (h₁.hosted.alters h₁.spot hwritten) hwritten
  have hnode : fs₂.node? (d.child new) = some (.file doc.encode) :=
    hfs₂ ▸ FileSystem.node?_put_self h.temporaryLeaf.ne_root
  have hrename := FileSystem.rename_leaf (h₂.spot.locate h₂.hosted _) (h₂.locate _) hnode
    h₂.fileLeaf
  generalize hfs₃ : (if d.child new = d.child name then fs₂
    else (fs₂.erase (d.child new)).put (d.child name) (.file doc.encode)) = fs₃ at hrename
  refine ⟨fs₃, ?_, ?_⟩
  · have hhosted := (h₂.hosted.rename h₂.spot hnode hrename).1
    subst hfs₃
    split
    · exact h₂
    · next hne =>
      rw [if_neg hne] at hhosted
      have herased := FileSystem.Alters.erase h₂.temporaryLeaf
      have h₃ := h₂.alters (h₂.hosted.alters h₂.spot herased) herased
      exact h₃.alters hhosted (.put h₃.fileLeaf _)
  · simp only [Saving.after, step, hload, h.makeParent, hopen, hwrite, hrename]

end ReadyIn

theorem ReadyIn.of_cache {s' : Saving} (h : s.ReadyIn fs way d name new)
    (hcache : s'.cache = s.cache) : s'.ReadyIn fs way d name new := by
  have htemporary : s'.temporary = s.temporary := by rw [temporary, temporary, hcache]
  obtain ⟨hhosted, hdirectory, hnames, hnames', hleads, hleaf, hleaf'⟩ := h
  rw [← htemporary] at hnames'
  rw [← hcache] at hhosted hdirectory hnames
  exact ⟨hhosted, hdirectory, hnames, hnames', hleads, hleaf, hleaf'⟩

/-- A save succeeds, and another one would after it. -/
theorem ReadyIn.save (h : s.ReadyIn fs way d name new) :
    (s.cache.save s.now s.key s.version fs).2 = .ok () ∧
      s.ReadyIn (s.cache.save s.now s.key s.version fs).1 way d name new := by
  obtain ⟨fs', hready, hafter⟩ := h.after
  obtain ⟨hresult, rfl⟩ := Prod.mk.inj (s.after_of_save fs ▸ hafter)
  exact ⟨by simpa using hresult, hready⟩

section Samples

open Storage.FileSystem

/-- A file system with one file, at its root. -/
def oneFile (name : String) (content : Bytes) : FileSystem :=
  FileSystem.empty.put (Location.root.child name) (.file content)

theorem isRegular_empty : FileSystem.empty.IsRegular := by
  have hnode : ∀ here node, FileSystem.empty.node? here = some node →
      here = .root ∧ node = .directory := by
    intro here node h
    unfold node? at h
    split at h
    · next heq => exact ⟨heq, (Option.some.inj h).symm⟩
    · simp [FileSystem.empty] at h
  refine ⟨fun here node h => ?_, fun here node h => ?_⟩
  · rw [(hnode here node h).1]
    rfl
  · rw [(hnode here node h).2]
    rfl

theorem isRegular_oneFile {name : String} (hname : '/' ∉ name.toList) (content : Bytes) :
    (oneFile name content).IsRegular := by
  have hnone : FileSystem.empty.node? (Location.root.child name) = none := by
    rw [node?, if_neg (Location.child_ne_root _ _)]
    rfl
  refine isRegular_empty.alters (.put (isLeaf_of_none hnone) content) ?_
  rw [Location.parent_child _ hname]
  rfl

/-- A save of one version to the cache at a path. -/
def sample (path : String) : Saving :=
  ⟨⟨path, .ofSeconds 300⟩, ⟨some "ironic", some "6385"⟩, "1.31", 1700000000000⟩

theorem readyIn_sample (content : Bytes) :
    (sample "v.json").ReadyIn (oneFile "v.json" content) [] .root "v.json" "v.tmp" where
  hosted := (sample "v.json").cache.isHosted_of_isRegular (isRegular_oneFile (by decide) content)
  directory parent hparent := by
    have hroot : (sample "v.json").cache.file.parent? = some ⟨[""]⟩ := rfl
    rw [hroot, Option.mem_some_iff] at hparent
    exact .inr (hparent ▸ rfl)
  fileNames := by constructor <;> decide
  temporaryNames := by constructor <;> decide
  leads := .here
  fileLeaf := isLeaf_of_file (node?_put_self (Location.child_ne_root _ _))
  temporaryLeaf := isLeaf_of_none (by
    rw [oneFile, node?_put_of_ne (by decide)]
    rfl)

end Samples

end Microversion.Cache.Saving
