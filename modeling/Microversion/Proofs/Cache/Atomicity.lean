import Microversion.Proofs.Cache.Readiness

/-! # A save is seen as a whole or not at all

Whichever operations of a save fail, and wherever it is left off, the path of the
cache leads to what it led to before or to the complete new document; a save that
reports an error has changed nothing there.
-/

namespace Microversion.Cache.Saving

open Storage

variable {s : Saving} {fs fs' : FileSystem}

/-- The temporary file is another one than the cache's, unless its path ends in no name. -/
def IsApart (s : Saving) : Prop :=
  s.temporary = s.cache.file → ∀ name ∈ s.cache.file.parts.getLast?, name = ".."

section Apart

variable {there : Location} {content : Bytes}

/-- What is read at the path of the cache does not stand in the place of the temporary file. -/
theorem Spot.ne_of_locate (hspot : s.Spot fs there) (hapart : s.IsApart)
    (h : s.cache.IsHosted fs) {found : Location} {node : Node}
    (hlocate : fs.locate (fun _ => true) s.cache.file = .ok (found, .bare))
    (hnode : fs.node? found = some node) (hleaf : node ≠ .directory) : found ≠ there := by
  obtain ⟨way, name, d, hnames, hd, hwalk⟩ := FileSystem.exists_of_locate h.tree
    (fun _ _ _ _ => FileSystem.ending_of_locate hlocate) hlocate (by simpa [hnode] using hleaf)
  obtain ⟨new, hnew, rfl⟩ := hspot.eq_child hnames.parts hd hnames.notUp
  by_cases hlink : fs.IsLink (d.child name)
  · obtain ⟨place, ⟨e, -, hplace, -⟩, hother⟩ := h.file d name (hd.endsIn hnames.parts) hlink
    obtain ⟨rfl, -⟩ := Prod.mk.inj (Except.ok.inj (hwalk.symm.trans hplace))
    exact hother new (hd.endsIn hnew.parts)
  · rw [FileSystem.walk_name hnames.notUp hnames.short fun _ => hlink] at hwalk
    obtain ⟨rfl, -⟩ := Prod.mk.inj (Except.ok.inj hwalk)
    rw [ne_eq, Location.child_inj]
    rintro rfl
    obtain ⟨new', hparts, -, hsame⟩ :=
      @Path.parts_withExtension _ _ _ "tmp" hnames.parts hnames.notUp (by decide)
    have hname := List.append_inj_right (hparts.symm.trans hnew.parts) rfl
    have hlast : name ∈ s.cache.file.parts.getLast? := by
      rw [hnames.parts]
      exact List.getLast?_concat
    exact hnames.notUp (hapart (hsame hnames.bare (List.singleton_inj.mp hname)) name hlast)

theorem Spot.read_of_read (hspot : s.Spot fs there) (hapart : s.IsApart) (h : s.cache.IsHosted fs)
    (halters : FileSystem.Alters there fs fs') (hread : fs.read s.cache.file = .ok content) :
    fs'.read s.cache.file = .ok content := by
  refine FileSystem.read_keeps halters.keeps (fun found node hlocate hnode hleaf => ?_) hread
  exact (halters.rest found (hspot.ne_of_locate hapart h hlocate hnode hleaf)).trans hnode

/-- What is done to the temporary file is not seen at the path of the cache. -/
theorem Spot.stored?_eq (hspot : s.Spot fs there) (hapart : s.IsApart) (h : s.cache.IsHosted fs)
    (halters : FileSystem.Alters there fs fs') : s.cache.stored? fs' = s.cache.stored? fs := by
  refine Option.ext fun content => ?_
  rw [stored?_eq_some, stored?_eq_some]
  constructor
  · exact (hspot.keeps halters.keeps).read_of_read hapart (h.alters hspot halters) halters.symm
  · exact hspot.read_of_read hapart h halters

end Apart

section Directories

/-- Making its directory does not bring a file to the path of the cache: the path has no steps
upwards, or the directory is there. -/
def IsSettled (s : Saving) (fs : FileSystem) : Prop :=
  ".." ∈ s.cache.file.parts → ∀ parent ∈ s.cache.file.parent?, fs.isDirectory parent

theorem makeParent_of_isDirectory (h : ∀ parent ∈ s.cache.file.parent?, fs.isDirectory parent) :
    (s.makeParent fs).1 = fs := by
  unfold makeParent
  split
  · next parent hparent =>
    rw [FileSystem.ensureDirectory, if_pos (.inl (h parent hparent))]
  · rfl

theorem stored?_makeParent (hregular : fs.IsRegular) (hsettled : s.IsSettled fs) :
    s.cache.stored? (s.makeParent fs).1 = s.cache.stored? fs := by
  by_cases hup : ".." ∈ s.cache.file.parts
  · rw [makeParent_of_isDirectory (hsettled hup)]
  obtain ⟨htree, hgrows⟩ := s.makeParent_grows hregular.tree
  have hmade := hregular.grows htree hgrows
  refine Option.ext fun content => ?_
  rw [stored?_eq_some, stored?_eq_some]
  constructor
  · intro h
    obtain ⟨way, name, d, hnames, hd, hnode⟩ :=
      FileSystem.exists_of_read hmade.tree (hmade.plainAt _) h
    have hname : name ∈ s.cache.file.parts := by
      rw [hnames.parts]
      exact List.mem_append_right _ List.mem_cons_self
    have hway : ∀ part ∈ way, part ∈ s.cache.file.parts := fun part hpart => by
      rw [hnames.parts]
      exact List.mem_append_left _ hpart
    -- only directories have been added, so the file was there, and so was its directory
    have hold : fs.node? (d.child name) = some (.file content) := by
      rcases hgrows (d.child name) with heq | ⟨-, hdir⟩
      · rw [← heq, hnode]
      · rw [hnode] at hdir
        cases hdir
    have hdirectory := hregular.tree _ _ hold
    rw [Location.parent_child _ (s.isClean_file.parts name hname)] at hdirectory
    have hleads := hd.of_isTree hregular.tree hmade.plain
      (fun part hpart => s.isClean_file.parts part (hway part hpart))
      (fun hpart => hup (hway _ hpart)) hdirectory
    exact FileSystem.read_file hnames hleads.1 hold
  · rw [← stored?_eq_some, ← stored?_eq_some]
    exact stored?_makeParent_of_some hregular.tree

end Directories

/-- The path of the cache leads to what it led to before. -/
theorem maintains_stored? (hregular : fs.IsRegular) (hapart : s.IsApart)
    (hsettled : s.IsSettled fs) : s.Maintains fs fun fs' =>
      s.cache.IsHosted fs' ∧ s.cache.stored? fs' = s.cache.stored? fs where
  start := ⟨s.cache.isHosted_of_isRegular hregular, rfl⟩
  made := ⟨(s.cache.isHosted_of_isRegular hregular).makeParent,
    stored?_makeParent hregular hsettled⟩
  altered := fun ⟨hhosted, hstored⟩ hspot halters =>
    ⟨hhosted.alters hspot halters, (hspot.stored?_eq hapart hhosted halters).trans hstored⟩
  hosted := And.left

/-- What is seen at the path of the cache is what was there before or the complete new document,
and which of them it is once there is a result. -/
structure IsWhole (s : Saving) (fs₀ : FileSystem) (new : Document) (stage : Stage)
    (fs : FileSystem) : Prop where
  stored : s.cache.stored? fs = s.cache.stored? fs₀ ∨ s.cache.stored? fs = some new.encode
  failed : ∀ e, stage.result? = some (.error e) → s.cache.stored? fs = s.cache.stored? fs₀
  done : stage.result? = some (.ok ()) → s.cache.stored? fs = some new.encode
  retrieved :
    (∀ maxAge now key, s.cache.retrieveWithin maxAge now key fs =
      s.cache.retrieveWithin maxAge now key fs₀) ∨
    ∀ maxAge now key, s.cache.retrieveWithin maxAge now key fs =
      (Table.get? key.text new).bind (fresh? maxAge now)

/-- A save is seen as a whole or not at all, whichever of its operations fail and after however
many of them it is left off. -/
theorem isWhole_of_after (s : Saving) (fs : FileSystem) (failures : Nat → Option Failure) (n : Nat)
    (hregular : fs.IsRegular) (hapart : s.IsApart) (hsettled : s.IsSettled fs)
    (hnow : s.now < UInt64.size) :
    s.IsWhole fs (s.intended (failures 0) fs) (s.after failures fs n).1
      (s.after failures fs n).2 := by
  have hmaintains := maintains_stored? hregular hapart hsettled
  rcases (secure_after hmaintains failures n).kept_or_done hmaintains with
    ⟨hresult, -, hstored⟩ | ⟨hresult, -, hstored⟩
  · refine ⟨.inl hstored, fun _ _ => hstored, fun h => absurd h hresult, .inl ?_⟩
    intro maxAge now key
    rw [retrieveWithin_eq, retrieveWithin_eq, hstored]
  · refine ⟨.inr hstored, fun e h => ?_, fun _ => hstored, .inr ?_⟩
    · rw [hresult] at h
      cases h
    · intro maxAge now key
      have hproper := s.isProper_intended hnow (failures 0) fs
      rw [retrieveWithin_eq, hstored, Option.bind_some, Document.decode?_encode hproper,
        Option.bind_some]

section Samples

open Storage.FileSystem

theorem isWhole_of_fullDisk :
    let s := sample "v.json"
    let fs := oneFile "v.json" [0x7B, 0x7D]
    let failures := fun n => if n = 3 then some ⟨.noSpace, 5⟩ else none
    fs.IsRegular ∧ s.IsApart ∧ s.IsSettled fs ∧ s.now < UInt64.size ∧
      s.IsWhole fs (s.intended (failures 0) fs) (s.after failures fs 5).1
        (s.after failures fs 5).2 := by
  intro s fs failures
  have hregular : fs.IsRegular := isRegular_oneFile (by decide) _
  have hapart : s.IsApart := fun h => absurd h (by decide +kernel)
  have hsettled : s.IsSettled fs := fun h => absurd h (by decide +kernel)
  have hnow : s.now < UInt64.size := by decide
  exact ⟨hregular, hapart, hsettled, hnow,
    isWhole_of_after s fs failures 5 hregular hapart hsettled hnow⟩

/-- A cache whose name has the extension of temporary files has lost its content as soon as the
file is opened. -/
theorem stored?_sample_tmp :
    (sample "v.tmp").cache.stored? (oneFile "v.tmp" [0x7B, 0x7D]) = some [0x7B, 0x7D] ∧
      (sample "v.tmp").cache.stored?
        ((sample "v.tmp").after (fun _ => none) (oneFile "v.tmp" [0x7B, 0x7D]) 3).2 = some [] := by
  generalize hs : sample "v.tmp" = s
  generalize hfs : oneFile "v.tmp" [0x7B, 0x7D] = fs
  have hnames : Names s.cache.file [] "v.tmp" := by
    subst hs
    constructor <;> decide
  have hregular : fs.IsRegular := hfs ▸ isRegular_oneFile (by decide) _
  have hnode : fs.node? (Location.root.child "v.tmp") = some (.file [0x7B, 0x7D]) :=
    hfs ▸ node?_put_self (Location.child_ne_root _ _)
  have hleaf := isLeaf_of_file hnode
  have hread := read_file hnames .here hnode
  refine ⟨stored?_eq_some.mpr hread, ?_⟩
  have hload : s.after (fun _ => none) fs 1 = (.directories (s.updated []), fs) := by
    have hcontent : s.cache.content fs = .entries [] := by
      rw [content, hread]
      rfl
    simp only [after, step, hcontent, afterLoad]
  have hmake : s.makeParent fs = (fs, .ok ()) := by
    have hparent : s.cache.file.parent? = some ⟨[""]⟩ := by subst hs; rfl
    simp only [makeParent, hparent]
    exact if_pos (.inr rfl)
  have hopen : fs.openEmpty s.temporary =
      .ok (fs.put (Location.root.child "v.tmp") (.file []), Location.root.child "v.tmp") := by
    have hsame : s.temporary = s.cache.file := by subst hs; rfl
    rw [hsame, openEmpty, locate_of_leads hnames (fun _ => hleaf.not_isLink) .here]
    simp only [hnode]
    rfl
  have hafter : (s.after (fun _ => none) fs 3).2 =
      fs.put (Location.root.child "v.tmp") (.file []) := by
    rw [after, after, hload]
    simp only [step, hmake, hopen]
  rw [hafter]
  exact stored?_eq_some.mpr (read_file hnames .here (node?_put_self hleaf.ne_root))

/-- The directory that a path goes up from is made. -/
theorem makeParent_sample_up :
    ((oneFile "x.json" []).put (Location.root.child "x.tmp") .directory).IsRegular ∧
      (sample "x.tmp/../x.json").makeParent (oneFile "x.json" []) =
        ((oneFile "x.json" []).put (Location.root.child "x.tmp") .directory, .ok ()) := by
  generalize hs : sample "x.tmp/../x.json" = s
  generalize hfs : oneFile "x.json" [] = fs
  generalize hmade : fs.put (Location.root.child "x.tmp") .directory = fs'
  have hregular : fs.IsRegular := hfs ▸ isRegular_oneFile (by decide) _
  have hfirst : fs.makeDirectory ⟨["x.tmp"]⟩ = .ok fs' := by
    have hlocate : fs.locate (fun _ => false) ⟨["x.tmp"]⟩ =
        .ok (Location.root.child "x.tmp", .bare) := by
      rw [hregular.locate_eq, ← hfs]
      rfl
    have hnone : fs.node? (Location.root.child "x.tmp") = none := by
      rw [← hfs]
      rfl
    simp only [makeDirectory, hlocate, hnone, hmade]
  have hregular' : fs'.IsRegular := by
    have hclean : Path.IsClean ⟨["x.tmp"]⟩ := by simp [Path.IsClean]
    obtain ⟨htree, hgrows⟩ := makeDirectory_ok hregular.tree hclean hfirst
    exact hregular.grows htree hgrows
  refine ⟨hregular', ?_⟩
  have hparent : s.cache.file.parent? = some ⟨["x.tmp", ".."]⟩ := by subst hs; rfl
  have hbefore : Path.parent? ⟨["x.tmp", ".."]⟩ = some ⟨["x.tmp"]⟩ := rfl
  have hup : ∀ follow, fs.locate follow ⟨["x.tmp", ".."]⟩ = .error .noEntry := by
    intro follow
    rw [hregular.locate_eq, ← hfs]
    rfl
  have hup' : ∀ follow, fs'.locate follow ⟨["x.tmp", ".."]⟩ = .ok (.root, .bare) := by
    intro follow
    rw [hregular'.locate_eq, ← hmade, ← hfs]
    rfl
  have habsent : ¬(fs.isDirectory ⟨["x.tmp", ".."]⟩ = true ∨
      Path.size ⟨["x.tmp", ".."]⟩ = 0) := by
    simp only [isDirectory, hup]
    decide
  have hfirsts : fs.makeDirectories (Path.parts ⟨["x.tmp", ".."]⟩).length ⟨["x.tmp"]⟩ =
      (fs', .ok ()) := by
    have htwo : (Path.parts ⟨["x.tmp", ".."]⟩).length = 2 := rfl
    simp only [htwo, makeDirectories, hfirst]
  have hthere : fs'.isDirectory ⟨["x.tmp", ".."]⟩ = true := by
    simp only [isDirectory, hup', node?_root]
    rfl
  simp only [makeParent, hparent, ensureDirectory, if_neg habsent, makeDirectories,
    makeDirectory, hup, hbefore, hfirsts, hup', node?_root, hthere, if_true]

/-- That directory brings another file to the path, and it stays there when the save fails. -/
theorem stored?_sample_up :
    (sample "x.tmp/../x.json").cache.stored? (oneFile "x.json" []) = none ∧
      ((sample "x.tmp/../x.json").after (fun _ => none) (oneFile "x.json" []) 4).1.result? =
        some (.error (.io .isDirectory)) ∧
      (sample "x.tmp/../x.json").cache.stored?
        ((sample "x.tmp/../x.json").after (fun _ => none) (oneFile "x.json" []) 4).2 =
        some [] := by
  have hregular : (oneFile "x.json" []).IsRegular := isRegular_oneFile (by decide) _
  obtain ⟨hregular', hmake⟩ := makeParent_sample_up
  generalize hs : sample "x.tmp/../x.json" = s at hmake ⊢
  generalize hfs : oneFile "x.json" [] = fs at hregular hregular' hmake ⊢
  generalize hmade : fs.put (Location.root.child "x.tmp") .directory = fs' at hregular' hmake
  have hfile : s.cache.file = ⟨["x.tmp", "..", "x.json"]⟩ := by subst hs; rfl
  have htemporary : s.temporary = ⟨["x.tmp", "..", "x.tmp"]⟩ := by subst hs; rfl
  have hread : fs.read s.cache.file = .error .noEntry := by
    have hlocate : fs.locate (fun _ => true) s.cache.file = .error .noEntry := by
      rw [hregular.locate_eq, hfile, ← hfs]
      rfl
    simp only [FileSystem.read, hlocate]
  have hload : s.after (fun _ => none) fs 1 = (.directories (s.updated []), fs) := by
    simp only [after, step, Cache.content, hread, Content.ofRead, afterLoad]
  have hopen : ∀ follow, fs'.locate follow s.temporary =
      .ok (Location.root.child "x.tmp", .bare) := by
    intro follow
    rw [hregular'.locate_eq, htemporary, ← hmade, ← hfs]
    rfl
  have hnode : fs'.node? (Location.root.child "x.tmp") = some .directory :=
    hmade ▸ node?_put_self (Location.child_ne_root _ _)
  have hafter : s.after (fun _ => none) fs 4 = (.finished (.error (.io .isDirectory)), fs') := by
    have hthree : s.after (fun _ => none) fs 3 = (.cleanUp .isDirectory, fs') := by
      rw [after, after, hload]
      simp only [step, hmake, openEmpty, hopen, hnode]
      rfl
    rw [after, hthree]
    simp only [step, remove, hopen, hnode]
    rfl
  rw [hafter]
  refine ⟨?_, rfl, stored?_eq_some.mpr ?_⟩
  · rw [stored?, hread]
    rfl
  · have hfound : fs'.locate (fun _ => true) s.cache.file =
        .ok (Location.root.child "x.json", .bare) := by
      rw [hregular'.locate_eq, hfile, ← hmade, ← hfs]
      rfl
    have hjson : fs'.node? (Location.root.child "x.json") = some (.file []) := by
      rw [← hmade, ← hfs]
      rfl
    simp only [FileSystem.read, hfound, hjson, if_true]

/-- Neither of the two conditions can be left out. -/
theorem not_isWhole_of_sample :
    ((oneFile "v.tmp" [0x7B, 0x7D]).IsRegular ∧
      ¬(sample "v.tmp").IsWhole (oneFile "v.tmp" [0x7B, 0x7D])
        ((sample "v.tmp").intended none (oneFile "v.tmp" [0x7B, 0x7D]))
        ((sample "v.tmp").after (fun _ => none) (oneFile "v.tmp" [0x7B, 0x7D]) 3).1
        ((sample "v.tmp").after (fun _ => none) (oneFile "v.tmp" [0x7B, 0x7D]) 3).2) ∧
    (oneFile "x.json" []).IsRegular ∧
      ¬(sample "x.tmp/../x.json").IsWhole (oneFile "x.json" [])
        ((sample "x.tmp/../x.json").intended none (oneFile "x.json" []))
        ((sample "x.tmp/../x.json").after (fun _ => none) (oneFile "x.json" []) 4).1
        ((sample "x.tmp/../x.json").after (fun _ => none) (oneFile "x.json" []) 4).2 := by
  refine ⟨⟨isRegular_oneFile (by decide) _, fun h => ?_⟩, isRegular_oneFile (by decide) _,
    fun h => ?_⟩
  · obtain ⟨hbefore, hafter⟩ := stored?_sample_tmp
    rcases h.stored with hstored | hstored
    · rw [hbefore, hafter] at hstored
      cases hstored
    · rw [hafter, Option.some.injEq] at hstored
      have hproper := (sample "v.tmp").isProper_intended (by decide) none
        (oneFile "v.tmp" [0x7B, 0x7D])
      have hdecode := Document.decode?_encode hproper
      have hnone : Document.decode? [] = none := by decide +kernel
      rw [← hstored, hnone] at hdecode
      cases hdecode
  · obtain ⟨hbefore, hresult, hafter⟩ := stored?_sample_up
    have hstored := h.failed _ hresult
    rw [hbefore, hafter] at hstored
    cases hstored

end Samples

end Microversion.Cache.Saving
