import Microversion.Cache.Saving
import Microversion.Proofs.Cache.Document
import Microversion.Proofs.Storage.Operations

/-! # The stages of a save

A save writes to the temporary file, which stands beside the cache file, and moves it
there. Whatever directories and other files do to be kept by these operations is
kept at every stage, also when some of them fail.
-/

namespace Microversion.Cache

open Storage

/-- The bytes of the file of a cache, if they can be read. -/
def stored? (c : Cache) (fs : FileSystem) : Option Bytes := (fs.read c.file).toOption

theorem document?_content (c : Cache) (fs : FileSystem) :
    (c.content fs).document? = (c.stored? fs).bind Document.decode? := by
  unfold content stored?
  cases fs.read c.file with
  | error e => cases e <;> rfl
  | ok bs =>
    simp only [Content.ofRead, Except.toOption, Option.bind_some]
    cases Document.decode? bs <;> rfl

theorem stored?_eq_some {c : Cache} {fs : FileSystem} {bs : Bytes} :
    c.stored? fs = some bs ↔ fs.read c.file = .ok bs := by
  unfold stored?
  cases fs.read c.file <;> simp [Except.toOption]

theorem isProper_of_content {c : Cache} {fs : FileSystem} {doc : Document}
    (h : (c.content fs).document? = some doc) : doc.IsProper := by
  rw [document?_content] at h
  obtain ⟨bs, -, hbs⟩ := Option.bind_eq_some_iff.mp h
  exact isProper_of_decode? hbs

theorem retrieveWithin_eq (c : Cache) (maxAge : Duration) (now : Nat) (key : ServerKey)
    (fs : FileSystem) : c.retrieveWithin maxAge now key fs =
      (((c.stored? fs).bind Document.decode?).bind (Table.get? key.text)).bind
        (fresh? maxAge now) := by
  rw [retrieveWithin, document?_content]

theorem content_of_stored? {c : Cache} {fs : FileSystem} {bs : Bytes} {doc : Document}
    (h : c.stored? fs = some bs) (hdoc : Document.decode? bs = some doc) :
    c.content fs = .entries doc := by
  rw [content, stored?_eq_some.mp h]
  simp only [Content.ofRead, hdoc]

/-- Whatever there is lies in a directory, nothing but a file or a directory stands where the path
of the temporary file ends, and a link where the path of the cache ends leads to something that is
neither a directory nor that file. -/
structure IsHosted (c : Cache) (fs : FileSystem) : Prop where
  tree : fs.IsTree
  temporary : fs.PlainAt (c.file.withExtension "tmp")
  file : ∀ d name, fs.EndsIn c.file d name → fs.IsLink (d.child name) → ∃ there,
    fs.LinksTo d name there ∧
      ∀ new, fs.EndsIn (c.file.withExtension "tmp") d new → there ≠ d.child new

theorem isHosted_of_isRegular (c : Cache) {fs : FileSystem} (h : fs.IsRegular) :
    c.IsHosted fs :=
  ⟨h.tree, h.plainAt _, fun d name _ hlink => absurd hlink (h.plain (d.child name)).not_isLink⟩

namespace IsHosted

variable {c : Cache} {fs fs' : FileSystem} {way : List String} {name new : String} {d : Location}

theorem grows (h : c.IsHosted fs) (htree : fs'.IsTree) (hgrows : fs.Grows fs') :
    c.IsHosted fs' := by
  refine ⟨htree, fun d name hends => hgrows.isPlain (h.temporary d name (hends.of_grows hgrows)),
    fun d name hends hlink => ?_⟩
  obtain ⟨there, hthere, hother⟩ := h.file d name (hends.of_grows hgrows) (hgrows.isLink hlink)
  exact ⟨there, hthere.keeps hgrows.keeps fun _ => hgrows.of_some,
    fun new hnew => hother new (hnew.of_grows hgrows)⟩

/-- Where the directory of the cache is there, what counts is what stands in it under the names of
the two files. -/
theorem of_leads (htree : fs.IsTree) (hname : c.file.parts = way ++ [name])
    (hnew : (c.file.withExtension "tmp").parts = way ++ [new])
    (hd : fs.Leads FileSystem.maxLinks .root way d) (hplain : fs.IsPlain (d.child new))
    (hlink : fs.IsLink (d.child name) → ∃ there, fs.LinksTo d name there ∧ there ≠ d.child new) :
    c.IsHosted fs := by
  refine ⟨htree, fun d' new' hends => ?_, fun d' name' hends hlink' => ?_⟩
  · obtain ⟨rfl, rfl⟩ := hends.unique hnew hd
    exact hplain
  · obtain ⟨rfl, rfl⟩ := hends.unique hname hd
    obtain ⟨there, hthere, hother⟩ := hlink hlink'
    refine ⟨there, hthere, fun new' hends' => ?_⟩
    obtain ⟨-, rfl⟩ := hends'.unique hnew hd
    exact hother

end IsHosted

namespace Saving

variable {s : Saving} {fs fs' : FileSystem} {there : Location}

theorem isClean_file (s : Saving) : s.cache.file.IsClean := Path.isClean_ofText _

theorem isClean_temporary (s : Saving) : s.temporary.IsClean :=
  Path.isClean_withExtension (by decide) (by decide) s.isClean_file

/-- The path of the temporary file leads there. -/
def Spot (s : Saving) (fs : FileSystem) (there : Location) : Prop :=
  ∃ way name d, FileSystem.Names s.temporary way name ∧
    fs.Leads FileSystem.maxLinks .root way d ∧ there = d.child name

theorem spot_of_locate (h : s.cache.IsHosted fs)
    {follow : Ending → Bool} {e : Ending} (hlocate : fs.locate follow s.temporary = .ok (there, e))
    (hleaf : fs.node? there ≠ some .directory) : s.Spot fs there ∧ fs.IsLeaf there := by
  obtain ⟨hfile, way, name, d, hnames, hd, hthere⟩ := FileSystem.exists_leaf h.tree h.temporary
    (fun _ _ hparts hup => Path.ending_withExtension (by decide) hparts hup) hlocate hleaf
  exact ⟨⟨way, name, d, hnames, hd, hthere⟩, hfile⟩

theorem openTemporary_ok (h : s.cache.IsHosted fs)
    (hopen : fs.openEmpty s.temporary = .ok (fs', there)) :
    s.Spot fs there ∧ fs.IsLeaf there ∧ fs' = fs.put there (.file []) := by
  obtain ⟨⟨e, hlocate⟩, hleaf, hput⟩ := FileSystem.openEmpty_ok hopen
  obtain ⟨hspot, hfile⟩ := spot_of_locate h hlocate hleaf
  exact ⟨hspot, hfile, hput hfile⟩

theorem removeTemporary_ok (h : s.cache.IsHosted fs) (hremove : fs.remove s.temporary = .ok fs') :
    ∃ there, s.Spot fs there ∧ fs.IsLeaf there ∧ fs' = fs.erase there := by
  obtain ⟨there, e, hlocate, hleaf, herase⟩ := FileSystem.remove_ok hremove
  obtain ⟨hspot, hfile⟩ := spot_of_locate h hlocate hleaf
  exact ⟨there, hspot, hfile, herase⟩

namespace Spot

theorem keeps (h : s.Spot fs there) (hkeeps : fs.Keeps fs') : s.Spot fs' there := by
  obtain ⟨way, name, d, hnames, hd, hthere⟩ := h
  exact ⟨way, name, d, hnames, hd.keeps hkeeps, hthere⟩

theorem locate (h : s.Spot fs there) (hhosted : s.cache.IsHosted fs) (follow : Ending → Bool) :
    fs.locate follow s.temporary = .ok (there, .bare) := by
  obtain ⟨way, name, d, hnames, hd, rfl⟩ := h
  exact FileSystem.locate_of_leads hnames
    (fun _ => (hhosted.temporary.isPlain hnames.parts hd).not_isLink) hd

/-- The temporary file stands beside the cache file. -/
theorem eq_child (h : s.Spot fs there) {way : List String} {d : Location} {name : String}
    (hparts : s.cache.file.parts = way ++ [name]) (hd : fs.Leads FileSystem.maxLinks .root way d)
    (hup : name ≠ "..") : ∃ new, FileSystem.Names s.temporary way new ∧ there = d.child new := by
  obtain ⟨way', new, d', hnames, hd', rfl⟩ := h
  obtain ⟨new', hparts', -⟩ := @Path.parts_withExtension _ _ _ "tmp" hparts hup (by decide)
  obtain ⟨rfl, -⟩ := List.append_inj' (hnames.parts.symm.trans hparts') rfl
  exact ⟨new, hnames, by rw [hd.unique hd']⟩

end Spot

theorem makeParent_grows (htree : fs.IsTree) :
    (s.makeParent fs).1.IsTree ∧ fs.Grows (s.makeParent fs).1 := by
  unfold makeParent
  split
  · next parent hparent =>
    exact FileSystem.ensureDirectory_grows htree
      (Path.isClean_of_parent? s.isClean_file hparent)
  · exact ⟨htree, .refl fs⟩

end Saving

namespace IsHosted

variable {s : Saving} {fs fs' : FileSystem} {there : Location}

theorem alters (h : s.cache.IsHosted fs) (hspot : s.Spot fs there)
    (halters : FileSystem.Alters there fs fs') : s.cache.IsHosted fs' := by
  have hparent := FileSystem.parent_of_locate h.tree s.isClean_temporary
    (hspot.locate h fun _ => false)
  obtain ⟨way, new, d, hnames, hd, rfl⟩ := hspot
  obtain ⟨name, hparts, -⟩ :=
    Path.exists_parts_of_withExtension (by decide) hnames.parts hnames.notUp
  refine .of_leads (halters.isTree h.tree hparent) hparts hnames.parts (hd.keeps halters.keeps)
    (halters.isPlain (h.temporary.isPlain hnames.parts hd)) fun hlink => ?_
  have hne : d.child name ≠ d.child new := fun heq => halters.after.not_isLink (heq ▸ hlink)
  obtain ⟨target, hnode⟩ := hlink
  rw [halters.rest _ hne] at hnode
  obtain ⟨there, hthere, hother⟩ := h.file d name (hd.endsIn hparts) ⟨target, hnode⟩
  have hapart := hother new (hd.endsIn hnames.parts)
  exact ⟨there, hthere.keeps halters.keeps fun _ => (halters.rest there hapart).trans, hapart⟩

/-- The temporary file, once it has been moved, is what is found at the path of the cache. -/
theorem rename (h : s.cache.IsHosted fs) (hspot : s.Spot fs there) {data : Bytes}
    (hfile : fs.node? there = some (.file data))
    (hrename : fs.rename s.temporary s.cache.file = .ok fs') :
    s.cache.IsHosted fs' ∧ s.cache.stored? fs' = some data := by
  have hmoves := FileSystem.rename_file h.tree s.isClean_file
    (fun d name hends hlink => (h.file d name hends hlink).imp fun _ => And.left)
    (hspot.locate h fun _ => false) hfile hrename
  obtain ⟨way, name, d, hnames, hd, hd', hnode⟩ := hmoves.arrives
  obtain ⟨new, hnew, -⟩ := hspot.eq_child hnames.parts hd hnames.notUp
  refine ⟨.of_leads hmoves.tree hnames.parts hnew.parts hd' ?_ fun hlink => ?_,
    stored?_eq_some.mpr (FileSystem.read_file hnames hd' hnode)⟩
  · exact hmoves.plain _ (h.temporary.isPlain hnew.parts hd)
  · exact absurd hlink (FileSystem.not_isLink_of_file hnode)

theorem makeParent (h : s.cache.IsHosted fs) : s.cache.IsHosted (s.makeParent fs).1 := by
  obtain ⟨htree, hgrows⟩ := s.makeParent_grows h.tree
  exact h.grows htree hgrows

end IsHosted

namespace Saving

variable {s : Saving} {fs fs' : FileSystem} {there : Location}

/-- A file that could be read before its directory is made can be read after. -/
theorem stored?_makeParent_of_some (htree : fs.IsTree) {content : Bytes}
    (hstored : s.cache.stored? fs = some content) :
    s.cache.stored? (s.makeParent fs).1 = some content := by
  obtain ⟨-, hgrows⟩ := s.makeParent_grows htree
  refine stored?_eq_some.mpr ?_
  exact FileSystem.read_keeps hgrows.keeps (fun _ _ _ hnode _ => hgrows.of_some hnode)
    (stored?_eq_some.mp hstored)

section Stages

variable {fs₀ : FileSystem} {kept : FileSystem → Prop} {new : Document}

/-- What is kept when the directory of the cache is made and when the temporary file changes. -/
structure Maintains (s : Saving) (fs₀ : FileSystem) (kept : FileSystem → Prop) : Prop where
  start : kept fs₀
  made : kept (s.makeParent fs₀).1
  altered : ∀ {fs fs' : FileSystem} {there : Location}, kept fs → s.Spot fs there →
    FileSystem.Alters there fs fs' → kept fs'
  hosted : ∀ {fs : FileSystem}, kept fs → s.cache.IsHosted fs

theorem maintains_isHosted (h : s.cache.IsHosted fs₀) : s.Maintains fs₀ s.cache.IsHosted :=
  ⟨h, h.makeParent, fun h hspot halters => h.alters hspot halters, id⟩

/-- What is found when the file is read, which may be made to fail. -/
def loaded (s : Saving) (failure : Option Failure) (fs : FileSystem) : Content :=
  match failure with
  | none => s.cache.content fs
  | some f => .ofRead (.error f.reason)

/-- The document that is to be written: the entries that were read with the new one among them. -/
def intended (s : Saving) (failure : Option Failure) (fs : FileSystem) : Document :=
  s.updated ((s.loaded failure fs).document?.getD [])

theorem isProper_intended (s : Saving) (hnow : s.now < UInt64.size) (failure : Option Failure)
    (fs : FileSystem) : (s.intended failure fs).IsProper := by
  have hloaded : ((s.loaded failure fs).document?.getD []).IsProper := by
    cases hdoc : (s.loaded failure fs).document? with
    | none => exact Document.isProper_nil
    | some doc =>
      cases failure with
      | none => exact isProper_of_content hdoc
      | some f => cases hreason : f.reason <;> simp [loaded, Content.ofRead, hreason] at hdoc <;>
          cases hdoc
  exact hloaded.insert _ hnow

/-- What holds before each stage. -/
def Secure (s : Saving) (fs₀ : FileSystem) (kept : FileSystem → Prop) (new : Document) :
    Stage → FileSystem → Prop
  | .load, fs => fs = fs₀
  | .directories doc, fs => fs = fs₀ ∧ doc = new
  | .openTemporary data, fs => kept fs ∧ data = new.encode
  | .write there data, fs => kept fs ∧ data = new.encode ∧ s.Spot fs there ∧
      ∃ content, fs.node? there = some (.file content)
  | .flush, fs => kept fs ∧ ∃ there, s.Spot fs there ∧ fs.node? there = some (.file new.encode)
  | .move, fs => kept fs ∧ ∃ there, s.Spot fs there ∧ fs.node? there = some (.file new.encode)
  | .cleanUp _, fs => kept fs
  | .finished (.error _), fs => kept fs
  | .finished (.ok _), fs => s.cache.IsHosted fs ∧ s.cache.stored? fs = some new.encode

theorem afterLoad_cases (s : Saving) (content : Content) :
    s.afterLoad content = .directories (s.updated (content.document?.getD [])) ∨
      ∃ e, s.afterLoad content = .finished (.error e) := by
  cases content with
  | absent => exact .inl rfl
  | unreadable reason => exact .inr ⟨_, rfl⟩
  | corrupt => exact .inl rfl
  | entries doc => exact .inl rfl

theorem secure_load (hkept : s.Maintains fs₀ kept) (failure : Option Failure) :
    s.Secure fs₀ kept (s.intended failure fs₀) (s.afterLoad (s.loaded failure fs₀)) fs₀ := by
  rcases s.afterLoad_cases (s.loaded failure fs₀) with h | ⟨e, h⟩
  · rw [h]
    exact ⟨rfl, rfl⟩
  · rw [h]
    exact hkept.start

theorem secure_directories (hkept : s.Maintains fs₀ kept) :
    s.Secure fs₀ kept new (s.step none (.directories new) fs₀).1
      (s.step none (.directories new) fs₀).2 := by
  have hmade := hkept.made
  simp only [step]
  split
  · next heq =>
    rw [heq] at hmade
    exact ⟨hmade, rfl⟩
  · next heq =>
    rw [heq] at hmade
    exact hmade

theorem secure_openTemporary (hkept : s.Maintains fs₀ kept) (h : kept fs) :
    s.Secure fs₀ kept new (s.step none (.openTemporary new.encode) fs).1
      (s.step none (.openTemporary new.encode) fs).2 := by
  simp only [step]
  split
  · next fs' there hopen =>
    obtain ⟨hspot, hleaf, rfl⟩ := openTemporary_ok (hkept.hosted h) hopen
    have halters := FileSystem.Alters.put hleaf []
    exact ⟨hkept.altered h hspot halters, rfl, hspot.keeps halters.keeps, [],
      FileSystem.node?_put_self hleaf.ne_root⟩
  · exact h

theorem secure_write (hkept : s.Maintains fs₀ kept) (h : kept fs) (hspot : s.Spot fs there)
    {content : Bytes} (hfile : fs.node? there = some (.file content))
    (failure : Option Failure) :
    s.Secure fs₀ kept new (s.step failure (.write there new.encode) fs).1
      (s.step failure (.write there new.encode) fs).2 := by
  have hleaf := FileSystem.isLeaf_of_file hfile
  cases failure with
  | none =>
    have halters := FileSystem.Alters.put hleaf new.encode
    simp only [step, FileSystem.write_file hfile]
    exact ⟨hkept.altered h hspot halters, there, hspot.keeps halters.keeps,
      FileSystem.node?_put_self hleaf.ne_root⟩
  | some f =>
    simp only [step, FileSystem.write_file hfile]
    exact hkept.altered h hspot (FileSystem.Alters.put hleaf _)

theorem secure_move (hkept : s.Maintains fs₀ kept) (h : kept fs) (hspot : s.Spot fs there)
    (hfile : fs.node? there = some (.file new.encode)) :
    s.Secure fs₀ kept new (s.step none .move fs).1 (s.step none .move fs).2 := by
  simp only [step]
  split
  · next fs' hrename => exact (hkept.hosted h).rename hspot hfile hrename
  · exact h

theorem kept_remove (hkept : s.Maintains fs₀ kept) (h : kept fs) :
    kept ((fs.remove s.temporary).toOption.getD fs) := by
  cases hremove : fs.remove s.temporary with
  | error e => exact h
  | ok fs' =>
    obtain ⟨there, hspot, hleaf, rfl⟩ := removeTemporary_ok (hkept.hosted h) hremove
    exact hkept.altered h hspot (.erase hleaf)

/-- One stage keeps what holds before each stage, also when it is made to fail. -/
theorem Secure.step (hkept : s.Maintains fs₀ kept) (failure : Option Failure) {stage : Stage}
    (hload : stage = .load → new = s.intended failure fs₀)
    (h : s.Secure fs₀ kept new stage fs) :
    s.Secure fs₀ kept new (s.step failure stage fs).1 (s.step failure stage fs).2 := by
  cases stage with
  | load =>
    obtain rfl : fs = fs₀ := h
    obtain rfl := hload rfl
    cases failure <;> exact secure_load hkept _
  | directories doc =>
    obtain ⟨rfl, rfl⟩ := h
    cases failure with
    | none => exact secure_directories hkept
    | some f => exact hkept.start
  | openTemporary data =>
    obtain ⟨h, rfl⟩ := h
    cases failure with
    | none => exact secure_openTemporary hkept h
    | some f => exact h
  | write there data =>
    obtain ⟨h, rfl, hspot, content, hfile⟩ := h
    exact secure_write hkept h hspot hfile failure
  | flush =>
    cases failure with
    | none => exact h
    | some f => exact h.1
  | move =>
    obtain ⟨h, there, hspot, hfile⟩ := h
    cases failure with
    | none => exact secure_move hkept h hspot hfile
    | some f => exact h
  | cleanUp reason =>
    cases failure with
    | none => exact kept_remove hkept h
    | some f => exact h
  | finished result => exact h

/-- Until a save has succeeded what is kept is kept; then its document is in the file. -/
theorem Secure.kept_or_done (hkept : s.Maintains fs₀ kept) {stage : Stage}
    (h : s.Secure fs₀ kept new stage fs) :
    stage.result? ≠ some (.ok ()) ∧ kept fs ∨
      stage.result? = some (.ok ()) ∧ s.cache.IsHosted fs ∧
        s.cache.stored? fs = some new.encode := by
  cases stage with
  | load =>
    obtain rfl : fs = fs₀ := h
    exact .inl ⟨by simp [Stage.result?], hkept.start⟩
  | directories doc =>
    obtain ⟨rfl, -⟩ := h
    exact .inl ⟨by simp [Stage.result?], hkept.start⟩
  | openTemporary data => exact .inl ⟨by simp [Stage.result?], h.1⟩
  | write there data => exact .inl ⟨by simp [Stage.result?], h.1⟩
  | flush => exact .inl ⟨by simp [Stage.result?], h.1⟩
  | move => exact .inl ⟨by simp [Stage.result?], h.1⟩
  | cleanUp reason => exact .inl ⟨by simp [Stage.result?], h⟩
  | finished result =>
    cases result with
    | error e => exact .inl ⟨by simp [Stage.result?], h⟩
    | ok => exact .inr ⟨rfl, h⟩

theorem step_ne_load (s : Saving) (failure : Option Failure) (stage : Stage) (fs : FileSystem) :
    (s.step failure stage fs).1 ≠ .load := by
  intro heq
  by_cases hrank : 0 < stage.rank
  · have hlt := s.rank_step_lt failure fs hrank
    rw [heq] at hlt
    cases stage <;> simp [Stage.rank] at hlt
  · cases stage with
    | finished result => cases failure <;> cases heq
    | _ => exact absurd (by simp [Stage.rank]) hrank

theorem secure_after (hkept : s.Maintains fs₀ kept) (failures : Nat → Option Failure) (n : Nat) :
    s.Secure fs₀ kept (s.intended (failures 0) fs₀) (s.after failures fs₀ n).1
      (s.after failures fs₀ n).2 := by
  induction n with
  | zero => exact rfl
  | succ n ih =>
    refine ih.step hkept (failures n) fun hload => ?_
    cases n with
    | zero => rfl
    | succ n => exact absurd hload (s.step_ne_load _ _ _)

end Stages

section Completion

theorem rank_after_le (s : Saving) (failures : Nat → Option Failure) (fs : FileSystem) (n : Nat) :
    (s.after failures fs n).1.rank ≤ 7 - n := by
  induction n with
  | zero => exact Nat.le_refl _
  | succ n ih =>
    by_cases hrank : 0 < (s.after failures fs n).1.rank
    · have hlt := s.rank_step_lt (failures n) (s.after failures fs n).2 hrank
      simp only [after]
      omega
    · cases hstage : (s.after failures fs n).1 with
      | finished result => simp [after, hstage, step, Stage.rank]
      | _ => exact absurd (by simp [hstage, Stage.rank]) hrank

/-- There is a result after seven stages. -/
theorem exists_result (s : Saving) (failures : Nat → Option Failure) (fs : FileSystem) :
    ∃ result, (s.after failures fs 7).1 = .finished result := by
  have hrank := s.rank_after_le failures fs 7
  cases hstage : (s.after failures fs 7).1 with
  | finished result => exact ⟨result, rfl⟩
  | _ => simp [hstage, Stage.rank] at hrank

theorem complete_finished (s : Saving) (result : Except CacheError Unit) (fs : FileSystem) :
    s.complete (.finished result) fs = (fs, result) := by
  rw [complete]
  rfl

theorem complete_step (s : Saving) (stage : Stage) (fs : FileSystem) :
    s.complete stage fs = s.complete (s.step none stage fs).1 (s.step none stage fs).2 := by
  cases stage with
  | finished result => rfl
  | _ =>
    rw [complete]
    rfl

theorem complete_after (s : Saving) (fs : FileSystem) (n : Nat) :
    s.complete .load fs =
      s.complete (s.after (fun _ => none) fs n).1 (s.after (fun _ => none) fs n).2 := by
  induction n with
  | zero => rfl
  | succ n ih =>
    rw [ih, complete_step]
    rfl

/-- A save that meets no failures but those of the file system goes through all stages. -/
theorem after_of_save (s : Saving) (fs : FileSystem) :
    s.after (fun _ => none) fs 7 =
      (.finished (s.cache.save s.now s.key s.version fs).2,
        (s.cache.save s.now s.key s.version fs).1) := by
  obtain ⟨result, hresult⟩ := s.exists_result (fun _ => none) fs
  have hsave : s.cache.save s.now s.key s.version fs = s.complete .load fs := rfl
  rw [hsave, s.complete_after fs 7, hresult, complete_finished, ← hresult]

/-- A save that fails keeps what is kept, and one that succeeds has written its document. -/
theorem Maintains.save {kept : FileSystem → Prop} (hkept : s.Maintains fs kept) :
    kept (s.cache.save s.now s.key s.version fs).1 ∧
        (s.cache.save s.now s.key s.version fs).2 ≠ .ok () ∨
      (s.cache.save s.now s.key s.version fs).2 = .ok () ∧
        s.cache.IsHosted (s.cache.save s.now s.key s.version fs).1 ∧
        s.cache.stored? (s.cache.save s.now s.key s.version fs).1 =
          some (s.intended none fs).encode := by
  have hsecure := secure_after hkept (fun _ => none) 7
  rw [s.after_of_save fs] at hsecure
  rcases hsecure.kept_or_done hkept with ⟨hresult, hafter⟩ | ⟨hresult, hafter⟩
  · exact .inl ⟨hafter, fun hok => hresult (congrArg some hok)⟩
  · exact .inr ⟨Option.some.inj hresult, hafter⟩

end Completion

end Saving

end Microversion.Cache
