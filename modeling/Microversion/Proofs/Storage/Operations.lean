import Microversion.Proofs.Storage.Place

/-! # What file operations leave as it is

Every operation keeps the tree of directories: whatever there is lies in a
directory. Making directories only adds some; opening, writing, moving and removing
a file changes nothing but what stands in its place.
-/

namespace Microversion.Storage.FileSystem

section Changes

variable {fs fs' : FileSystem} {there : Location}

/-- Nothing but a file stands there. -/
def IsLeaf (fs : FileSystem) (there : Location) : Prop :=
  ∀ node, fs.node? there = some node → ∃ content, node = .file content

theorem isLeaf_of_none (h : fs.node? there = none) : fs.IsLeaf there := by
  intro node hnode
  rw [h] at hnode
  cases hnode

theorem isLeaf_of_file {content : Bytes} (h : fs.node? there = some (.file content)) :
    fs.IsLeaf there := by
  intro node hnode
  rw [h, Option.some.injEq] at hnode
  exact ⟨content, hnode.symm⟩

theorem IsLeaf.ne_directory (h : fs.IsLeaf there) : fs.node? there ≠ some .directory := by
  intro hdir
  obtain ⟨content, hfile⟩ := h _ hdir
  cases hfile

theorem IsLeaf.ne_root (h : fs.IsLeaf there) : there ≠ .root := by
  rintro rfl
  exact h.ne_directory (node?_root fs)

theorem IsLeaf.not_isLink (h : fs.IsLeaf there) : ¬fs.IsLink there := by
  rintro ⟨target, hlink⟩
  obtain ⟨content, hfile⟩ := h _ hlink
  cases hfile

theorem IsPlain.isLeaf (hplain : fs.IsPlain there) (h : fs.node? there ≠ some .directory) :
    fs.IsLeaf there := by
  intro node hnode
  have hfile := hplain node hnode
  cases node with
  | file content => exact ⟨content, rfl⟩
  | directory => exact absurd hnode h
  | link => cases hfile
  | sink => cases hfile

/-- Only a file has been put, changed or removed, in one place. -/
structure Alters (there : Location) (fs fs' : FileSystem) : Prop where
  before : fs.IsLeaf there
  after : fs'.IsLeaf there
  rest : ∀ here, here ≠ there → fs'.node? here = fs.node? here

namespace Alters

theorem put (h : fs.IsLeaf there) (content : Bytes) :
    Alters there fs (fs.put there (.file content)) :=
  ⟨h, isLeaf_of_file (node?_put_self h.ne_root), fun _ hne => node?_put_of_ne hne⟩

theorem erase (h : fs.IsLeaf there) : Alters there fs (fs.erase there) :=
  ⟨h, isLeaf_of_none (node?_erase_self h.ne_root), fun _ hne => node?_erase_of_ne hne⟩

theorem symm (h : Alters there fs fs') : Alters there fs' fs :=
  ⟨h.after, h.before, fun here hne => (h.rest here hne).symm⟩

theorem keeps (h : Alters there fs fs') : fs.Keeps fs' := by
  intro here node hnode hpass
  have hne : here ≠ there := by
    rintro rfl
    obtain ⟨content, rfl⟩ := h.before node hnode
    cases hpass
  rw [h.rest here hne, hnode]

theorem isTree (h : Alters there fs fs') (htree : fs.IsTree)
    (hparent : fs.node? there.parent = some .directory) : fs'.IsTree := by
  intro here node hnode
  have hold : fs.node? here.parent = some .directory := by
    by_cases heq : here = there
    · rwa [heq]
    · rw [h.rest here heq] at hnode
      exact htree _ _ hnode
  exact h.keeps _ _ hold rfl

theorem isPlain (h : Alters there fs fs') {here : Location} (hplain : fs.IsPlain here) :
    fs'.IsPlain here := by
  intro node hnode
  by_cases heq : here = there
  · obtain ⟨content, rfl⟩ := h.after node (heq ▸ hnode)
    rfl
  · exact hplain node (h.rest here heq ▸ hnode)

theorem isLeaf (h : Alters there fs fs') {here : Location} (hleaf : fs.IsLeaf here) :
    fs'.IsLeaf here := by
  by_cases heq : here = there
  · exact heq ▸ h.after
  · intro node hnode
    exact hleaf node (h.rest here heq ▸ hnode)

end Alters

end Changes

section Directories

variable {fs fs' : FileSystem} {p : Path}

theorem makeDirectory_ok (htree : fs.IsTree) (hclean : p.IsClean)
    (h : fs.makeDirectory p = .ok fs') : fs'.IsTree ∧ fs.Grows fs' := by
  unfold makeDirectory at h
  split at h
  · cases h
  next there e hlocate =>
  split at h
  · cases h
  next hnone =>
  cases h
  have hroot : there ≠ .root := (isLeaf_of_none hnone).ne_root
  have hgrows : fs.Grows (fs.put there .directory) := fun here => by
    by_cases heq : here = there
    · rw [heq]
      exact .inr ⟨hnone, node?_put_self hroot⟩
    · exact .inl (node?_put_of_ne heq)
  refine ⟨fun here node hnode => hgrows.of_some ?_, hgrows⟩
  by_cases heq : here = there
  · rw [heq]
    exact parent_of_locate htree hclean hlocate
  · rw [node?_put_of_ne heq] at hnode
    exact htree _ _ hnode

theorem makeDirectories_grows (htree : fs.IsTree) (hclean : p.IsClean) (depth : Nat) :
    (fs.makeDirectories depth p).1.IsTree ∧ fs.Grows (fs.makeDirectories depth p).1 := by
  induction depth generalizing p with
  | zero => exact ⟨htree, .refl fs⟩
  | succ depth ih =>
    simp only [makeDirectories]
    split
    · next h => exact makeDirectory_ok htree hclean h
    · split
      · exact ⟨htree, .refl fs⟩
      · next parent hparent =>
        have hdeeper := ih (Path.isClean_of_parent? hclean hparent)
        split
        · next heq =>
          rw [heq] at hdeeper
          exact hdeeper
        · next heq =>
          rw [heq] at hdeeper
          obtain ⟨htree', hgrows⟩ := hdeeper
          split
          · next h =>
            obtain ⟨htree'', hgrows'⟩ := makeDirectory_ok htree' hclean h
            exact ⟨htree'', hgrows.trans hgrows'⟩
          · exact ⟨htree', hgrows⟩
    · exact ⟨htree, .refl fs⟩

theorem ensureDirectory_grows (htree : fs.IsTree) (hclean : p.IsClean) :
    (fs.ensureDirectory p).1.IsTree ∧ fs.Grows (fs.ensureDirectory p).1 := by
  unfold ensureDirectory
  split
  · exact ⟨htree, .refl fs⟩
  · exact makeDirectories_grows htree hclean _

end Directories

section Files

variable {fs fs' : FileSystem} {p source target : Path} {there : Location}

/-- What is no directory where a path leads is a file, under the last name of the path. -/
theorem exists_leaf (htree : fs.IsTree) (hplain : fs.PlainAt p)
    (hbare : ∀ way name, p.parts = way ++ [name] → name ≠ ".." → p.ending = .bare)
    {follow : Ending → Bool} {e : Ending} (h : fs.locate follow p = .ok (there, e))
    (hleaf : fs.node? there ≠ some .directory) :
    fs.IsLeaf there ∧ ∃ way name d, Names p way name ∧ fs.Leads maxLinks .root way d ∧
      there = d.child name := by
  obtain ⟨way, name, d, hnames, hd, hwalk⟩ := exists_of_locate htree hbare h hleaf
  have hname := hplain.isPlain hnames.parts hd
  rw [walk_name hnames.notUp hnames.short fun _ => hname.not_isLink] at hwalk
  obtain ⟨rfl, -⟩ := Prod.mk.inj (Except.ok.inj hwalk)
  exact ⟨hname.isLeaf hleaf, way, name, d, hnames, hd, rfl⟩

theorem openEmpty_ok (h : fs.openEmpty p = .ok (fs', there)) :
    (∃ e, fs.locate (· != .slash) p = .ok (there, e)) ∧ fs.node? there ≠ some .directory ∧
      (fs.IsLeaf there → fs' = fs.put there (.file [])) := by
  unfold openEmpty at h
  split at h
  · cases h
  next place e hlocate =>
  split at h
  · cases h
  split at h
  · cases h
  · cases h
  · next hnode =>
    obtain ⟨rfl, rfl⟩ := Prod.mk.inj (Except.ok.inj h)
    refine ⟨⟨e, hlocate⟩, by simp [hnode], fun hleaf => ?_⟩
    obtain ⟨content, hfile⟩ := hleaf _ hnode
    cases hfile
  · next hnode =>
    obtain ⟨rfl, rfl⟩ := Prod.mk.inj (Except.ok.inj h)
    exact ⟨⟨e, hlocate⟩, by simp [hnode], fun _ => rfl⟩
  · next hnode =>
    obtain ⟨rfl, rfl⟩ := Prod.mk.inj (Except.ok.inj h)
    exact ⟨⟨e, hlocate⟩, by simp [hnode], fun _ => rfl⟩

theorem openEmpty_leaf (hlocate : fs.locate (· != .slash) p = .ok (there, .bare))
    (hleaf : fs.IsLeaf there) : fs.openEmpty p = .ok (fs.put there (.file []), there) := by
  simp only [openEmpty, hlocate]
  cases hnode : fs.node? there with
  | none => rfl
  | some node =>
    obtain ⟨content, rfl⟩ := hleaf node hnode
    rfl

theorem write_file {content : Bytes} (hnode : fs.node? there = some (.file content))
    (data : Bytes) : fs.write there data = .ok (fs.put there (.file data)) := by
  simp only [write, hnode]

theorem remove_ok (h : fs.remove p = .ok fs') :
    ∃ there e, fs.locate (fun _ => false) p = .ok (there, e) ∧
      fs.node? there ≠ some .directory ∧ fs' = fs.erase there := by
  unfold remove at h
  split at h
  · cases h
  next there e hlocate =>
  split at h
  · cases h
  · cases h
  next hdirectory _ =>
  split at h
  · cases h
  exact ⟨there, e, hlocate, fun hdir => by simp_all, (Except.ok.inj h).symm⟩

/-- A file that is moved takes its place under the last name of the target. -/
theorem rename_ok (h : fs.rename source target = .ok fs') :
    ∃ there e place node, fs.locate (fun _ => false) source = .ok (there, e) ∧
      fs.locate (fun _ => false) target = .ok (place, .bare) ∧
      fs.node? there = some node ∧ fs.node? place ≠ some .directory ∧
      fs' = if there = place then fs else (fs.erase there).put place node := by
  unfold rename at h
  split at h
  · cases h
  · cases h
  next there e place ending hsource htarget =>
  split at h
  · cases h
  next node hnode =>
  split at h
  · cases h
  next hpoint =>
  split at h
  · cases h
  next hslash =>
  split at h
  · cases h
  next hleaf =>
  have hbare : ending = .bare := by
    cases ending <;> simp_all
  subst hbare
  refine ⟨there, e, place, node, hsource, htarget, hnode, hleaf, ?_⟩
  split at h
  · next heq =>
    rw [if_pos heq]
    exact (Except.ok.inj h).symm
  · next hne =>
    rw [if_neg hne]
    exact (Except.ok.inj h).symm

/-- Nothing keeps a file from taking the place of another file. -/
theorem rename_leaf {place : Location} {e : Ending} {node : Node}
    (hsource : fs.locate (fun _ => false) source = .ok (there, e))
    (htarget : fs.locate (fun _ => false) target = .ok (place, .bare))
    (hnode : fs.node? there = some node) (hplace : fs.IsLeaf place) :
    fs.rename source target =
      .ok (if there = place then fs else (fs.erase there).put place node) := by
  simp only [rename, hsource, htarget, hnode, if_neg hplace.ne_directory, reduceCtorEq, if_false]
  split <;> rfl

/-- A file with that content has come to stand where the path ends, and nothing else has come. -/
structure Moves (data : Bytes) (p : Path) (fs fs' : FileSystem) : Prop where
  tree : fs'.IsTree
  plain : ∀ here, fs.IsPlain here → fs'.IsPlain here
  directories : ∀ here, fs.node? here = some .directory → fs'.node? here = some .directory
  arrives : ∃ way name d, Names p way name ∧ fs.Leads maxLinks .root way d ∧
    fs'.Leads maxLinks .root way d ∧ fs'.node? (d.child name) = some (.file data)

section Moved

variable {here place : Location} {data : Bytes} {node : Node}

/-- What is in neither of the two places is left alone. -/
theorem node?_moved (hplace : here ≠ place) (hthere : here ≠ there) :
    ((fs.erase there).put place node).node? here = fs.node? here :=
  (node?_put_of_ne hplace).trans (node?_erase_of_ne hthere)

theorem node?_moved_of_isPassable (hfile : fs.node? there = some (.file data))
    (hplace : here ≠ place) (hnode : fs.node? here = some node) (hpass : node.isPassable) :
    ((fs.erase there).put place (.file data)).node? here = some node := by
  refine (node?_moved hplace ?_).trans hnode
  rintro rfl
  rw [hfile] at hnode
  cases hnode
  cases hpass

theorem node?_of_moved (hfile : fs.node? there = some (.file data)) (hplace : here ≠ place)
    (hnode : ((fs.erase there).put place (.file data)).node? here = some node) :
    fs.node? here = some node := by
  refine (node?_moved hplace ?_).symm.trans hnode
  rintro rfl
  rw [node?_put_of_ne hplace, node?_erase_self (isLeaf_of_file hfile).ne_root] at hnode
  cases hnode

theorem isTree_moved (htree : fs.IsTree) (hfile : fs.node? there = some (.file data))
    (hleaf : fs.node? place ≠ some .directory) (hparent : fs.node? place.parent = some .directory) :
    ((fs.erase there).put place (.file data)).IsTree := by
  intro here node hnode
  have hdirectory : fs.node? here.parent = some .directory := by
    by_cases hplace : here = place
    · exact hplace ▸ hparent
    · exact htree _ _ (node?_of_moved hfile hplace hnode)
  exact node?_moved_of_isPassable hfile (fun heq => hleaf (heq ▸ hdirectory)) hdirectory rfl

theorem isPlain_moved (hfile : fs.node? there = some (.file data)) (hroot : place ≠ .root)
    (hplain : fs.IsPlain here) : ((fs.erase there).put place (.file data)).IsPlain here := by
  intro node hnode
  by_cases hplace : here = place
  · rw [hplace, node?_put_self hroot, Option.some.injEq] at hnode
    rw [← hnode]
    rfl
  · exact hplain node (node?_of_moved hfile hplace hnode)

end Moved

/-- What stood at the target, if not a directory or a link to one, gives way to the file. -/
theorem rename_file {e : Ending} {data : Bytes} (htree : fs.IsTree) (hclean : target.IsClean)
    (hlink : ∀ d name, fs.EndsIn target d name → fs.IsLink (d.child name) →
      ∃ place, fs.LinksTo d name place)
    (hsource : fs.locate (fun _ => false) source = .ok (there, e))
    (hfile : fs.node? there = some (.file data)) (h : fs.rename source target = .ok fs') :
    Moves data target fs fs' := by
  obtain ⟨there', e', place, node, hsource', htarget, hnode, hleaf, hfs'⟩ := rename_ok h
  obtain ⟨rfl, rfl⟩ := Prod.mk.inj (Except.ok.inj (hsource.symm.trans hsource'))
  obtain rfl := Option.some.inj (hfile.symm.trans hnode)
  obtain ⟨way, name, d, hnames, hd, hwalk⟩ :=
    exists_of_locate htree (fun _ _ _ _ => ending_of_locate htarget) htarget hleaf
  rw [walk_name hnames.notUp hnames.short (by simp)] at hwalk
  obtain ⟨rfl, -⟩ := Prod.mk.inj (Except.ok.inj hwalk)
  by_cases heq : there = d.child name
  · rw [if_pos heq] at hfs'
    subst hfs'
    exact ⟨htree, fun _ => id, fun _ => id, way, name, d, hnames, hd, hd, heq ▸ hfile⟩
  · rw [if_neg heq] at hfs'
    subst hfs'
    have hroot := Location.child_ne_root d name
    have hparts := hclean.parts
    rw [hnames.parts] at hparts
    have hkept := hd.keeps_but htree (hparts name (List.mem_append_right _ List.mem_cons_self))
      hleaf (hlink d name (hd.endsIn hnames.parts))
      (fun _ _ => node?_moved_of_isPassable hfile)
      (fun part hpart => hparts part (List.mem_append_left _ hpart)) (node?_root fs) (Nat.le_refl _)
    refine ⟨isTree_moved htree hfile hleaf (parent_of_locate htree hclean htarget),
      fun here => isPlain_moved hfile hroot, fun here hdir => ?_, way, name, d, hnames, hd, hkept,
      node?_put_self hroot⟩
    exact node?_moved_of_isPassable hfile (fun hplace => hleaf (hplace ▸ hdir)) hdir rfl

end Files

section Regular

variable {fs fs' : FileSystem} {there : Location}

/-- There are only files and directories, and whatever there is lies in a directory. -/
structure IsRegular (fs : FileSystem) : Prop where
  tree : fs.IsTree
  plain : ∀ here, fs.IsPlain here

namespace IsRegular

theorem plainAt (h : fs.IsRegular) (p : Path) : fs.PlainAt p :=
  fun d name _ => h.plain (d.child name)

theorem alters (h : fs.IsRegular) (halters : Alters there fs fs')
    (hparent : fs.node? there.parent = some .directory) : fs'.IsRegular :=
  ⟨halters.isTree h.tree hparent, fun here => halters.isPlain (h.plain here)⟩

theorem grows (h : fs.IsRegular) (htree : fs'.IsTree) (hgrows : fs.Grows fs') : fs'.IsRegular :=
  ⟨htree, fun here => hgrows.isPlain (h.plain here)⟩

end IsRegular

/-- Where the parts lead from a directory if there are no links. -/
def direct (fs : FileSystem) : Location → List String → Ending → Except Errno (Location × Ending)
  | here, [], ending => .ok (here, ending)
  | here, part :: rest, ending =>
    if part = ".." then fs.direct here.parent rest ending
    else if maxNameLength < part.utf8ByteSize then .error .nameTooLong
    else
      match fs.node? (here.child part) with
      | some .directory => fs.direct (here.child part) rest ending
      | some _ =>
        if rest.isEmpty && ending != .point then .ok (here.child part, ending)
        else .error .notDirectory
      | none =>
        if rest.isEmpty && ending != .point then .ok (here.child part, ending)
        else .error .noEntry

namespace IsRegular

theorem walk_eq (h : fs.IsRegular) (follow : Ending → Bool) (links : Nat) (here : Location)
    (parts : List String) (ending : Ending) :
    fs.walk follow links here parts ending = fs.direct here parts ending := by
  induction parts generalizing here with
  | nil => exact walk_nil
  | cons part rest ih =>
    rw [direct]
    by_cases hdots : part = ".."
    · rw [if_pos hdots, hdots, walk_up, ih]
    rw [if_neg hdots]
    by_cases hlong : maxNameLength < part.utf8ByteSize
    · rw [if_pos hlong, walk_long hdots hlong]
    rw [if_neg hlong]
    cases hnode : fs.node? (here.child part) with
    | none => exact walk_none hdots hlong hnode
    | some node =>
      cases node with
      | directory => exact (walk_directory hdots hlong hnode).trans (ih _)
      | file content => exact walk_leaf hdots hlong hnode (by simp) (by simp)
      | link target => exact absurd (h.plain _ _ hnode) (by simp [Node.isPlain])
      | sink full => exact absurd (h.plain _ _ hnode) (by simp [Node.isPlain])

/-- With nothing but files and directories no path goes through links. -/
theorem locate_eq (h : fs.IsRegular) (follow : Ending → Bool) (p : Path) :
    fs.locate follow p =
      if p.parts.any (·.toList.contains '\x00') then .error .zeroInPath
      else if maxPathLength < p.size then .error .nameTooLong
      else fs.direct .root p.parts p.ending := by
  rw [locate, h.walk_eq]

end IsRegular

end Regular

end Microversion.Storage.FileSystem
