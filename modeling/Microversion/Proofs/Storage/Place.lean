import Microversion.Proofs.Storage.Walk

/-! # Where a path ends

A path ends in a name, in the directory to which the parts before that name lead.
Directories that are made may bring it to its end, and then they keep it there.
-/

namespace Microversion.Storage.FileSystem

section Names

variable {fs fs' : FileSystem} {follow : Ending → Bool} {p : Path} {way : List String}
  {name : String} {there d : Location} {e : Ending}

/-- A path that a file system accepts and that ends in a name after other parts. -/
structure Names (p : Path) (way : List String) (name : String) : Prop where
  parts : p.parts = way ++ [name]
  bare : p.ending = .bare
  notUp : name ≠ ".."
  short : ¬maxNameLength < name.utf8ByteSize
  noZero : (p.parts.any fun part => part.toList.contains '\x00') = false
  size : ¬maxPathLength < p.size

theorem walk_ending {links : Nat} {here : Location} {parts : List String} {ending : Ending}
    (h : fs.walk follow links here parts ending = .ok (there, .bare)) : ending = .bare := by
  fun_induction walk with
  | case1 => exact (Prod.mk.inj (Except.ok.inj h)).2
  | case2 _ _ _ _ ih => exact ih h
  | case4 => exact (Prod.mk.inj (Except.ok.inj h)).2
  | case6 _ _ _ _ _ _ _ _ _ ih => exact ih h
  | case7 => exact (Prod.mk.inj (Except.ok.inj h)).2
  | case9 _ _ rest ending _ _ _ _ _ _ _ _ _ ih =>
    have hending := ih h
    split at hending
    · next hbare => exact hbare.2
    · exact hending
  | case10 => exact (Prod.mk.inj (Except.ok.inj h)).2
  | _ => cases h

theorem walk_name {left : Nat} (hdots : name ≠ "..") (hlong : ¬maxNameLength < name.utf8ByteSize)
    (hlink : follow .bare = true → ¬fs.IsLink (d.child name)) :
    fs.walk follow left d [name] .bare = .ok (d.child name, .bare) := by
  cases hnode : fs.node? (d.child name) with
  | none => exact walk_none hdots hlong hnode
  | some node =>
    cases node with
    | directory => rw [walk_directory hdots hlong hnode, walk_nil]
    | file content => exact walk_leaf hdots hlong hnode (by simp) (by simp)
    | link target =>
      have hstop : follow .bare = false := by
        by_contra hgo
        exact hlink (Bool.not_eq_false _ ▸ hgo) ⟨target, hnode⟩
      rw [walk_link hdots hlong hnode]
      exact if_pos ⟨rfl, by rw [hstop]; rfl⟩
    | sink full => exact walk_leaf hdots hlong hnode (by simp) (by simp)

theorem locate_of_leads (hnames : Names p way name)
    (hlink : follow .bare = true → ¬fs.IsLink (d.child name))
    (h : fs.Leads maxLinks .root way d) : fs.locate follow p = .ok (d.child name, .bare) := by
  obtain ⟨left, hwalk⟩ := h.walk_append follow name [] .bare
  rw [locate, if_neg (by simp only [hnames.noZero, Bool.false_eq_true, not_false_eq_true]),
    if_neg hnames.size, hnames.parts, hnames.bare, hwalk]
  exact walk_name hnames.notUp hnames.short hlink

theorem isDirectory_of_up (htree : fs.IsTree) (hparts : p.parts = way ++ [".."])
    (h : fs.locate follow p = .ok (there, e)) : fs.node? there = some .directory := by
  unfold locate at h
  split at h
  · cases h
  split at h
  · cases h
  rw [hparts] at h
  obtain ⟨left, d, -, hd, hr⟩ := exists_leads h
  rw [walk_up, walk_nil] at hr
  obtain ⟨rfl, -⟩ := Prod.mk.inj (Except.ok.inj hr)
  exact htree _ _ (hd.isDirectory htree (node?_root fs))

theorem ending_of_locate (h : fs.locate follow p = .ok (there, .bare)) : p.ending = .bare := by
  unfold locate at h
  split at h
  · cases h
  split at h
  · cases h
  exact walk_ending h

/-- What is no directory stands under the last name of a path. -/
theorem exists_name (htree : fs.IsTree) (h : fs.locate follow p = .ok (there, e))
    (hleaf : fs.node? there ≠ some .directory) :
    ∃ way name, p.parts = way ++ [name] ∧ name ≠ ".." := by
  rcases List.eq_nil_or_concat p.parts with hnil | ⟨way, name, hconcat⟩
  · unfold locate at h
    split at h
    · cases h
    split at h
    · cases h
    rw [hnil, walk_nil] at h
    obtain ⟨rfl, -⟩ := Prod.mk.inj (Except.ok.inj h)
    exact absurd (node?_root fs) hleaf
  · rw [List.concat_eq_append] at hconcat
    refine ⟨way, name, hconcat, ?_⟩
    rintro rfl
    exact hleaf (isDirectory_of_up htree hconcat h)

/-- A path to something other than a directory comes to it from the directory it ends in. -/
theorem exists_of_locate (htree : fs.IsTree)
    (hbare : ∀ way name, p.parts = way ++ [name] → name ≠ ".." → p.ending = .bare)
    (h : fs.locate follow p = .ok (there, e)) (hleaf : fs.node? there ≠ some .directory) :
    ∃ way name d, Names p way name ∧ fs.Leads maxLinks .root way d ∧
      fs.walk follow maxLinks d [name] .bare = .ok (there, e) := by
  obtain ⟨way, name, hparts, hup⟩ := exists_name htree h hleaf
  have hends := hbare way name hparts hup
  unfold locate at h
  split at h
  · cases h
  next hzero =>
  split at h
  · cases h
  next hsize =>
  rw [hparts, hends] at h
  obtain ⟨left, d, hle, hd, hr⟩ := exists_leads h
  have hlong : ¬maxNameLength < name.utf8ByteSize := by
    intro hlong
    rw [walk_long hup hlong] at hr
    cases hr
  exact ⟨way, name, d, ⟨hparts, hends, hup, hlong, by simpa using hzero, hsize⟩, hd,
    walk_mono hle hr⟩

/-- The directory that a way leads to is where the path without its last name leads. -/
theorem isDirectory_parent? {parent : Path} (htree : fs.IsTree)
    (hnames : Names p way name) (h : fs.Leads maxLinks .root way d)
    (hparent : p.parent? = some parent) : fs.isDirectory parent = true ∨ parent.size = 0 := by
  by_cases hempty : parent.size = 0
  · exact .inr hempty
  left
  obtain ⟨parent', hparent', hparts, -⟩ := Path.exists_parent hnames.parts
  obtain rfl := Option.some.inj (hparent.symm.trans hparent')
  have hzero : ¬parent.parts.any (fun part => part.toList.contains '\x00') = true := by
    have hall := hnames.noZero
    rw [hnames.parts, List.any_append, Bool.or_eq_false_iff, ← hparts] at hall
    rw [hall.1]
    exact Bool.false_ne_true
  have hsize : ¬maxPathLength < parent.size :=
    Nat.not_lt.mpr ((Path.size_parent?_le hparent).trans (Nat.not_lt.mp hnames.size))
  obtain ⟨e, hwalk⟩ := h.walk_eq parent.ending
  rw [isDirectory, locate, if_neg hzero, if_neg hsize, hparts, hwalk]
  simp only [h.isDirectory htree (node?_root fs), hempty, ne_eq, not_false_eq_true, and_self,
    decide_true]

end Names

section Reading

variable {fs fs' : FileSystem} {p : Path} {way : List String} {name : String} {d : Location}
  {content : Bytes}

theorem read_file (hnames : Names p way name) (h : fs.Leads maxLinks .root way d)
    (hnode : fs.node? (d.child name) = some (.file content)) : fs.read p = .ok content := by
  simp only [read, locate_of_leads hnames (fun _ => not_isLink_of_file hnode) h, hnode, if_true]

/-- What can be read is no directory, and nothing stands after the path's last name. -/
theorem exists_locate_of_read (h : fs.read p = .ok content) :
    ∃ there node, fs.locate (fun _ => true) p = .ok (there, .bare) ∧
      fs.node? there = some node ∧ node ≠ .directory := by
  unfold read at h
  split at h
  · cases h
  next there ending hlocate =>
  cases hnode : fs.node? there with
  | none => simp [hnode] at h
  | some node =>
    have hbare : ending = .bare := by
      by_contra hne
      cases node <;> simp [hnode, hne] at h
    refine ⟨there, node, hbare ▸ hlocate, hnode, ?_⟩
    rintro rfl
    simp [hnode] at h

/-- What can be read is read again where ways stay as they are and so does what is read. -/
theorem read_keeps (hkeeps : fs.Keeps fs')
    (hfound : ∀ there node, fs.locate (fun _ => true) p = .ok (there, .bare) →
      fs.node? there = some node → node ≠ .directory → fs'.node? there = some node)
    (h : fs.read p = .ok content) : fs'.read p = .ok content := by
  obtain ⟨there, node, hlocate, hnode, hleaf⟩ := exists_locate_of_read h
  have hnode' := hfound there node hlocate hnode hleaf
  rw [read, locate_keeps hkeeps hlocate hnode hnode']
  rw [read, hlocate] at h
  simp only [hnode, hnode'] at h ⊢
  exact h

end Reading

section Directories

variable {fs fs' : FileSystem}

/-- Some directories have been added where nothing stood. -/
def Grows (fs fs' : FileSystem) : Prop :=
  ∀ here, fs'.node? here = fs.node? here ∨
    fs.node? here = none ∧ fs'.node? here = some .directory

theorem Grows.refl (fs : FileSystem) : fs.Grows fs := fun _ => .inl rfl

theorem Grows.trans {fs₁ fs₂ fs₃ : FileSystem} (h₁ : fs₁.Grows fs₂) (h₂ : fs₂.Grows fs₃) :
    fs₁.Grows fs₃ := by
  intro here
  rcases h₂ here with h | ⟨hnone, hdir⟩
  · rw [h]
    exact h₁ here
  · rcases h₁ here with h | ⟨hnone', -⟩
    · exact .inr ⟨h ▸ hnone, hdir⟩
    · exact .inr ⟨hnone', hdir⟩

theorem Grows.of_some (h : fs.Grows fs') {here : Location} {node : Node}
    (hnode : fs.node? here = some node) : fs'.node? here = some node := by
  rcases h here with heq | ⟨hnone, -⟩
  · rw [heq, hnode]
  · rw [hnode] at hnone
    cases hnone

theorem Grows.keeps (h : fs.Grows fs') : fs.Keeps fs' := fun _ _ hnode _ => h.of_some hnode

theorem Grows.isPlain (h : fs.Grows fs') {here : Location} (hplain : fs.IsPlain here) :
    fs'.IsPlain here := by
  intro node hnode
  rcases h here with heq | ⟨-, hdir⟩
  · exact hplain node (heq ▸ hnode)
  · rw [hdir, Option.some.injEq] at hnode
    rw [← hnode]
    rfl

theorem Grows.isLink (h : fs.Grows fs') {here : Location} (hlink : fs'.IsLink here) :
    fs.IsLink here := by
  obtain ⟨target, hnode⟩ := hlink
  rcases h here with heq | ⟨-, hdir⟩
  · exact ⟨target, heq ▸ hnode⟩
  · rw [hdir] at hnode
    cases hnode

/-- A way without links and without steps upwards is there as soon as its end is. -/
theorem Leads.of_isTree {links : Nat} {here d : Location} {way : List String} (htree : fs.IsTree)
    (hplain : ∀ there, fs'.IsPlain there) (hclean : ∀ part ∈ way, '/' ∉ part.toList)
    (hup : ".." ∉ way) (h : fs'.Leads links here way d) (hd : fs.node? d = some .directory) :
    fs.Leads links here way d ∧ fs.node? here = some .directory := by
  induction h with
  | here => exact ⟨.here, hd⟩
  | up => exact absurd List.mem_cons_self hup
  | @down links here d part way hdots hlong hnode _ ih =>
    obtain ⟨hleads, hchild⟩ := ih (fun p hp => hclean p (List.mem_cons_of_mem _ hp))
      (fun hp => hup (List.mem_cons_of_mem _ hp)) hd
    have hparent := htree _ _ hchild
    rw [Location.parent_child _ (hclean part List.mem_cons_self)] at hparent
    exact ⟨.down hdots hlong hchild hleads, hparent⟩
  | link _ _ hnode => exact absurd ⟨_, hnode⟩ (hplain _).not_isLink

end Directories

section Ends

variable {fs fs' : FileSystem} {p : Path} {way : List String} {name : String} {d : Location}
  {content : Bytes}

/-- The path ends in the name in that directory, once directories have been made where nothing
stood. -/
def EndsIn (fs : FileSystem) (p : Path) (d : Location) (name : String) : Prop :=
  ∃ fs' way, fs.Grows fs' ∧ p.parts = way ++ [name] ∧ fs'.Leads maxLinks .root way d

theorem Leads.endsIn (h : fs.Leads maxLinks .root way d) (hparts : p.parts = way ++ [name]) :
    fs.EndsIn p d name :=
  ⟨fs, way, .refl fs, hparts, h⟩

theorem EndsIn.of_grows (hgrows : fs.Grows fs') (h : fs'.EndsIn p d name) :
    fs.EndsIn p d name := by
  obtain ⟨made, way, hgrows', hparts, hd⟩ := h
  exact ⟨made, way, hgrows.trans hgrows', hparts, hd⟩

/-- A path that leads to a directory already ends there. -/
theorem EndsIn.unique {d' : Location} {name' : String} (h : fs.EndsIn p d' name')
    (hparts : p.parts = way ++ [name]) (hd : fs.Leads maxLinks .root way d) :
    d' = d ∧ name' = name := by
  obtain ⟨made, way', hgrows, hparts', hd'⟩ := h
  obtain ⟨rfl, hname⟩ := List.append_inj' (hparts'.symm.trans hparts) rfl
  exact ⟨hd'.unique (hd.keeps hgrows.keeps), List.singleton_inj.mp hname⟩

/-- Nothing but a file or a directory stands where the path ends. -/
def PlainAt (fs : FileSystem) (p : Path) : Prop :=
  ∀ d name, fs.EndsIn p d name → fs.IsPlain (d.child name)

theorem PlainAt.isPlain (h : fs.PlainAt p) (hparts : p.parts = way ++ [name])
    (hd : fs.Leads maxLinks .root way d) : fs.IsPlain (d.child name) :=
  h d name (hd.endsIn hparts)

/-- What is read at such a path is a file in the directory that it ends in. -/
theorem exists_of_read (htree : fs.IsTree) (hplain : fs.PlainAt p) (h : fs.read p = .ok content) :
    ∃ way name d, Names p way name ∧ fs.Leads maxLinks .root way d ∧
      fs.node? (d.child name) = some (.file content) := by
  obtain ⟨there, node, hlocate, hnode, hleaf⟩ := exists_locate_of_read h
  obtain ⟨way, name, d, hnames, hd, hwalk⟩ := exists_of_locate htree
    (fun _ _ _ _ => ending_of_locate hlocate) hlocate (by simpa [hnode] using hleaf)
  have hname := hplain.isPlain hnames.parts hd
  rw [walk_name hnames.notUp hnames.short fun _ => hname.not_isLink] at hwalk
  obtain ⟨rfl, -⟩ := Prod.mk.inj (Except.ok.inj hwalk)
  refine ⟨way, name, d, hnames, hd, ?_⟩
  rw [read, hlocate] at h
  cases node with
  | file content' =>
    simp only [hnode, if_true, Except.ok.injEq] at h
    rw [hnode, h]
  | directory => exact absurd rfl hleaf
  | link => cases hname _ hnode
  | sink => cases hname _ hnode

end Ends

section Links

variable {fs fs' : FileSystem} {links : Nat} {here there d d' : Location} {way : List String}
  {name target : String}

/-- From the directory the name leads to that place, where something other than a directory
stands. -/
def LinksTo (fs : FileSystem) (d : Location) (name : String) (there : Location) : Prop :=
  ∃ e node, fs.walk (fun _ => true) maxLinks d [name] .bare = .ok (there, e) ∧
    fs.node? there = some node ∧ node ≠ .directory

theorem LinksTo.keeps (hkeeps : fs.Keeps fs') (h : fs.LinksTo d name there)
    (hthere : ∀ node, fs.node? there = some node → fs'.node? there = some node) :
    fs'.LinksTo d name there := by
  obtain ⟨e, node, hwalk, hnode, hleaf⟩ := h
  exact ⟨e, node, walk_keeps hkeeps hwalk hnode (hthere node hnode), hthere node hnode, hleaf⟩

/-- No way goes on over a link that does not lead to a directory. -/
theorem LinksTo.not_leads (htree : fs.IsTree) (hd : fs.node? d = some .directory)
    (h : fs.LinksTo d name there) (hdots : name ≠ "..")
    (hlong : ¬maxNameLength < name.utf8ByteSize)
    (hnode : fs.node? (d.child name) = some (.link target)) (hlt : links < maxLinks) :
    ¬fs.Leads links (if (Path.ofText target).absolute then .root else d)
      ((Path.ofText target).parts ++ way) d' := by
  intro hleads
  obtain ⟨e, node, hwalk, hthere, hleaf⟩ := h
  obtain ⟨more, hmore⟩ := Nat.exists_eq_add_one_of_ne_zero (Nat.ne_zero_of_lt hlt)
  obtain ⟨end', hend⟩ := hleads.exists_prefix
  obtain ⟨e', hwalk'⟩ := hend.walk_eq (Path.ofText target).ending
  rw [hmore, walk_link hdots hlong hnode, if_neg (by simp)] at hwalk
  -- the walk over the link comes to where its target leads, which is a directory
  have hsame := walk_mono (Nat.le_of_lt_succ (hmore ▸ hlt)) hwalk'
  simp only [List.append_nil, List.isEmpty_nil, and_self, if_true] at hwalk
  obtain ⟨rfl, -⟩ := Prod.mk.inj (Except.ok.inj (hwalk.symm.trans hsame))
  have hdirectory : fs.node? there = some .directory := by
    apply hend.isDirectory htree
    split
    · exact node?_root fs
    · exact hd
  exact hleaf (Option.some.inj (hthere.symm.trans hdirectory))

/-- A way is kept when what stands in one place is exchanged, if that is neither a directory nor a
link to one. -/
theorem Leads.keeps_but (htree : fs.IsTree) (hname : '/' ∉ name.toList)
    (hleaf : fs.node? (d.child name) ≠ some .directory)
    (hlink : fs.IsLink (d.child name) → ∃ there, fs.LinksTo d name there)
    (hkeeps : ∀ here node, here ≠ d.child name → fs.node? here = some node → node.isPassable →
      fs'.node? here = some node)
    (hclean : ∀ part ∈ way, '/' ∉ part.toList) (hhere : fs.node? here = some .directory)
    (hle : links ≤ maxLinks) (h : fs.Leads links here way d') : fs'.Leads links here way d' := by
  induction h with
  | here => exact .here
  | up _ ih =>
    exact .up (ih (fun p hp => hclean p (List.mem_cons_of_mem _ hp)) (htree _ _ hhere) hle)
  | down hdots hlong hnode _ ih =>
    have hne : _ ≠ d.child name := fun heq => hleaf (heq ▸ hnode)
    exact .down hdots hlong (hkeeps _ _ hne hnode rfl)
      (ih (fun p hp => hclean p (List.mem_cons_of_mem _ hp)) hnode hle)
  | @link links here d' part target way hdots hlong hnode hleads ih =>
    have hne : here.child part ≠ d.child name := by
      intro heq
      obtain rfl : here = d := by
        rw [← Location.parent_child here (hclean part List.mem_cons_self), heq,
          Location.parent_child d hname]
      obtain rfl := Location.child_inj.mp heq
      obtain ⟨there, hthere⟩ := hlink ⟨target, hnode⟩
      exact hthere.not_leads htree hhere hdots hlong hnode hle hleads
    refine .link hdots hlong (hkeeps _ _ hne hnode rfl) (ih ?_ ?_ (Nat.le_of_succ_le hle))
    · intro p hp
      rcases List.mem_append.mp hp with hp | hp
      · exact (Path.isClean_ofText target).parts p hp
      · exact hclean p (List.mem_cons_of_mem _ hp)
    · split
      · exact node?_root fs
      · exact hhere

end Links

end Microversion.Storage.FileSystem
