import Microversion.Proofs.Storage.Path
import Microversion.Storage.FileSystem

/-! # Ways through a file system

Parts lead from one directory to another. Such a way depends on the directories and
links that it passes and on nothing else, and so does a walk that comes to its end
over it.
-/

namespace Microversion.Storage

namespace Location

theorem parent_child (here : Location) {name : String} (h : '/' ∉ name.toList) :
    (here.child name).parent = here := by
  have htext : (here.child name).text.toList = here.text.toList ++ '/' :: name.toList := by
    simp [child]
  simp only [parent, htext, Text.splitLast?_append _ h, String.ofList_toList]

theorem child_ne_root (here : Location) (name : String) : here.child name ≠ root := by
  intro h
  have := congrArg (fun l => l.text.toList) h
  simp [child, root] at this

theorem child_inj {here : Location} {a b : String} : here.child a = here.child b ↔ a = b := by
  simp [child]

end Location

/-- A directory or a link, over which a way may go on. -/
def Node.isPassable : Node → Bool
  | directory => true
  | link _ => true
  | _ => false

/-- A file or a directory. -/
def Node.isPlain : Node → Bool
  | file _ => true
  | directory => true
  | _ => false

namespace FileSystem

section Nodes

variable {fs : FileSystem} {here there : Location} {node : Node}

/-- Nothing but a file or a directory stands there. -/
def IsPlain (fs : FileSystem) (there : Location) : Prop :=
  ∀ node, fs.node? there = some node → node.isPlain

/-- A link stands there. -/
def IsLink (fs : FileSystem) (there : Location) : Prop :=
  ∃ target, fs.node? there = some (.link target)

theorem IsPlain.not_isLink (h : fs.IsPlain there) : ¬fs.IsLink there := by
  rintro ⟨target, hlink⟩
  cases h _ hlink

theorem not_isLink_of_file {content : Bytes} (h : fs.node? there = some (.file content)) :
    ¬fs.IsLink there := by
  rintro ⟨target, hlink⟩
  rw [h] at hlink
  cases hlink

@[simp] theorem node?_root (fs : FileSystem) : fs.node? .root = some .directory := by
  simp [node?]

theorem node?_put_self (h : here ≠ .root) : (fs.put here node).node? here = some node := by
  simp [node?, put, h]

theorem node?_erase_self (h : here ≠ .root) : (fs.erase here).node? here = none := by
  simp [node?, erase, h]

theorem node?_erase_of_ne (h : there ≠ here) : (fs.erase here).node? there = fs.node? there := by
  simp only [node?, erase]
  split
  · rfl
  · congr 1
    rw [List.find?_filter]
    congr 1
    funext e
    by_cases he : e.1 = there
    · simp [he, h]
    · simp [he]

theorem node?_put_of_ne (h : there ≠ here) : (fs.put here node).node? there = fs.node? there := by
  rw [← @node?_erase_of_ne fs _ _ h]
  simp only [node?, put, List.find?_cons]
  simp [Ne.symm h]

end Nodes

section Steps

variable {fs : FileSystem} {follow : Ending → Bool} {links : Nat} {here : Location}
  {part target : String} {rest : List String} {ending : Ending}

theorem walk_nil : fs.walk follow links here [] ending = .ok (here, ending) := by rw [walk]

theorem walk_up :
    fs.walk follow links here (".." :: rest) ending =
      fs.walk follow links here.parent rest ending := by
  rw [walk, if_pos rfl]

theorem walk_long (hdots : part ≠ "..") (hlong : maxNameLength < part.utf8ByteSize) :
    fs.walk follow links here (part :: rest) ending = .error .nameTooLong := by
  rw [walk, if_neg hdots, if_pos hlong]

theorem walk_none (hdots : part ≠ "..") (hlong : ¬maxNameLength < part.utf8ByteSize)
    (hnode : fs.node? (here.child part) = none) :
    fs.walk follow links here (part :: rest) ending =
      if rest.isEmpty && ending != .point then .ok (here.child part, ending)
      else .error .noEntry := by
  rw [walk, if_neg hdots, if_neg hlong]
  simp only [hnode]

theorem walk_directory (hdots : part ≠ "..") (hlong : ¬maxNameLength < part.utf8ByteSize)
    (hnode : fs.node? (here.child part) = some .directory) :
    fs.walk follow links here (part :: rest) ending =
      fs.walk follow links (here.child part) rest ending := by
  rw [walk, if_neg hdots, if_neg hlong]
  simp only [hnode]

theorem walk_link (hdots : part ≠ "..") (hlong : ¬maxNameLength < part.utf8ByteSize)
    (hnode : fs.node? (here.child part) = some (.link target)) :
    fs.walk follow links here (part :: rest) ending =
      if (rest.isEmpty && ending != .point) = true ∧ !follow ending then
        .ok (here.child part, ending)
      else
        match links with
        | 0 => .error .linkLoop
        | links + 1 =>
          fs.walk follow links (if (Path.ofText target).absolute then .root else here)
            ((Path.ofText target).parts ++ rest)
            (if rest.isEmpty ∧ ending = .bare then (Path.ofText target).ending else ending) := by
  rw [walk, if_neg hdots, if_neg hlong]
  cases links <;> simp [hnode]

theorem walk_leaf {node : Node} (hdots : part ≠ "..")
    (hlong : ¬maxNameLength < part.utf8ByteSize) (hnode : fs.node? (here.child part) = some node)
    (hdir : node ≠ .directory) (hlink : ∀ target, node ≠ .link target) :
    fs.walk follow links here (part :: rest) ending =
      if rest.isEmpty && ending != .point then .ok (here.child part, ending)
      else .error .notDirectory := by
  rw [walk, if_neg hdots, if_neg hlong]
  simp only [hnode]

end Steps

section Ways

variable {fs fs' : FileSystem} {links : Nat} {here d : Location} {way : List String}

/-- The parts lead from a directory to another one, over at most `links` links. -/
inductive Leads (fs : FileSystem) : Nat → Location → List String → Location → Prop
  | here {links : Nat} {d : Location} : Leads fs links d [] d
  | up {links : Nat} {here d : Location} {way : List String} :
      Leads fs links here.parent way d → Leads fs links here (".." :: way) d
  | down {links : Nat} {here d : Location} {part : String} {way : List String} :
      part ≠ ".." → ¬maxNameLength < part.utf8ByteSize →
      fs.node? (here.child part) = some .directory →
      Leads fs links (here.child part) way d → Leads fs links here (part :: way) d
  | link {links : Nat} {here d : Location} {part target : String} {way : List String} :
      part ≠ ".." → ¬maxNameLength < part.utf8ByteSize →
      fs.node? (here.child part) = some (.link target) →
      Leads fs links (if (Path.ofText target).absolute then .root else here)
        ((Path.ofText target).parts ++ way) d →
      Leads fs (links + 1) here (part :: way) d

/-- A walk goes on from the directory to which its first parts lead. -/
theorem Leads.walk_append (h : fs.Leads links here way d) (follow : Ending → Bool)
    (name : String) (rest : List String) (ending : Ending) : ∃ left,
    fs.walk follow links here (way ++ name :: rest) ending =
      fs.walk follow left d (name :: rest) ending := by
  induction h with
  | here => exact ⟨_, rfl⟩
  | up _ ih =>
    obtain ⟨left, ih⟩ := ih
    exact ⟨left, walk_up.trans ih⟩
  | down hdots hlong hnode _ ih =>
    obtain ⟨left, ih⟩ := ih
    exact ⟨left, (walk_directory hdots hlong hnode).trans ih⟩
  | link hdots hlong hnode _ ih =>
    obtain ⟨left, ih⟩ := ih
    refine ⟨left, (walk_link hdots hlong hnode).trans ?_⟩
    simpa using ih

/-- A walk that follows links comes to where the parts lead. -/
theorem Leads.walk_eq (h : fs.Leads links here way d) (ending : Ending) :
    ∃ e, fs.walk (fun _ => true) links here way ending = .ok (d, e) := by
  induction h generalizing ending with
  | here => exact ⟨ending, walk_nil⟩
  | up _ ih =>
    obtain ⟨e, ih⟩ := ih ending
    exact ⟨e, walk_up.trans ih⟩
  | down hdots hlong hnode _ ih =>
    obtain ⟨e, ih⟩ := ih ending
    exact ⟨e, (walk_directory hdots hlong hnode).trans ih⟩
  | @link links here d part target way hdots hlong hnode _ ih =>
    obtain ⟨e, ih⟩ :=
      ih (if way.isEmpty ∧ ending = .bare then (Path.ofText target).ending else ending)
    refine ⟨e, (walk_link hdots hlong hnode).trans ?_⟩
    simpa using ih

/-- A walk that succeeds has been led to a directory by its first parts. -/
theorem exists_leads {follow : Ending → Bool} {name : String} {rest : List String}
    {ending : Ending} {r : Location × Ending}
    (h : fs.walk follow links here (way ++ name :: rest) ending = .ok r) :
    ∃ left d, left ≤ links ∧ fs.Leads links here way d ∧
      fs.walk follow left d (name :: rest) ending = .ok r := by
  induction links using Nat.strongRecOn generalizing here way with
  | ind links fewer =>
    induction way generalizing here with
    | nil => exact ⟨links, here, Nat.le_refl _, .here, h⟩
    | cons part way ih =>
      rw [List.cons_append] at h
      have hlast : (way ++ name :: rest).isEmpty = false := by simp
      by_cases hdots : part = ".."
      · subst hdots
        rw [walk_up] at h
        obtain ⟨left, d, hle, hd, hr⟩ := ih h
        exact ⟨left, d, hle, .up hd, hr⟩
      by_cases hlong : maxNameLength < part.utf8ByteSize
      · rw [walk_long hdots hlong] at h
        cases h
      cases hnode : fs.node? (here.child part) with
      | none => simp [walk_none hdots hlong hnode, hlast] at h
      | some node =>
        cases node with
        | directory =>
          rw [walk_directory hdots hlong hnode] at h
          obtain ⟨left, d, hle, hd, hr⟩ := ih h
          exact ⟨left, d, hle, .down hdots hlong hnode hd, hr⟩
        | link target =>
          simp only [walk_link hdots hlong hnode, hlast, Bool.false_and, Bool.false_eq_true,
            false_and, if_false, ← List.append_assoc] at h
          cases links with
          | zero => cases h
          | succ links =>
            obtain ⟨left, d, hle, hd, hr⟩ := fewer links (Nat.lt_succ_self _) h
            exact ⟨left, d, Nat.le_succ_of_le hle, .link hdots hlong hnode hd, hr⟩
        | file content => simp [walk_leaf hdots hlong hnode (by simp) (by simp), hlast] at h
        | sink full => simp [walk_leaf hdots hlong hnode (by simp) (by simp), hlast] at h

theorem Leads.unique {d' : Location} (h : fs.Leads links here way d)
    (h' : fs.Leads links here way d') : d = d' := by
  induction h with
  | here =>
    cases h'
    rfl
  | up _ ih =>
    cases h' with
    | up h' => exact ih h'
    | down hdots => exact absurd rfl hdots
    | link hdots => exact absurd rfl hdots
  | down hdots _ hnode _ ih =>
    cases h' with
    | up => exact absurd rfl hdots
    | down _ _ _ h' => exact ih h'
    | link _ _ hnode' =>
      rw [hnode] at hnode'
      cases hnode'
  | link hdots _ hnode _ ih =>
    cases h' with
    | up => exact absurd rfl hdots
    | down _ _ hnode' =>
      rw [hnode] at hnode'
      cases hnode'
    | link _ _ hnode' h' =>
      rw [hnode] at hnode'
      cases hnode'
      exact ih h'

/-- What a way may go over stays as it is. -/
def Keeps (fs fs' : FileSystem) : Prop :=
  ∀ here node, fs.node? here = some node → node.isPassable → fs'.node? here = some node

theorem Leads.keeps (hkeeps : fs.Keeps fs') (h : fs.Leads links here way d) :
    fs'.Leads links here way d := by
  induction h with
  | here => exact .here
  | up _ ih => exact .up ih
  | down hdots hlong hnode _ ih => exact .down hdots hlong (hkeeps _ _ hnode rfl) ih
  | link hdots hlong hnode _ ih => exact .link hdots hlong (hkeeps _ _ hnode rfl) ih

/-- A walk that comes to a node still does when ways stay as they are and so does the node. -/
theorem walk_keeps (hkeeps : fs.Keeps fs') {there : Location} {parts : List String}
    {ending e : Ending} {node : Node}
    (h : fs.walk (fun _ => true) links here parts ending = .ok (there, e))
    (hthere : fs.node? there = some node) (hthere' : fs'.node? there = some node) :
    fs'.walk (fun _ => true) links here parts ending = .ok (there, e) := by
  fun_induction walk fs (fun _ => true) links here parts ending with
  | case1 => rwa [walk_nil]
  | case2 _ _ _ _ ih => exact walk_up.trans (ih h)
  | case4 _ _ _ _ _ _ _ _ _ hnone =>
    obtain ⟨rfl, -⟩ := Prod.mk.inj (Except.ok.inj h)
    rw [hnone] at hthere
    cases hthere
  | case6 _ _ _ _ _ hdots hlong _ hnode ih =>
    exact (walk_directory hdots hlong (hkeeps _ _ hnode rfl)).trans (ih h)
  | case7 _ _ _ _ _ _ _ _ _ _ _ hstop => simp at hstop
  | case9 _ _ _ _ hdots hlong _ _ target hnode _ links path ih =>
    rw [walk_link hdots hlong (hkeeps _ _ hnode rfl)]
    simpa using ih h
  | case10 _ _ _ _ _ hdots hlong _ last leaf hdir hlink hnode hlast =>
    obtain ⟨rfl, rfl⟩ := Prod.mk.inj (Except.ok.inj h)
    obtain rfl := Option.some.inj (hnode.symm.trans hthere)
    exact (walk_leaf hdots hlong hthere' hdir hlink).trans (if_pos hlast)
  | _ => cases h

theorem locate_keeps (hkeeps : fs.Keeps fs') {p : Path} {there : Location} {e : Ending}
    {node : Node} (h : fs.locate (fun _ => true) p = .ok (there, e))
    (hthere : fs.node? there = some node) (hthere' : fs'.node? there = some node) :
    fs'.locate (fun _ => true) p = .ok (there, e) := by
  unfold locate at h ⊢
  split at h
  · cases h
  next hzero =>
  split at h
  · cases h
  next hsize =>
  rw [if_neg hzero, if_neg hsize, walk_keeps hkeeps h hthere hthere']

theorem isDirectory_keeps (hkeeps : fs.Keeps fs') {p : Path} (h : fs.isDirectory p = true) :
    fs'.isDirectory p = true := by
  unfold isDirectory at h ⊢
  split at h
  · cases h
  next there e hlocate =>
  simp only [Bool.decide_and, Bool.and_eq_true, decide_eq_true_eq] at h
  have hdir := hkeeps _ _ h.1 rfl
  rw [locate_keeps hkeeps hlocate h.1 hdir]
  simp [hdir, h.2]

theorem walk_succ {follow : Ending → Bool} {parts : List String} {ending : Ending}
    {r : Location × Ending} (h : fs.walk follow links here parts ending = .ok r) :
    fs.walk follow (links + 1) here parts ending = .ok r := by
  fun_induction walk fs follow links here parts ending with
  | case1 => rwa [walk_nil]
  | case2 _ _ _ _ ih => exact walk_up.trans (ih h)
  | case4 _ _ _ _ _ hdots hlong _ _ hnone hlast =>
    exact (walk_none hdots hlong hnone).trans ((if_pos hlast).trans h)
  | case6 _ _ _ _ _ hdots hlong _ hnode ih =>
    exact (walk_directory hdots hlong hnode).trans (ih h)
  | case7 _ _ _ _ _ hdots hlong _ _ target hnode hstop =>
    exact (walk_link hdots hlong hnode).trans ((if_pos hstop).trans h)
  | case9 _ _ _ _ hdots hlong _ _ target hnode hgo links path ih =>
    exact (walk_link hdots hlong hnode).trans ((if_neg hgo).trans (ih h))
  | case10 _ _ _ _ _ hdots hlong _ last leaf hdir hlink hnode hlast =>
    exact (walk_leaf hdots hlong hnode hdir hlink).trans ((if_pos hlast).trans h)
  | _ => cases h

/-- A walk that succeeds does so when more links are allowed as well. -/
theorem walk_mono {follow : Ending → Bool} {parts : List String} {ending : Ending}
    {r : Location × Ending} {more : Nat} (hle : links ≤ more)
    (h : fs.walk follow links here parts ending = .ok r) :
    fs.walk follow more here parts ending = .ok r := by
  induction hle with
  | refl => exact h
  | step _ ih => exact walk_succ ih

/-- A way starts with a way of its first parts. -/
theorem Leads.exists_prefix {before after : List String}
    (h : fs.Leads links here (before ++ after) d) : ∃ d', fs.Leads links here before d' := by
  generalize hway : before ++ after = way at h
  induction h generalizing before after with
  | here =>
    obtain ⟨rfl, -⟩ := List.append_eq_nil_iff.mp hway
    exact ⟨_, .here⟩
  | up _ ih =>
    cases before with
    | nil => exact ⟨_, .here⟩
    | cons part before =>
      obtain ⟨rfl, hrest⟩ := List.cons.inj hway
      obtain ⟨d', hd'⟩ := ih hrest
      exact ⟨d', .up hd'⟩
  | down hdots hlong hnode _ ih =>
    cases before with
    | nil => exact ⟨_, .here⟩
    | cons part before =>
      obtain ⟨rfl, hrest⟩ := List.cons.inj hway
      obtain ⟨d', hd'⟩ := ih hrest
      exact ⟨d', .down hdots hlong hnode hd'⟩
  | link hdots hlong hnode _ ih =>
    cases before with
    | nil => exact ⟨_, .here⟩
    | cons part before =>
      obtain ⟨rfl, rfl⟩ := List.cons.inj hway
      obtain ⟨d', hd'⟩ := ih (List.append_assoc _ _ _)
      exact ⟨d', .link hdots hlong hnode hd'⟩

end Ways

section Trees

variable {fs : FileSystem} {links : Nat} {here there d : Location} {way : List String}

/-- Whatever there is lies in a directory. -/
def IsTree (fs : FileSystem) : Prop :=
  ∀ here node, fs.node? here = some node → fs.node? here.parent = some .directory

theorem Leads.isDirectory (htree : fs.IsTree) (h : fs.Leads links here way d)
    (hhere : fs.node? here = some .directory) : fs.node? d = some .directory := by
  induction h with
  | here => exact hhere
  | up _ ih => exact ih (htree _ _ hhere)
  | down _ _ hnode _ ih => exact ih hnode
  | link _ _ _ _ ih =>
    apply ih
    split
    · exact node?_root fs
    · exact hhere

theorem parent_of_walk (htree : fs.IsTree) {follow : Ending → Bool} {parts : List String}
    {ending e : Ending} (hclean : ∀ part ∈ parts, '/' ∉ part.toList)
    (hhere : fs.node? here = some .directory)
    (h : fs.walk follow links here parts ending = .ok (there, e)) :
    fs.node? there.parent = some .directory := by
  fun_induction walk with
  | case1 =>
    obtain ⟨rfl, -⟩ := Prod.mk.inj (Except.ok.inj h)
    exact htree _ _ hhere
  | case2 links here rest ending ih =>
    exact ih (fun p hp => hclean p (List.mem_cons_of_mem _ hp)) (htree _ _ hhere) h
  | case4 links here part rest ending =>
    obtain ⟨hthere, -⟩ := Prod.mk.inj (Except.ok.inj h)
    rwa [← hthere, Location.parent_child _ (hclean part List.mem_cons_self)]
  | case6 links here part rest ending _ _ _ hnode ih =>
    exact ih (fun p hp => hclean p (List.mem_cons_of_mem _ hp)) hnode h
  | case7 links here part rest ending _ _ _ _ target hnode =>
    obtain ⟨hthere, -⟩ := Prod.mk.inj (Except.ok.inj h)
    exact hthere ▸ htree _ _ hnode
  | case9 here part rest ending _ _ _ _ target _ _ links path ih =>
    refine ih (fun p hp => ?_) ?_ h
    · rcases List.mem_append.mp hp with hp | hp
      · exact (Path.isClean_ofText target).parts p hp
      · exact hclean p (List.mem_cons_of_mem _ hp)
    · split
      · exact node?_root fs
      · exact hhere
  | case10 links here part rest ending _ _ _ _ node _ _ hnode =>
    obtain ⟨hthere, -⟩ := Prod.mk.inj (Except.ok.inj h)
    exact hthere ▸ htree _ _ hnode
  | _ => cases h

theorem parent_of_locate (htree : fs.IsTree) {follow : Ending → Bool} {p : Path} {e : Ending}
    (hclean : p.IsClean) (h : fs.locate follow p = .ok (there, e)) :
    fs.node? there.parent = some .directory := by
  unfold locate at h
  split at h
  · cases h
  split at h
  · cases h
  exact parent_of_walk htree hclean.parts (node?_root fs) h

end Trees

end FileSystem

end Microversion.Storage
