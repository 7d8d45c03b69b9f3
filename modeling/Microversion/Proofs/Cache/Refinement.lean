import Microversion.Proofs.Cache.Readiness

/-! # A cache is a map with times

Over any number of uses a cache gives what a map from the texts of keys to versions
and times would give: what was last saved under a key, else what the file held for
it at first, for as long as it is young enough.
-/

namespace Microversion.Cache

open Storage

/-- A use of a cache at some time in milliseconds. Without an age of its own a retrieval goes by
the expiry of the cache. -/
inductive Use where
  | save (now : UInt64) (key : ServerKey) (version : String)
  | retrieve (now : UInt64) (key : ServerKey) (maxAge : Option Duration)

def Use.time : Use → UInt64
  | save now _ _ => now
  | retrieve now _ _ => now

inductive Outcome where
  | saved (result : Except CacheError Unit)
  | found (version : Option String)

/-- A use of a cache: the files after it and its outcome. -/
def use (c : Cache) (fs : FileSystem) : Use → FileSystem × Outcome
  | .save now key version =>
    let (fs, result) := c.save now.toNat key version fs
    (fs, .saved result)
  | .retrieve now key none => (fs, .found (c.retrieve now.toNat key fs))
  | .retrieve now key (some maxAge) => (fs, .found (c.retrieveWithin maxAge now.toNat key fs))

/-- The files after some uses. -/
def filesAfter (c : Cache) (fs : FileSystem) (uses : List Use) : FileSystem :=
  uses.foldl (fun fs u => (c.use fs u).1) fs

/-- No save reports an error. -/
def Succeeds (c : Cache) : FileSystem → List Use → Prop
  | _, [] => True
  | fs, u :: us =>
    (∀ result, (c.use fs u).2 = .saved result → result = .ok ()) ∧ c.Succeeds (c.use fs u).1 us

/-- The entry that the file holds for a key, if it can be read. -/
def held? (c : Cache) (fs : FileSystem) (key : String) : Option Entry :=
  (c.content fs).document?.bind (Table.get? key)

/-- The entry that a use saves under a key. -/
def Use.saved? (key : String) : Use → Option Entry
  | save now k version => if k.text = key then some ⟨version, now.toNat⟩ else none
  | retrieve _ _ _ => none

/-- The entry last saved under a key. -/
def lastSaved? (key : String) : List Use → Option Entry
  | [] => none
  | u :: us => (lastSaved? key us).or (u.saved? key)

section Saves

variable {c : Cache} {fs : FileSystem} {now : Nat} {key : ServerKey} {version : String}

theorem saved_intended (hhosted : c.IsHosted fs)
    (hok : (c.save now key version fs).2 = .ok ()) :
    c.stored? (c.save now key version fs).1 =
      some ((Saving.mk c key version now).intended none fs).encode := by
  have hmaintains := Saving.maintains_isHosted (s := ⟨c, key, version, now⟩) hhosted
  rcases hmaintains.save with ⟨-, hfail⟩ | ⟨-, -, hstored⟩
  · exact absurd hok hfail
  · exact hstored

theorem content_of_save (hhosted : c.IsHosted fs)
    (hnow : now < UInt64.size) (hok : (c.save now key version fs).2 = .ok ()) :
    c.content (c.save now key version fs).1 =
      .entries (Table.insert key.text ⟨version, now⟩ ((c.content fs).document?.getD [])) :=
  content_of_stored? (saved_intended hhosted hok)
    (Document.decode?_encode (Saving.isProper_intended _ hnow none fs))

end Saves

section Uses

variable {c : Cache} {fs : FileSystem} {uses : List Use}

theorem IsHosted.save (h : c.IsHosted fs) (now : Nat) (key : ServerKey) (version : String) :
    c.IsHosted (c.save now key version fs).1 := by
  have hmaintains := Saving.maintains_isHosted (s := ⟨c, key, version, now⟩) h
  rcases hmaintains.save with ⟨hafter, -⟩ | ⟨-, hafter, -⟩
  · exact hafter
  · exact hafter

theorem IsHosted.use (h : c.IsHosted fs) (u : Use) : c.IsHosted (c.use fs u).1 := by
  cases u with
  | save now key version => exact h.save now.toNat key version
  | retrieve now key maxAge => cases maxAge <;> exact h

/-- A save changes the entry of its key, and a retrieval changes none. -/
theorem held?_use (h : c.IsHosted fs) {u : Use}
    (hok : ∀ result, (c.use fs u).2 = .saved result → result = .ok ()) (key : String) :
    c.held? (c.use fs u).1 key = (u.saved? key).or (c.held? fs key) := by
  cases u with
  | save now k version =>
    have hcontent := content_of_save h now.toNat_lt (hok _ rfl)
    have hheld : c.held? (c.use fs (.save now k version)).1 key =
        Table.get? key (Table.insert k.text ⟨version, now.toNat⟩
          ((c.content fs).document?.getD [])) := by
      rw [held?]
      simp only [use, hcontent, Content.document?, Option.bind_some]
    rw [hheld]
    by_cases hkey : k.text = key
    · rw [← hkey, Table.get?_insert_self, Use.saved?, if_pos rfl, Option.some_or]
    · rw [Table.get?_insert_of_ne _ _ (Ne.symm hkey), Use.saved?, if_neg hkey, Option.none_or,
        held?]
      cases (c.content fs).document? <;> rfl
  | retrieve now k maxAge => cases maxAge <;> rfl

theorem IsHosted.filesAfter (h : c.IsHosted fs) (uses : List Use) :
    c.IsHosted (c.filesAfter fs uses) := by
  induction uses generalizing fs with
  | nil => exact h
  | cons u us ih => exact ih (h.use u)

/-- The entry of a key is the one that was last saved, else the one that was there at first. -/
theorem held?_filesAfter (h : c.IsHosted fs) (hsucceeds : c.Succeeds fs uses) (key : String) :
    c.held? (c.filesAfter fs uses) key = (lastSaved? key uses).or (c.held? fs key) := by
  induction uses generalizing fs with
  | nil => rfl
  | cons u us ih =>
    have ih := ih (h.use u) hsucceeds.2
    rw [held?_use h hsucceeds.1] at ih
    rw [lastSaved?, Option.or_assoc]
    exact ih

theorem succeeds_append {before after : List Use} (h : c.Succeeds fs (before ++ after)) :
    c.Succeeds fs before ∧ c.Succeeds (c.filesAfter fs before) after := by
  induction before generalizing fs with
  | nil => exact ⟨trivial, h⟩
  | cons u us ih =>
    obtain ⟨hu, hus⟩ := h
    obtain ⟨hbefore, hafter⟩ := ih hus
    exact ⟨⟨hu, hbefore⟩, hafter⟩

theorem exists_time_of_lastSaved? {key : String} {e : Entry} (h : lastSaved? key uses = some e) :
    ∃ u ∈ uses, u.time.toNat = e.storedAt := by
  induction uses with
  | nil => cases h
  | cons u us ih =>
    rw [lastSaved?, Option.or_eq_some_iff] at h
    rcases h with h | ⟨-, h⟩
    · obtain ⟨v, hv, htime⟩ := ih h
      exact ⟨v, List.mem_cons_of_mem _ hv, htime⟩
    · refine ⟨u, List.mem_cons_self, ?_⟩
      cases u with
      | save now k version =>
        simp only [Use.saved?] at h
        split at h
        · cases h
          rfl
        · cases h
      | retrieve => cases h

end Uses

section Refinement

variable {c : Cache} {fs : FileSystem} {uses before after : List Use} {u : Use}

/-- What a use does to the files and what it gives are what a map with times would do and give,
when some uses have gone before. -/
def Refines (c : Cache) (fs : FileSystem) (before : List Use) : Use → Prop
  | .save now key version =>
    ∃ doc, c.content (c.filesAfter fs (before ++ [.save now key version])) = .entries doc ∧
      Table.get? key.text doc = some ⟨version, now.toNat⟩ ∧
      (∀ other, other ≠ key.text →
        Table.get? other doc = c.held? (c.filesAfter fs before) other) ∧
      ((c.content (c.filesAfter fs before)).document? = none →
        doc = [(key.text, ⟨version, now.toNat⟩)])
  | .retrieve now key maxAge =>
    c.use (c.filesAfter fs before) (.retrieve now key maxAge) =
      (c.filesAfter fs before, .found
        (((lastSaved? key.text before).or (c.held? fs key.text)).bind fun e =>
          if (now.toNat - e.storedAt) * 1000000 < (maxAge.getD c.expiry).nanoseconds then
            some e.version
          else none)) ∧
    ∀ e, lastSaved? key.text before = some e → e.storedAt ≤ now.toNat

theorem fresh?_eq (maxAge : Duration) (now : Nat) (e : Entry) :
    fresh? maxAge now e =
      if (now - e.storedAt) * 1000000 < maxAge.nanoseconds then some e.version else none := by
  unfold fresh?
  by_cases h : maxAge ≤ e.age now
  · have h' : ¬(now - e.storedAt) * 1000000 < maxAge.nanoseconds := Nat.not_lt.mpr h
    rw [if_pos h, if_neg h']
  · have h' : (now - e.storedAt) * 1000000 < maxAge.nanoseconds := Nat.not_le.mp h
    rw [if_neg h, if_pos h']

theorem filesAfter_concat (c : Cache) (fs : FileSystem) (before : List Use) (u : Use) :
    c.filesAfter fs (before ++ [u]) = (c.use (c.filesAfter fs before) u).1 := by
  simp [filesAfter]

/-- Whatever a cache file holds at first, its uses refine those of a map with times. -/
theorem refines_of_uses (c : Cache) (fs : FileSystem) (uses : List Use) (hhosted : c.IsHosted fs)
    (hclock : uses.Pairwise fun u v => u.time ≤ v.time) (hsucceeds : c.Succeeds fs uses)
    (before : List Use) (u : Use) (after : List Use) (huses : uses = before ++ u :: after) :
    c.Refines fs before u := by
  subst huses
  obtain ⟨hbefore, hafter⟩ := succeeds_append hsucceeds
  have hnow := hhosted.filesAfter before
  cases u with
  | save now key version =>
    have hok := hafter.1 _ rfl
    have hcontent := content_of_save hnow now.toNat_lt hok
    have hafter := filesAfter_concat c fs before (.save now key version)
    refine ⟨_, hafter ▸ hcontent, Table.get?_insert_self _ _ _, fun other hother => ?_,
      fun hnone => ?_⟩
    · rw [Table.get?_insert_of_ne _ _ hother, held?]
      cases (c.content (c.filesAfter fs before)).document? <;> rfl
    · rw [hnone]
      rfl
  | retrieve now key maxAge =>
    have hheld := held?_filesAfter hhosted hbefore key.text
    refine ⟨?_, fun e he => ?_⟩
    · rw [← hheld]
      simp only [← fresh?_eq]
      cases maxAge <;> rfl
    · obtain ⟨v, hv, htime⟩ := exists_time_of_lastSaved? he
      rw [← htime]
      exact (List.pairwise_append.mp hclock).2.2 v hv _ List.mem_cons_self

end Refinement

section Readiness

variable {c : Cache} {fs : FileSystem} {way : List String} {d : Location} {name new : String}

/-- Where one save succeeds any number of uses do. -/
theorem succeeds_of_readyIn {s : Saving} (h : s.ReadyIn fs way d name new) (uses : List Use) :
    s.cache.Succeeds fs uses := by
  induction uses generalizing fs with
  | nil => trivial
  | cons u us ih =>
    cases u with
    | save now key version =>
      have hready : (Saving.mk s.cache key version now.toNat).ReadyIn fs way d name new :=
        h.of_cache rfl
      obtain ⟨hok, hafter⟩ := hready.save
      refine ⟨fun result hresult => ?_, ih (hafter.of_cache rfl)⟩
      cases hresult
      exact hok
    | retrieve now key maxAge =>
      cases maxAge <;> exact ⟨fun result hresult => (by cases hresult), ih h⟩

theorem refines_of_corruptFile :
    let c : Cache := ⟨"v.json", .ofSeconds 300⟩
    let fs := Saving.oneFile "v.json" [0x7B]
    let key : ServerKey := ⟨some "ironic", some "6385"⟩
    let before : List Use := [.retrieve 1000 key none, .save 2000 key "1.31",
      .save 3000 ⟨some "ironic", none⟩ "1.46"]
    let last : Use := .retrieve 4000 key (some (.ofSeconds 60))
    c.IsHosted fs ∧ (before ++ [last]).Pairwise (fun u v => u.time ≤ v.time) ∧
      c.Succeeds fs (before ++ [last]) ∧ c.Refines fs before last := by
  intro c fs key before last
  have hready := Saving.readyIn_sample [0x7B]
  have hhosted : c.IsHosted fs := hready.hosted
  have hclock : (before ++ [last]).Pairwise fun u v => u.time ≤ v.time := by decide
  have hsucceeds : c.Succeeds fs (before ++ [last]) := succeeds_of_readyIn hready _
  exact ⟨hhosted, hclock, hsucceeds,
    refines_of_uses c fs _ hhosted hclock hsucceeds before last [] rfl⟩

end Readiness

end Microversion.Cache
