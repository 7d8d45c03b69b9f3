import Microversion.Proofs.Cache.Entries
import Microversion.Proofs.Cache.ServerKey

/-! # Servers do not share entries

What is saved for one server is never found for another one, however the save ends,
exactly if the keys of the two are not written alike. A cache in order stays in order,
so that this holds of any number of saves.
-/

namespace Microversion.Cache

open Storage

/-- There are only files and directories, the temporary file of the cache is another one than its
own, and the path of the cache goes up from directories only that are there. -/
structure IsOrderly (c : Cache) (fs : FileSystem) : Prop where
  regular : fs.IsRegular
  apart : c.file.withExtension "tmp" = c.file → ∀ name ∈ c.file.parts.getLast?, name = ".."
  settled : ".." ∈ c.file.parts → ∀ parent ∈ c.file.parent?, fs.isDirectory parent

namespace Saving

variable {s : Saving} {fs fs' fs₀ : FileSystem} {there : Location} {new : Document} {stage : Stage}

/-- Files and directories are all there is afterwards, and ways are left as they were. -/
def Tends (fs fs' : FileSystem) : Prop := fs'.IsRegular ∧ fs.Keeps fs'

theorem Tends.refl (h : fs.IsRegular) : Tends fs fs := ⟨h, fun _ _ hnode _ => hnode⟩

theorem tends_of_alters (h : fs.IsRegular) (hspot : s.Spot fs there)
    (halters : FileSystem.Alters there fs fs') : Tends fs fs' := by
  have hlocate := hspot.locate (s.cache.isHosted_of_isRegular h) fun _ => false
  exact ⟨h.alters halters (FileSystem.parent_of_locate h.tree s.isClean_temporary hlocate),
    halters.keeps⟩

theorem tends_makeParent (h : fs.IsRegular) : Tends fs (s.makeParent fs).1 := by
  obtain ⟨htree, hgrows⟩ := s.makeParent_grows h.tree
  exact ⟨h.grows htree hgrows, hgrows.keeps⟩

theorem tends_rename (h : fs.IsRegular) (hspot : s.Spot fs there) {data : Bytes}
    (hfile : fs.node? there = some (.file data))
    (hrename : fs.rename s.temporary s.cache.file = .ok fs') : Tends fs fs' := by
  have hsource := hspot.locate (s.cache.isHosted_of_isRegular h) fun _ => false
  have hmoves := FileSystem.rename_file h.tree s.isClean_file
    (fun d name _ hlink => absurd hlink (h.plain (d.child name)).not_isLink) hsource hfile hrename
  refine ⟨⟨hmoves.tree, fun here => hmoves.plain here (h.plain here)⟩, ?_⟩
  intro here node hnode hpass
  have hplain := h.plain here node hnode
  cases node with
  | directory => exact hmoves.directories here hnode
  | file => cases hpass
  | link => cases hplain
  | sink => cases hpass

/-- One stage of a save leaves files and directories only, whether or not it fails. -/
theorem tends_step (h : s.Secure fs₀ s.cache.IsHosted new stage fs) (hregular : fs.IsRegular)
    (failure : Option Failure) : Tends fs (s.step failure stage fs).2 := by
  have hhosted := s.cache.isHosted_of_isRegular hregular
  cases stage with
  | load => cases failure <;> exact .refl hregular
  | directories doc =>
    cases failure with
    | some f => exact .refl hregular
    | none =>
      have hmade := s.tends_makeParent hregular
      simp only [step]
      split
      · next heq => rwa [heq] at hmade
      · next heq => rwa [heq] at hmade
  | openTemporary data =>
    cases failure with
    | some f => exact .refl hregular
    | none =>
      simp only [step]
      split
      · next hopen =>
        obtain ⟨hspot, hleaf, rfl⟩ := openTemporary_ok hhosted hopen
        exact tends_of_alters hregular hspot (.put hleaf [])
      · exact .refl hregular
  | write there data =>
    obtain ⟨-, -, hspot, content, hfile⟩ := h
    have hleaf := FileSystem.isLeaf_of_file hfile
    cases failure with
    | none =>
      simp only [step, FileSystem.write_file hfile]
      exact tends_of_alters hregular hspot (.put hleaf data)
    | some f =>
      simp only [step, FileSystem.write_file hfile]
      exact tends_of_alters hregular hspot (.put hleaf _)
  | flush => cases failure <;> exact .refl hregular
  | move =>
    obtain ⟨-, there, hspot, hfile⟩ := h
    cases failure with
    | some f => exact .refl hregular
    | none =>
      simp only [step]
      split
      · next hrename => exact tends_rename hregular hspot hfile hrename
      · exact .refl hregular
  | cleanUp reason =>
    cases failure with
    | some f => exact .refl hregular
    | none =>
      simp only [step]
      cases hremove : fs.remove s.temporary with
      | error e => exact .refl hregular
      | ok fs' =>
        obtain ⟨there, hspot, hleaf, rfl⟩ := removeTemporary_ok hhosted hremove
        exact tends_of_alters hregular hspot (.erase hleaf)
  | finished result => cases failure <;> exact .refl hregular

theorem tends_after (h : fs.IsRegular) (failures : Nat → Option Failure) (n : Nat) :
    Tends fs (s.after failures fs n).2 := by
  induction n with
  | zero => exact .refl h
  | succ n ih =>
    have hsecure := secure_after (maintains_isHosted (s.cache.isHosted_of_isRegular h)) failures n
    have hstep := tends_step hsecure ih.1 (failures n)
    refine ⟨hstep.1, ?_⟩
    intro here node hnode hpass
    exact hstep.2 here node (ih.2 here node hnode hpass) hpass

end Saving

/-- A save that may meet failures and may be left off after any number of its stages. Its reading
does not fail as if there were no file. -/
structure Deposit where
  key : ServerKey
  version : String
  now : UInt64
  failures : Nat → Option Saving.Failure
  stages : Nat
  reads : Saving.Reads failures

namespace Deposit

def saving (d : Deposit) (c : Cache) : Saving := ⟨c, d.key, d.version, d.now.toNat⟩

/-- The files when the save has ended or has been left off. -/
def files (d : Deposit) (c : Cache) (fs : FileSystem) : FileSystem :=
  ((d.saving c).after d.failures fs d.stages).2

/-- The files after some saves, one after the other. -/
def filesAfter (c : Cache) (fs : FileSystem) (ds : List Deposit) : FileSystem :=
  ds.foldl (fun fs d => d.files c fs) fs

/-- A save that is not disturbed. -/
def undisturbed (key : ServerKey) (version : String) (now : UInt64) : Deposit :=
  ⟨key, version, now, fun _ => none, 7, by rintro f ⟨⟩⟩

variable {c : Cache} {fs : FileSystem} {d : Deposit} {key : String} {e : Entry}

theorem isOrderly_files (h : c.IsOrderly fs) (d : Deposit) : c.IsOrderly (d.files c fs) := by
  obtain ⟨hregular, hkeeps⟩ := (d.saving c).tends_after h.regular d.failures d.stages
  refine ⟨hregular, h.apart, ?_⟩
  intro hup parent hparent
  exact FileSystem.isDirectory_keeps hkeeps (h.settled hup parent hparent)

/-- A save that may be disturbed changes no entry but the one that it saves. -/
theorem held?_files (h : c.IsOrderly fs) (d : Deposit) (key : String) :
    c.held? (d.files c fs) key = c.held? fs key ∨
      d.key.text = key ∧ c.held? (d.files c fs) key = some ⟨d.version, d.now.toNat⟩ := by
  have hkept := (d.saving c).maintains_stored? h.regular h.apart h.settled
  exact Saving.held?_of_stored? d.now.toNat_lt (Saving.stored?_after hkept d.reads d.stages) key

/-- What is held for a key has been saved under its text or was held at first. -/
theorem held?_filesAfter (h : c.IsOrderly fs) {ds : List Deposit}
    (hheld : c.held? (filesAfter c fs ds) key = some e) :
    c.held? fs key = some e ∨ ∃ d ∈ ds, d.key.text = key ∧ d.version = e.version := by
  induction ds generalizing fs with
  | nil => exact .inl hheld
  | cons d ds ih =>
    rcases ih (isOrderly_files h d) hheld with hfirst | ⟨d', hmem, hd'⟩
    · rcases held?_files h d key with hsame | ⟨hkey, hsaved⟩
      · exact .inl (hsame ▸ hfirst)
      · rw [hsaved, Option.some.injEq] at hfirst
        exact .inr ⟨d, List.mem_cons_self, hkey, by rw [← hfirst]⟩
    · exact .inr ⟨d', List.mem_cons_of_mem _ hmem, hd'⟩

end Deposit

/-- Whatever is saved under the first key, nothing of it is found under the second one. -/
structure KeepsApart (k l : ServerKey) : Prop where
  untouched : ∀ (c : Cache) (fs : FileSystem), c.IsOrderly fs → ∀ d : Deposit, d.key = k →
    ∀ maxAge now, c.retrieveWithin maxAge now l (d.files c fs) = c.retrieveWithin maxAge now l fs
  foreign : ∀ (c : Cache) (fs : FileSystem), c.IsOrderly fs → ∀ (ds : List Deposit) maxAge now v,
    c.retrieveWithin maxAge now l (Deposit.filesAfter c fs ds) = some v →
    (∀ d ∈ ds, d.version = v → d.key = k) → ∃ e, c.held? fs l.text = some e ∧ e.version = v

section Apart

variable {k l : ServerKey}

theorem retrieveWithin_eq_held? (c : Cache) (maxAge : Duration) (now : Nat) (key : ServerKey)
    (fs : FileSystem) :
    c.retrieveWithin maxAge now key fs = (c.held? fs key.text).bind (fresh? maxAge now) := rfl

theorem version_of_fresh? {maxAge : Duration} {now : Nat} {e : Entry} {v : String}
    (h : fresh? maxAge now e = some v) : e.version = v := by
  unfold fresh? at h
  split at h
  · cases h
  · exact Option.some.inj h

theorem keepsApart_of_text_ne (h : k.text ≠ l.text) : KeepsApart k l where
  untouched c fs horderly d hd maxAge now := by
    subst hd
    rcases Deposit.held?_files horderly d l.text with hsame | ⟨hkey, -⟩
    · rw [retrieveWithin_eq_held?, hsame, retrieveWithin_eq_held?]
    · exact absurd hkey h
  foreign c fs horderly ds maxAge now v hv honly := by
    rw [retrieveWithin_eq_held?, Option.bind_eq_some_iff] at hv
    obtain ⟨e, hheld, hfresh⟩ := hv
    have hversion := version_of_fresh? hfresh
    rcases Deposit.held?_filesAfter horderly hheld with hfirst | ⟨d, hd, hkey, hsaved⟩
    · exact ⟨e, hfirst, hversion⟩
    · have hk := honly d hd (hsaved.trans hversion)
      exact absurd (hk ▸ hkey) h

/-- A cache that holds nothing. -/
def emptyCache : FileSystem := Saving.oneFile "v.json" [0x7B, 0x7D]

theorem isOrderly_emptyCache : (⟨"v.json", .ofSeconds 300⟩ : Cache).IsOrderly emptyCache where
  regular := Saving.isRegular_oneFile (by decide) _
  apart h := absurd h (by decide)
  settled h := absurd h (by decide)

/-- What has been saved in an empty cache is found under every key of the same text. -/
theorem retrieve_undisturbed (h : k.text = l.text) :
    (⟨"v.json", .ofSeconds 300⟩ : Cache).retrieve 1000 l emptyCache = none ∧
      (⟨"v.json", .ofSeconds 300⟩ : Cache).retrieve 1000 l
        ((Deposit.undisturbed k "1.31" 1000).files ⟨"v.json", .ofSeconds 300⟩ emptyCache) =
        some "1.31" := by
  have hready : (Saving.mk ⟨"v.json", .ofSeconds 300⟩ k "1.31" 1000).ReadyIn emptyCache [] .root
      "v.json" "v.tmp" := (Saving.readyIn_sample [0x7B, 0x7D]).of_cache rfl
  constructor
  · have hread : emptyCache.read (Cache.mk "v.json" (.ofSeconds 300)).file = .ok [0x7B, 0x7D] :=
      FileSystem.read_file hready.fileNames hready.leads
        (FileSystem.node?_put_self (Location.child_ne_root _ _))
    rw [retrieve_eq, held?, content, hread]
    rfl
  · have hfiles : (Deposit.undisturbed k "1.31" 1000).files ⟨"v.json", .ofSeconds 300⟩ emptyCache =
        ((⟨"v.json", .ofSeconds 300⟩ : Cache).save 1000 k "1.31" emptyCache).1 :=
      congrArg Prod.snd (Saving.after_of_save ⟨⟨"v.json", .ofSeconds 300⟩, k, "1.31", 1000⟩ _)
    have hok : ((⟨"v.json", .ofSeconds 300⟩ : Cache).save 1000 k "1.31" emptyCache).2 = .ok () :=
      hready.save.1
    rw [hfiles, retrieve_eq, held?, content_of_save hready.hosted (by decide) hok, ← h,
      Content.document?, Option.bind_some, Table.get?_insert_self]
    rfl

theorem not_keepsApart_of_text_eq (h : k.text = l.text) : ¬KeepsApart k l := by
  intro hapart
  obtain ⟨hnone, hsome⟩ := retrieve_undisturbed h
  have hsame := hapart.untouched _ _ isOrderly_emptyCache (.undisturbed k "1.31" 1000) rfl
    (.ofSeconds 300) 1000
  rw [← retrieve, ← retrieve] at hsame
  rw [hsome, hnone] at hsame
  cases hsame

/-- Two servers do not share entries exactly if their keys are not written alike, and so different
ones never do that are plain. -/
theorem keepsApart_iff (k l : ServerKey) :
    (KeepsApart k l ↔ ¬ServerKey.SpelledAlike k l) ∧
      (k.IsPlain → l.IsPlain → k ≠ l → KeepsApart k l) := by
  constructor
  · rw [← ServerKey.text_eq_iff]
    exact ⟨fun hapart htext => not_keepsApart_of_text_eq htext hapart, keepsApart_of_text_ne⟩
  · intro hk hl hne
    refine keepsApart_of_text_ne ?_
    intro htext
    exact hne (hk.eq_of_spelledAlike hl (ServerKey.text_eq_iff.mp htext))

/-- A server without a host shares its entries with one whose host is written like an absent one,
and a colon may belong to the host or to the port. -/
theorem not_keepsApart_absent :
    (⟨none, some "6385"⟩ : ServerKey) ≠ ⟨some "none", some "6385"⟩ ∧
      ¬KeepsApart ⟨none, some "6385"⟩ ⟨some "none", some "6385"⟩ ∧
      (⟨some "a:b", some "c"⟩ : ServerKey) ≠ ⟨some "a", some "b:c"⟩ ∧
      ¬KeepsApart ⟨some "a:b", some "c"⟩ ⟨some "a", some "b:c"⟩ := by
  refine ⟨by decide, not_keepsApart_of_text_eq rfl, by decide, ?_⟩
  exact not_keepsApart_of_text_eq (by decide)

end Apart

end Microversion.Cache
