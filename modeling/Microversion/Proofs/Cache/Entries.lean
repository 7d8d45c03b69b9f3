import Microversion.Proofs.Cache.Persistence

/-! # What a save does to entries

A save writes what it has read, with one entry more. Whatever it meets, the entries
of other servers are kept where the temporary file of the cache is another file.
-/

namespace Microversion.Cache.Saving

open Storage

variable {s : Saving} {fs fs' : FileSystem} {failures : Nat → Option Failure} {new doc : Document}
  {stage : Stage} {n : Nat}

section Content

/-- Whatever is to be written yet is the document. -/
def Carries (new : Document) : Stage → Prop
  | .directories doc => doc = new
  | .openTemporary data => data = new.encode
  | .write _ data => data = new.encode
  | _ => True

theorem carries_afterLoad (s : Saving) (failure : Option Failure) (fs : FileSystem) :
    Carries (s.intended failure fs) (s.afterLoad (s.loaded failure fs)) := by
  rcases s.afterLoad_cases (s.loaded failure fs) with h | ⟨e, h⟩
  · rw [h]
    exact rfl
  · rw [h]
    trivial

theorem carries_step (failure : Option Failure) (fs : FileSystem) (h : Carries new stage)
    (hload : stage = .load → new = s.intended failure fs) :
    Carries new (s.step failure stage fs).1 := by
  cases stage with
  | load =>
    obtain rfl := hload rfl
    cases failure <;> exact carries_afterLoad s _ fs
  | directories doc =>
    obtain rfl : doc = new := h
    cases failure with
    | none =>
      simp only [step]
      split
      · exact rfl
      · trivial
    | some f => trivial
  | openTemporary data =>
    obtain rfl : data = new.encode := h
    cases failure with
    | none =>
      simp only [step]
      split
      · exact rfl
      · trivial
    | some f => trivial
  | write there data =>
    cases failure with
    | none =>
      simp only [step]
      split <;> trivial
    | some f => trivial
  | flush => cases failure <;> trivial
  | move =>
    cases failure with
    | none =>
      simp only [step]
      split <;> trivial
    | some f => trivial
  | cleanUp reason => cases failure <;> trivial
  | finished result => cases failure <;> trivial

/-- In any file system a save writes the document that it intends. -/
theorem carries_after (s : Saving) (failures : Nat → Option Failure) (fs : FileSystem) (n : Nat) :
    Carries (s.intended (failures 0) fs) (s.after failures fs n).1 := by
  induction n with
  | zero => trivial
  | succ n ih =>
    refine carries_step _ _ ih ?_
    intro hload
    cases n with
    | zero => rfl
    | succ n => exact absurd hload (s.step_ne_load _ _ _)

end Content

section Reading

/-- A save whose reading fails ends there, unless it seems that there is no file. -/
theorem after_of_unread {f : Failure} (hf : failures 0 = some f)
    (hthere : f.reason ≠ .noEntry) (fs : FileSystem) (n : Nat) :
    s.after failures fs (n + 1) = (.finished (.error (.io f.reason)), fs) := by
  induction n with
  | zero =>
    have hread : Content.ofRead (.error f.reason) = .unreadable f.reason := by
      cases hr : f.reason <;> first | rfl | exact absurd hr hthere
    simp only [after, hf, step, hread, afterLoad]
  | succ n ih =>
    rw [after, ih]
    cases failures (n + 1) <;> rfl

/-- The reading does not fail as if there were no file. -/
def Reads (failures : Nat → Option Failure) : Prop :=
  ∀ f, failures 0 = some f → f.reason ≠ .noEntry

/-- What a save has done it has done to what it has read. -/
theorem Reads.of_done (h : Reads failures)
    (hresult : (s.after failures fs n).1.result? = some (.ok ())) : failures 0 = none := by
  cases hf : failures 0 with
  | none => rfl
  | some f =>
    cases n with
    | zero => cases hresult
    | succ n =>
      rw [after_of_unread hf (h f hf)] at hresult
      cases hresult

/-- The file of the cache is as it was or holds what was to be written. -/
theorem stored?_after (hkept : s.Maintains fs fun fs' =>
      s.cache.IsHosted fs' ∧ s.cache.stored? fs' = s.cache.stored? fs)
    (hreads : Reads failures) (n : Nat) :
    s.cache.stored? (s.after failures fs n).2 = s.cache.stored? fs ∨
      s.cache.stored? (s.after failures fs n).2 = some (s.intended none fs).encode := by
  rcases (secure_after hkept failures n).kept_or_done hkept with
    ⟨-, -, hstored⟩ | ⟨hresult, -, hstored⟩
  · exact .inl hstored
  · rw [hreads.of_done hresult] at hstored
    exact .inr hstored

/-- No entry changes but the one that is saved. -/
theorem held?_of_stored? (hnow : s.now < UInt64.size)
    (h : s.cache.stored? fs' = s.cache.stored? fs ∨
      s.cache.stored? fs' = some (s.intended none fs).encode) (key : String) :
    s.cache.held? fs' key = s.cache.held? fs key ∨
      s.key.text = key ∧ s.cache.held? fs' key = some ⟨s.version, s.now⟩ := by
  rcases h with hsame | hnew
  · left
    rw [held?, document?_content, hsame, held?, document?_content]
  · have hproper := s.isProper_intended hnow none fs
    rw [held?, document?_content, hnew, Option.bind_some, Document.decode?_encode hproper,
      Option.bind_some, intended, updated]
    by_cases hkey : s.key.text = key
    · right
      exact ⟨hkey, hkey ▸ Table.get?_insert_self _ _ _⟩
    · left
      rw [Table.get?_insert_of_ne _ _ (Ne.symm hkey), held?, loaded]
      cases (s.cache.content fs).document? <;> rfl

end Reading

section Records

/-- The cache is hosted, its temporary file is another one than its own unless nothing is made to
fail, and what is there can be read. -/
structure IsSafe (s : Saving) (failures : Nat → Option Failure) (fs : FileSystem) : Prop where
  hosted : s.cache.IsHosted fs
  apart : s.IsApart ∨ failures = fun _ => none
  reads : Reads failures

theorem IsSafe.stored?_after (h : s.IsSafe failures fs) (hdoc : s.cache.content fs = .entries doc) :
    s.cache.stored? (s.after failures fs 7).2 = s.cache.stored? fs ∨
      s.cache.stored? (s.after failures fs 7).2 = some (s.intended none fs).encode := by
  have hread : (s.cache.content fs).document? = some doc := by rw [hdoc]; rfl
  rw [document?_content, Option.bind_eq_some_iff] at hread
  obtain ⟨bs, hbs, -⟩ := hread
  rcases h.apart with hapart | rfl
  · have hkept := maintains_content h.hosted hapart hbs
    rw [← hbs] at hkept
    exact Saving.stored?_after hkept h.reads 7
  · rw [after_of_save]
    rcases ok_or_stored?_save h.hosted hbs s.now s.key s.version with hok | hsame
    · exact .inr (saved_intended h.hosted hok)
    · exact .inl (hsame.trans hbs.symm)

/-- What a save does to the entries of a file, whatever it meets. -/
structure Records (s : Saving) (failures : Nat → Option Failure) (fs : FileSystem) : Prop where
  /-- What it writes anywhere is what it has read, with the version under its key. -/
  written : ∀ n there data, (s.after failures fs n).1 = .write there data →
    data = Document.encode (Table.insert s.key.text ⟨s.version, s.now⟩
      ((s.loaded (failures 0) fs).document?.getD []))
  done : s.cache.IsHosted fs → (s.after failures fs 7).1 = .finished (.ok ()) →
    s.cache.held? (s.after failures fs 7).2 s.key.text = some ⟨s.version, s.now⟩
  own : ∀ doc, s.IsSafe failures fs → s.cache.content fs = .entries doc →
    s.cache.held? (s.after failures fs 7).2 s.key.text = Table.get? s.key.text doc ∨
      s.cache.held? (s.after failures fs 7).2 s.key.text = some ⟨s.version, s.now⟩
  others : ∀ doc, s.IsSafe failures fs → s.cache.content fs = .entries doc →
    ∀ key, key ≠ s.key.text →
      s.cache.held? (s.after failures fs 7).2 key = Table.get? key doc

theorem held?_of_content {c : Cache} (h : c.content fs = .entries doc) (key : String) :
    c.held? fs key = Table.get? key doc := by
  rw [held?, h]
  rfl

theorem records (hnow : s.now < UInt64.size) (failures : Nat → Option Failure)
    (fs : FileSystem) : s.Records failures fs where
  written n there data h := by
    have hcarries := s.carries_after failures fs n
    rw [h] at hcarries
    exact hcarries
  done hhosted h := by
    have hmaintains := maintains_isHosted hhosted
    rcases (secure_after hmaintains failures 7).kept_or_done hmaintains with
      ⟨hresult, -⟩ | ⟨-, -, hstored⟩
    · rw [h] at hresult
      exact absurd rfl hresult
    · have hproper := s.isProper_intended hnow (failures 0) fs
      rw [held?, document?_content, hstored, Option.bind_some, Document.decode?_encode hproper,
        Option.bind_some]
      exact Table.get?_insert_self _ _ _
  own doc hsafe hdoc := by
    rcases held?_of_stored? hnow (hsafe.stored?_after hdoc) s.key.text with hsame | ⟨-, hnew⟩
    · exact .inl (hsame.trans (held?_of_content hdoc _))
    · exact .inr hnew
  others doc hsafe hdoc key hkey := by
    rcases held?_of_stored? hnow (hsafe.stored?_after hdoc) key with hsame | ⟨heq, -⟩
    · exact hsame.trans (held?_of_content hdoc _)
    · exact absurd heq.symm hkey

end Records

end Microversion.Cache.Saving
