import Microversion.Cache.Basic
import Microversion.Error.Basic

/-! # Saving to the cache

A version is saved in stages, each of which is one operation on the file system:
the file is read, directories are made, the new content goes to a temporary
file, and that file is moved to the path of the cache. Any of them may fail, and
then the temporary file is removed.
-/

namespace Microversion.Cache

open Storage

/-- A version to be saved for a server at some time. -/
structure Saving where
  cache : Cache
  key : ServerKey
  version : String
  now : Nat
deriving DecidableEq, Repr

namespace Saving

/-- What is done next. -/
inductive Stage where
  | load
  | directories (doc : Document)
  | openTemporary (data : Bytes)
  | write (there : Location) (data : Bytes)
  | flush
  | move
  | cleanUp (reason : Errno)
  | finished (result : Except CacheError Unit)

/-- The number of stages that are still to come at most. -/
def Stage.rank : Stage → Nat
  | load => 7
  | directories _ => 6
  | openTemporary _ => 5
  | write _ _ => 4
  | flush => 3
  | move => 2
  | cleanUp _ => 1
  | finished _ => 0

/-- A failure that the file system reports; a write has then put down some bytes. -/
structure Failure where
  reason : Errno
  written : Nat
deriving DecidableEq, Repr

/-- The file next to the cache that receives the new content. -/
def temporary (s : Saving) : Path := s.cache.file.withExtension "tmp"

/-- The entries with the new one among them. -/
def updated (s : Saving) (doc : Document) : Document :=
  Table.insert s.key.text ⟨s.version, s.now⟩ doc

/-- What follows the reading of the file: content that does not decode is dropped. -/
def afterLoad (s : Saving) : Content → Stage
  | .absent => .directories (s.updated [])
  | .corrupt => .directories (s.updated [])
  | .entries doc => .directories (s.updated doc)
  | .unreadable reason => .finished (.error (.io reason))

/-- Make the directory of the file. -/
def makeParent (s : Saving) (fs : FileSystem) : FileSystem × Except Errno Unit :=
  match s.cache.file.parent? with
  | some parent => fs.ensureDirectory parent
  | none => (fs, .ok ())

/-- One stage, which may be made to fail. -/
def step (s : Saving) (failure : Option Failure) (stage : Stage) (fs : FileSystem) :
    Stage × FileSystem :=
  match stage, failure with
  | .load, none => (s.afterLoad (s.cache.content fs), fs)
  | .load, some f => (s.afterLoad (.ofRead (.error f.reason)), fs)
  | .directories doc, none =>
    match s.makeParent fs with
    | (fs, .ok ()) => (.openTemporary doc.encode, fs)
    | (fs, .error e) => (.finished (.error (.io e)), fs)
  | .directories _, some f => (.finished (.error (.io f.reason)), fs)
  | .openTemporary data, none =>
    match fs.openEmpty s.temporary with
    | .ok (fs, there) => (.write there data, fs)
    | .error e => (.cleanUp e, fs)
  | .openTemporary _, some f => (.cleanUp f.reason, fs)
  | .write there data, none =>
    match fs.write there data with
    | .ok fs => (.flush, fs)
    | .error e => (.cleanUp e, fs)
  | .write there data, some f =>
    (.cleanUp f.reason, (fs.write there (data.take f.written)).toOption.getD fs)
  | .flush, none => (.move, fs)
  | .flush, some f => (.cleanUp f.reason, fs)
  | .move, none =>
    match fs.rename s.temporary s.cache.file with
    | .ok fs => (.finished (.ok ()), fs)
    | .error e => (.cleanUp e, fs)
  | .move, some f => (.cleanUp f.reason, fs)
  | .cleanUp reason, none =>
    (.finished (.error (.io reason)), (fs.remove s.temporary).toOption.getD fs)
  | .cleanUp reason, some _ => (.finished (.error (.io reason)), fs)
  | .finished result, _ => (.finished result, fs)

/-- The outcome, once there is one. -/
def Stage.result? : Stage → Option (Except CacheError Unit)
  | finished result => some result
  | _ => none

theorem Stage.rank_pos {stage : Stage} (h : stage.result? = none) : 0 < stage.rank := by
  cases stage <;> simp_all [result?, rank]

theorem rank_afterLoad_lt (s : Saving) (content : Content) :
    (s.afterLoad content).rank < Stage.load.rank := by
  cases content <;> simp [afterLoad, Stage.rank]

/-- Every stage leads to a later one. -/
theorem rank_step_lt (s : Saving) (failure : Option Failure) {stage : Stage} (fs : FileSystem)
    (h : 0 < stage.rank) : (s.step failure stage fs).1.rank < stage.rank := by
  cases stage <;> cases failure <;> simp only [step]
  case load.none => exact s.rank_afterLoad_lt _
  case load.some => exact s.rank_afterLoad_lt _
  case directories.none => split <;> simp [Stage.rank]
  case openTemporary.none => split <;> simp [Stage.rank]
  case write.none => split <;> simp [Stage.rank]
  case move.none => split <;> simp [Stage.rank]
  case finished.none => simp [Stage.rank] at h
  case finished.some => simp [Stage.rank] at h
  all_goals simp [Stage.rank]

/-- The stage and the file system after some steps, of which those that `failures` names fail. -/
def after (s : Saving) (failures : Nat → Option Failure) (fs : FileSystem) :
    Nat → Stage × FileSystem
  | 0 => (.load, fs)
  | n + 1 =>
    let (stage, fs) := s.after failures fs n
    s.step (failures n) stage fs

/-- The stages that are left, none of which is made to fail. -/
def complete (s : Saving) (stage : Stage) (fs : FileSystem) :
    FileSystem × Except CacheError Unit :=
  match _h : stage.result? with
  | some result => (fs, result)
  | none =>
    let next := s.step none stage fs
    s.complete next.1 next.2
  termination_by stage.rank
  decreasing_by
    have hpos := Stage.rank_pos _h
    exact s.rank_step_lt none fs hpos

end Saving

/-- Remember a version for a server, in the place of an earlier one. -/
def save (c : Cache) (now : Nat) (key : ServerKey) (version : String) (fs : FileSystem) :
    FileSystem × Except CacheError Unit :=
  (Saving.mk c key version now).complete .load fs

end Microversion.Cache
