import Microversion.Proofs.Cache.Saving
import Microversion.Proofs.Client.Building
import Microversion.Proofs.Client.History

/-! # A client among files

While a client works its files may be changed by others, and a save may meet
failures. What it does follows from the events alone: clients that differ in their
caches only do the same.
-/

namespace Microversion.Client

open Storage

/-- What a save meets: the time, and what fails in which of its stages. -/
structure Weather where
  now : UInt64
  failures : Nat → Option Cache.Saving.Failure

/-- The files after a version has been agreed on, in any weather. -/
def rememberIn (c : Client) (w : Weather) (v : Version) (fs : FileSystem) : FileSystem :=
  match c.cache, c.server with
  | some cache, some server =>
    ((Cache.Saving.mk cache server v.text w.now.toNat).after w.failures fs 7).2
  | _, _ => fs

theorem rememberIn_eq_remember (c : Client) (now : UInt64) (v : Version) (fs : FileSystem) :
    c.rememberIn ⟨now, fun _ => none⟩ v fs = c.remember now.toNat v fs := by
  unfold rememberIn remember
  cases c.cache with
  | none => rfl
  | some cache =>
    cases c.server with
    | none => rfl
    | some server =>
      exact congrArg Prod.snd (Cache.Saving.after_of_save ⟨cache, server, v.text, now.toNat⟩ fs)

/-- The files after something that a call does. -/
def perform (c : Client) (w : Weather) (fs : FileSystem) : Effect → FileSystem
  | .remember v => c.rememberIn w v fs
  | _ => fs

/-- A client at work, and the files. -/
structure World where
  system : System
  files : FileSystem

/-- What happens next. -/
inductive Happening where
  | event (w : Weather) (e : Event)
  /-- Others change the files. -/
  | files (fs : FileSystem)

/-- The event of the client, if it is one. -/
def Happening.event? : Happening → Option Event
  | event _ e => some e
  | files _ => none

namespace World

/-- No call is in progress. -/
def idle (c : Client) (fs : FileSystem) : World := ⟨.idle c.start, fs⟩

def step (c : Client) (world : World) : Happening → Option World
  | .event w e => (world.system.move? c e).map fun m =>
    ⟨world.system.after m, m.progress.effects.foldl (c.perform w) world.files⟩
  | .files fs => some { world with files := fs }

/-- The world after some happenings, `none` if one of them cannot come. -/
def run (c : Client) (world : World) : List Happening → Option World
  | [] => some world
  | h :: hs => (world.step c h).bind fun world => run c world hs

variable {c : Client} {world : World}

theorem system_step (c : Client) (world : World) (w : Weather) (e : Event) :
    (world.step c (.event w e)).map World.system = world.system.step c e := by
  rw [System.step_eq, step, Option.map_map]
  rfl

/-- The events alone lead the client to where it is. -/
theorem system_run (c : Client) (world : World) (hs : List Happening) :
    (run c world hs).map World.system = System.run c world.system (hs.filterMap (·.event?)) := by
  induction hs generalizing world with
  | nil => rfl
  | cons h hs ih =>
    cases h with
    | files fs => exact ih { world with files := fs }
    | event w e =>
      rw [List.filterMap_cons_some (by rfl), System.run, ← system_step c world w e, run]
      cases world.step c (.event w e) with
      | none => rfl
      | some next => exact ih next

theorem sound_of_run {fs : FileSystem} {hs : List Happening}
    (h : run c (idle c fs) hs = some world) : System.Sound c world.system := by
  have hsystem := system_run c (idle c fs) hs
  rw [h, Option.map_some] at hsystem
  exact (System.reaches_of_run hsystem.symm).sound

/-- Of all that a call does only what it agrees on reaches the files. -/
theorem foldl_perform (c : Client) (w : Weather) (fs : FileSystem) (effects : List Effect) :
    effects.foldl (c.perform w) fs =
      (effects.filterMap Effect.agreed?).foldl (fun fs v => c.rememberIn w v fs) fs := by
  induction effects generalizing fs with
  | nil => rfl
  | cons effect effects ih =>
    rw [List.foldl_cons, ih]
    cases effect <;> rfl

/-- An event leaves the files alone, or it brings the only agreement, which is remembered. -/
theorem files_of_step {w : Weather} {e : Event} {world' : World}
    (hs : System.Sound c world.system) (h : world.step c (.event w e) = some world') :
    world'.files = world.files ∨
      ∃ v, world.system.agreements = [] ∧ world'.system.agreements = [v] ∧
        world'.system.negotiator = .agreed v ∧ world'.files = c.rememberIn w v world.files := by
  rw [step, Option.map_eq_some_iff] at h
  obtain ⟨m, hm, rfl⟩ := h
  have hmakes := System.makes_of_move? hm
  dsimp only
  rw [foldl_perform, ← Progress.agreed]
  rcases hs.writes hmakes with ⟨-, hnone⟩ | ⟨v, hfirst, -, hnegotiator, hagreed⟩
  · left
    rw [hnone]
    rfl
  · refine .inr ⟨v, hfirst, ?_, hnegotiator, ?_⟩
    · rw [System.agreements_after, hfirst, hagreed]
      rfl
    · rw [hagreed]
      rfl

end World

section Alike

/-- Two clients differ in nothing that a call sees: only their caches and what they speak at the
beginning may be others. -/
structure ActsAlike (c c' : Client) : Prop where
  endpoint : c.endpoint = c'.endpoint
  filter : c.filter = c'.filter
  budget : c.budget = c'.budget
  additional : c.additional = c'.additional
  requestId : c.requestId = c'.requestId

variable {c c' : Client} {s : Settings} {found : Except Error (Option String)}
  {shared shared' : Option Cache} {now now' : Nat} {fs fs' : FileSystem}

theorem ActsAlike.taskStep_eq (h : ActsAlike c c') : Task.step c = Task.step c' := by
  obtain ⟨endpoint, filter, budget, additional, requestId, cache, server, start⟩ := c
  obtain ⟨endpoint', filter', budget', additional', requestId', cache', server', start'⟩ := c'
  obtain ⟨rfl, rfl, rfl, rfl, rfl⟩ := h
  rfl

theorem ActsAlike.taskStart_eq (h : ActsAlike c c') : Task.start c = Task.start c' := by
  obtain ⟨endpoint, filter, budget, additional, requestId, cache, server, start⟩ := c
  obtain ⟨endpoint', filter', budget', additional', requestId', cache', server', start'⟩ := c'
  obtain ⟨rfl, rfl, rfl, rfl, rfl⟩ := h
  rfl

theorem ActsAlike.step_eq (h : ActsAlike c c') (system : System) (e : Event) :
    system.step c e = system.step c' e := by
  cases e with
  | call token job => simp only [System.step, h.taskStart_eq]
  | signal token number signal => simp only [System.step, h.taskStep_eq]

/-- The same events take such clients the same way. -/
theorem ActsAlike.run_eq (h : ActsAlike c c') (system : System) (es : List Event) :
    System.run c system es = System.run c' system es := by
  induction es generalizing system with
  | nil => rfl
  | cons e es ih =>
    simp only [System.run, h.step_eq]
    congr 1
    funext next
    exact ih next

/-- What the settings say of a client apart from its cache. -/
structure Equipped (s : Settings) (c : Client) : Prop where
  budget : c.budget = s.budget.resolved
  additional : Settings.headerFields s.headers = .ok c.additional
  requestId :
    (match s.requestId with
      | some id => (headerValue id).map some
      | none => .ok none) = .ok c.requestId

theorem equipped_of_build (h : build s found shared now fs = .ok c) : Equipped s c := by
  unfold build at h
  obtain ⟨endpoint, -, h⟩ := exists_of_bind h
  obtain ⟨server, -, h⟩ := exists_of_bind h
  obtain ⟨additional, hadditional, h⟩ := exists_of_bind h
  cases hid : s.requestId with
  | none =>
    rw [hid] at h
    cases h
    exact ⟨rfl, hadditional, by rw [hid]⟩
  | some id =>
    rw [hid] at h
    obtain ⟨requestId, hrequestId, h⟩ := exists_of_bind h
    cases h
    exact ⟨rfl, hadditional, by rw [hid]; exact hrequestId⟩

/-- Settings that differ in the cache make such clients. -/
theorem actsAlike_of_build {choice choice' : CacheChoice}
    (h : build { s with cache := choice } found shared now fs = .ok c)
    (h' : build { s with cache := choice' } found shared' now' fs' = .ok c') : ActsAlike c c' := by
  have hbuilt := built_of_build h
  have hbuilt' := built_of_build h'
  have hequipped := equipped_of_build h
  have hequipped' := equipped_of_build h'
  constructor
  · exact Except.ok.inj (hbuilt.endpoint.symm.trans hbuilt'.endpoint)
  · exact hbuilt.filter.trans hbuilt'.filter.symm
  · exact hequipped.budget.trans hequipped'.budget.symm
  · exact Except.ok.inj (hequipped.additional.symm.trans hequipped'.additional)
  · exact Except.ok.inj (hequipped.requestId.symm.trans hequipped'.requestId)

end Alike

end Microversion.Client
