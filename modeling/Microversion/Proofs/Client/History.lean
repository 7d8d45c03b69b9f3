import Microversion.Client.Schedule
import Microversion.Proofs.Client.Turn

/-! # The history of a client

The events of a schedule make moves, each of which is a turn of one call. A
history lists the moves of a run in their order. In every state that a run can
reach at most one call holds the lock, whoever asks the server negotiates from
what the client speaks now, and at most one version has been agreed on.
-/

namespace Microversion.Client

open Http

/-- A client that was set up with nothing but what it speaks. -/
def plain (n : Negotiator) : Client :=
  ⟨"http://ironic", .default, .unset, .empty, none, none, none, n⟩

/-- A turn that a call takes in a run; a call that starts wakes up before its first attempt. -/
structure Move where
  number : Nat
  token : Option String
  before : Task
  signal : Signal
  /-- What the client speaks before the turn. -/
  seen : Negotiator
  progress : Progress

namespace Move

/-- The attempt of the call in which the turn is taken. -/
def attempt (m : Move) : UInt32 := m.progress.task.attempt

/-- Why a request is sent, if the call sends one. -/
def occasion (m : Move) : Occasion := m.before.phase.occasion

end Move

namespace System

/-- The move that an event makes, `none` for an event that cannot come. -/
def move? (c : Client) (s : System) : Event → Option Move
  | .call token job =>
    some ⟨s.tasks.length, token, .fresh job, .wake, s.negotiator,
      Task.start c token job s.negotiator⟩
  | .signal token number signal =>
    if s.admits signal then
      (s.tasks[number]?).bind fun t => (t.step c token s.negotiator signal).map fun p =>
        ⟨number, token, t, signal, s.negotiator, p⟩
    else none

/-- The client after a move. -/
def after (s : System) (m : Move) : System :=
  s.settle m.number
    (if m.number < s.tasks.length then s.tasks.set m.number m.progress.task
      else s.tasks ++ [m.progress.task])
    m.progress

/-- The moves of a schedule up to the first event that cannot come. -/
def history (c : Client) (s : System) : List Event → List Move
  | [] => []
  | e :: es =>
    match s.move? c e with
    | some m => m :: history c (s.after m) es
    | none => []

/-- The versions that have been agreed on. -/
def agreements (s : System) : List Version := s.log.filterMap fun e => e.2.agreed?

theorem step_eq (c : Client) (s : System) (e : Event) :
    s.step c e = (s.move? c e).map s.after := by
  cases e with
  | call token job => simp [step, move?, after]
  | signal token number signal =>
    simp only [step, move?]
    split
    · cases ht : s.tasks[number]? with
      | none => rfl
      | some t =>
        obtain ⟨hn, -⟩ := List.getElem?_eq_some_iff.mp ht
        simp only [Option.bind_some, Option.map_map]
        congr 1
        funext p
        simp [after, hn]
    · rfl

section After

variable {c : Client} {s : System} {m : Move}

@[simp] theorem negotiator_after (s : System) (m : Move) :
    (s.after m).negotiator = m.progress.negotiator := rfl

theorem log_after (s : System) (m : Move) :
    (s.after m).log = s.log ++ m.progress.effects.map (m.number, ·) := rfl

@[simp] theorem agreements_after (s : System) (m : Move) :
    (s.after m).agreements = s.agreements ++ m.progress.agreed := by
  simp only [agreements, log_after, List.filterMap_append, List.filterMap_map, Progress.agreed]
  rfl

theorem getElem?_tasks_after (h : m.number ≤ s.tasks.length) (k : Nat) :
    (s.after m).tasks[k]? = if k = m.number then some m.progress.task else s.tasks[k]? := by
  simp only [after, settle]
  split
  · next hlt =>
    rw [List.getElem?_set]
    split
    · next hk => simp [hk]
    · next hk => rw [if_neg (Ne.symm hk)]
  · next hge =>
    have he : m.number = s.tasks.length := Nat.le_antisymm h (Nat.not_lt.mp hge)
    split
    · next hk => simp [hk, he]
    · next hk =>
      rcases Nat.lt_or_ge k s.tasks.length with hlt | hge
      · rw [List.getElem?_append_left hlt]
      · rw [List.getElem?_eq_none (by simp; omega), List.getElem?_eq_none hge]

end After

/-- A move of the client in some state: a call that starts, or one of the calls in progress. -/
structure Makes (c : Client) (s : System) (m : Move) : Prop where
  step : m.before.step c m.token m.seen m.signal = some m.progress
  seen : m.seen = s.negotiator
  origin : s.tasks[m.number]? = some m.before ∨
    m.number = s.tasks.length ∧ ∃ job, m.before = .fresh job
  free : m.signal = .lock → s.isFree = true

theorem makes_of_move? {c : Client} {s : System} {e : Event} {m : Move}
    (h : s.move? c e = some m) : Makes c s m := by
  cases e with
  | call token job =>
    cases h
    exact ⟨rfl, rfl, .inr ⟨rfl, job, rfl⟩, by rintro ⟨⟩⟩
  | signal token number signal =>
    simp only [move?] at h
    split at h
    · next ha =>
      simp only [Option.bind_eq_some_iff, Option.map_eq_some_iff] at h
      obtain ⟨t, ht, p, hp, rfl⟩ := h
      refine ⟨hp, rfl, .inl ht, ?_⟩
      rintro rfl
      exact ha
    · cases h

theorem Makes.number_le {c : Client} {s : System} {m : Move} (h : Makes c s m) :
    m.number ≤ s.tasks.length := by
  rcases h.origin with ho | ⟨ho, -⟩
  · exact Nat.le_of_lt (List.getElem?_eq_some_iff.mp ho).1
  · exact Nat.le_of_eq ho

/-- What holds of a client in every state that it can come to. -/
structure Sound (c : Client) (s : System) : Prop where
  fits : ∀ (k : Nat) (t : Task), s.tasks[k]? = some t → t.Fits
  snapshot : ∀ (k : Nat) (t : Task) (purpose : Purpose) (q : Inquiry), s.tasks[k]? = some t →
    t.phase = .asking purpose q → q.negotiator = s.negotiator
  exclusive : ∀ (j k : Nat) (t u : Task), s.tasks[j]? = some t → s.tasks[k]? = some u →
    t.holdsLock = true → u.holdsLock = true → j = k
  agreed : (s.agreements = [] ∧ s.negotiator = c.start) ∨
    ∃ v, s.agreements = [v] ∧ s.negotiator = .agreed v ∧ c.start.isSettled = false

section Sound

variable {c : Client} {s : System} {m : Move}

theorem isFree_iff :
    s.isFree = true ↔ ∀ (k : Nat) (t : Task), s.tasks[k]? = some t → t.holdsLock = false := by
  simp only [isFree, Bool.not_eq_true', List.any_eq_false, Bool.not_eq_true]
  constructor
  · intro h k t ht
    exact h t (List.mem_of_getElem? ht)
  · intro h t ht
    obtain ⟨k, hk⟩ := List.getElem?_of_mem ht
    exact h k t hk

theorem sound_idle (c : Client) : Sound c (.idle c.start) where
  fits k t h := by simp [idle] at h
  snapshot k t purpose q h := by simp [idle] at h
  exclusive j k t u h := by simp [idle] at h
  agreed := .inl ⟨rfl, rfl⟩

theorem Sound.fits_before (hs : Sound c s) (hm : Makes c s m) : m.before.Fits := by
  rcases hm.origin with h | ⟨-, job, h⟩
  · exact hs.fits _ _ h
  · rw [h]; trivial

theorem Sound.snapshot_before (hs : Sound c s) (hm : Makes c s m) {purpose : Purpose}
    {q : Inquiry} (hp : m.before.phase = .asking purpose q) : q.negotiator = s.negotiator := by
  rcases hm.origin with h | ⟨-, job, h⟩
  · exact hs.snapshot _ _ _ _ h hp
  · rw [h] at hp; cases hp

theorem Sound.turn (hs : Sound c s) (hm : Makes c s m) :
    Task.Turn c m.token s.negotiator m.before m.signal m.progress :=
  Task.turn_of_step (hs.fits_before hm) (hm.seen ▸ hm.step)

/-- While a call is given the lock or holds it, no other call holds it. -/
theorem Sound.others (hs : Sound c s) (hm : Makes c s m)
    (h : m.signal = .lock ∨ m.before.holdsLock = true) {k : Nat} {t : Task}
    (ht : s.tasks[k]? = some t) (hl : t.holdsLock = true) : k = m.number := by
  rcases h with h | h
  · have := isFree_iff.mp (hm.free h) k t ht
    simp [this] at hl
  · rcases hm.origin with ho | ⟨-, job, ho⟩
    · exact hs.exclusive _ _ _ _ ht ho hl h
    · rw [ho] at h; cases h

theorem Sound.negotiator_eq (hs : Sound c s) (hm : Makes c s m) {k : Nat} {t : Task}
    (ht : s.tasks[k]? = some t) (hl : t.holdsLock = true) (hk : k ≠ m.number) :
    m.progress.negotiator = s.negotiator := by
  rcases (hs.turn hm).negotiator_cases with ⟨hn, -⟩ | ⟨v, purpose, hc, -⟩
  · exact hn
  · exact absurd (hs.others hm hc.locks ht hl) hk

/-- A move leaves the negotiator alone, or makes the only agreement. -/
theorem Sound.writes (hs : Sound c s) (hm : Makes c s m) :
    (m.progress.negotiator = s.negotiator ∧ m.progress.agreed = []) ∨
      ∃ v, s.agreements = [] ∧ s.negotiator.isSettled = false ∧
        m.progress.negotiator = .agreed v ∧ m.progress.agreed = [v] := by
  rcases (hs.turn hm).negotiator_cases with hn | ⟨v, purpose, hc, hn, ha⟩
  · exact .inl hn
  · have hu := hc.not_isSettled fun q hp => hs.snapshot_before hm hp
    rcases hs.agreed with ⟨he, -⟩ | ⟨w, -, hw, -⟩
    · exact .inr ⟨v, he, hu, hn, ha⟩
    · simp [hw] at hu

theorem Sound.agreed_after (hs : Sound c s) (hm : Makes c s m) :
    ((s.after m).agreements = [] ∧ (s.after m).negotiator = c.start) ∨
      ∃ v, (s.after m).agreements = [v] ∧ (s.after m).negotiator = .agreed v ∧
        c.start.isSettled = false := by
  simp only [agreements_after, negotiator_after]
  rcases hs.writes hm with ⟨hn, ha⟩ | ⟨v, he, hu, hn, ha⟩
  · rw [hn, ha, List.append_nil]
    exact hs.agreed
  · rcases hs.agreed with ⟨-, hn'⟩ | ⟨w, hw, -⟩
    · exact .inr ⟨v, by rw [he, ha, List.nil_append], hn, hn' ▸ hu⟩
    · simp [he] at hw

theorem Sound.after (hs : Sound c s) (hm : Makes c s m) : Sound c (s.after m) where
  fits k t ht := by
    rw [getElem?_tasks_after hm.number_le] at ht
    split at ht
    · cases ht
      exact (hs.turn hm).fits (hs.fits_before hm)
    · exact hs.fits k t ht
  snapshot k t purpose q ht hp := by
    rw [getElem?_tasks_after hm.number_le] at ht
    rw [negotiator_after]
    split at ht
    · cases ht
      obtain ⟨hn, ⟨-, hq⟩ | ⟨q', hb, hq⟩⟩ := (hs.turn hm).asking_cases hp
      · rw [hn, hq]
      · rw [hn, hq, hs.snapshot_before hm hb]
    · next hk =>
      rw [hs.negotiator_eq hm ht (by simp [Task.holdsLock, hp]) hk]
      exact hs.snapshot k t purpose q ht hp
  exclusive j k t u ht hu hlt hlu := by
    rw [getElem?_tasks_after hm.number_le] at ht hu
    split at ht <;> split at hu
    · next hj hk => rw [hj, hk]
    · next hj hk =>
      cases ht
      exact absurd (hs.others hm ((hs.turn hm).locks hlt).2 hu hlu) hk
    · next hj hk =>
      cases hu
      exact absurd (hs.others hm ((hs.turn hm).locks hlu).2 ht hlt) hj
    · exact hs.exclusive j k t u ht hu hlt hlu
  agreed := hs.agreed_after hm

end Sound

/-- What a client has done since no call was in progress, and the state that it is in. -/
inductive Reaches (c : Client) : List Move → System → Prop where
  | idle : Reaches c [] (.idle c.start)
  | move {ms : List Move} {s : System} {m : Move} : Reaches c ms s → Makes c s m →
      Reaches c (ms ++ [m]) (s.after m)

theorem Reaches.sound {c : Client} {ms : List Move} {s : System} (h : Reaches c ms s) :
    Sound c s := by
  induction h with
  | idle => exact sound_idle c
  | move _ hm ih => exact ih.after hm

theorem Reaches.run {c : Client} {ms : List Move} {s s' : System} {es : List Event}
    (h : Reaches c ms s) (hr : run c s es = some s') :
    Reaches c (ms ++ history c s es) s' := by
  induction es generalizing ms s with
  | nil =>
    cases hr
    simpa [history] using h
  | cons e es ih =>
    rw [System.run, step_eq] at hr
    cases hm : s.move? c e with
    | none => simp [hm] at hr
    | some m =>
      simp only [hm, Option.map_some, Option.bind_some] at hr
      have hs := ih (h.move (makes_of_move? hm)) hr
      simpa [history, hm] using hs

theorem reaches_of_run {c : Client} {s : System} {es : List Event}
    (h : run c (.idle c.start) es = some s) : Reaches c (history c (.idle c.start) es) s := by
  simpa using Reaches.idle.run h

end System

end Microversion.Client
