import Microversion.Proofs.Client.History
import Microversion.Proofs.Client.Tally

/-! # Bounded exchanges

Whatever the server answers and whatever other calls do meanwhile, no attempt of
a call exceeds its allowance, a second refusal ends the attempt with an error,
and there are no more attempts than the budget of retries has. A call that is
not finished can always go on, or waits for one that can.
-/

namespace Microversion.Client

open Http

namespace Tally

/-- The allowance of several attempts. -/
def times (k : Nat) (a : Tally) : Tally :=
  ⟨k * a.moves, k * a.sends, k * a.discoveries, k * a.refusals, k * a.resends, k * a.redirects⟩

theorem times_succ (k : Nat) (a : Tally) : times (k + 1) a = times k a + a := by
  simp only [times, add_def, Nat.succ_mul]

theorem add_le_add_right {a b : Tally} (h : a ≤ b) (d : Tally) : a + d ≤ b + d := by
  simp only [le_def, add_def] at *; omega

@[simp] theorem zero_add (a : Tally) : 0 + a = a := by
  simp only [zero_def, add_def, Nat.zero_add]

end Tally

namespace Phase

/-- The attempt has failed, or can only fail. -/
def isEnding : Phase → Bool
  | locking purpose => !purpose.isAhead
  | asking purpose _ => !purpose.isAhead
  | exchanging _ => false
  | pausing => true
  | finished (.error _) => true
  | finished (.ok _) => false

end Phase

namespace Move

/-- What the move costs. -/
def cost (m : Move) : Tally := m.before.cost m.signal m.progress

/-- The move is one of the call with the given number. -/
def isOf (k : Nat) (m : Move) : Bool := m.number == k

/-- The move is one of an attempt of the call with the given number. -/
def isIn (k : Nat) (a : UInt32) (m : Move) : Bool := m.number == k && m.attempt == a

end Move

/-- What those of the moves cost that are counted. -/
def tally (counts : Move → Bool) : List Move → Tally
  | [] => 0
  | m :: ms => (if counts m then m.cost else 0) + tally counts ms

section Tally

variable {counts : Move → Bool} {ms : List Move} {m : Move}

theorem tally_concat (counts : Move → Bool) (ms : List Move) (m : Move) :
    tally counts (ms ++ [m]) = tally counts ms + if counts m then m.cost else 0 := by
  induction ms with
  | nil => simp [tally]
  | cons m' ms ih => rw [List.cons_append, tally, ih, tally, Tally.add_assoc]

theorem tally_eq_zero (h : ∀ m ∈ ms, counts m = false) : tally counts ms = 0 := by
  induction ms with
  | nil => rfl
  | cons m ms ih =>
    rw [tally, h m List.mem_cons_self, ih fun m' hm => h m' (List.mem_cons_of_mem _ hm)]
    rfl

end Tally

theorem Task.isEnding_of_allowance {t : Task} {n : Negotiator}
    (h : (t.allowance n).refusals = 0) : t.phase.isEnding = true := by
  unfold Phase.isEnding
  cases hp : t.phase with
  | locking purpose =>
    cases hpa : purpose.isAhead with
    | false => simp [hpa]
    | true => simp [Task.allowance_locking hp hpa] at h
  | asking purpose q =>
    cases hpa : purpose.isAhead with
    | false => simp [hpa]
    | true =>
      rw [Task.allowance_asking hp hpa] at h
      split at h <;> cases h
  | exchanging x =>
    simp only [Task.allowance, hp] at h
    split at h <;> cases h
  | pausing => rfl
  | finished result =>
    cases result with
    | error e => rfl
    | ok reply => simp [Task.allowance, hp] at h

theorem Task.exists_awaits {t : Task} (h : t.result? = none) :
    ∃ signal, t.phase.awaits signal = true := by
  cases hp : t.phase with
  | locking purpose => exact ⟨.lock, rfl⟩
  | asking purpose q => exact ⟨.answer (.error .json), rfl⟩
  | exchanging x => exact ⟨.answer (.error .json), rfl⟩
  | pausing => exact ⟨.wake, rfl⟩
  | finished result => simp [Task.result?, hp] at h

namespace System

/-- The calls of a client have kept to their allowances, and can pay for what is left. -/
structure Affords (c : Client) (ms : List Move) (s : System) : Prop where
  known : ∀ m ∈ ms, ∃ t, s.tasks[m.number]? = some t ∧ m.attempt.toNat ≤ t.attempt.toNat
  numbered : ∀ (k : Nat) (t : Task), s.tasks[k]? = some t → 0 < t.attempt.toNat ∧
    t.attempt.toNat ≤ c.budget.total.toNat ∧
    (t.phase = .pausing → t.attempt.toNat < c.budget.total.toNat)
  attempts : ∀ (k : Nat) (a : UInt32), tally (Move.isIn k a) ms ≤ .attempt
  current : ∀ (k : Nat) (t : Task), s.tasks[k]? = some t →
    tally (Move.isIn k t.attempt) ms + t.allowance s.negotiator ≤ .attempt
  whole : ∀ (k : Nat) (t : Task), s.tasks[k]? = some t →
    tally (Move.isOf k) ms + t.allowance s.negotiator ≤ .times t.attempt.toNat .attempt

section Affords

variable {c : Client} {ms : List Move} {s : System} {m : Move}

theorem affords_idle (c : Client) : Affords c [] (.idle c.start) where
  known m h := by cases h
  numbered k t h := by simp [idle] at h
  attempts k a := by simp [tally, Tally.zero_def, Tally.le_def]
  current k t h := by simp [idle] at h
  whole k t h := by simp [idle] at h

/-- A move goes on in the attempt of a call in progress, or begins the next attempt. -/
theorem Affords.attempt_cases (ha : Affords c ms s) (hs : Sound c s) (hm : Makes c s m) :
    (m.signal ≠ .wake ∧ s.tasks[m.number]? = some m.before ∧ m.attempt = m.before.attempt) ∨
      (m.signal = .wake ∧ m.before.phase = .pausing ∧
        m.attempt.toNat = m.before.attempt.toNat + 1 ∧ m.attempt.toNat ≤ c.budget.total.toNat ∧
        (s.tasks[m.number]? = some m.before ∨
          s.tasks[m.number]? = none ∧ m.before.attempt = 0)) := by
  have hw := Task.awaits_of_step hm.step
  have hu : m.attempt = (m.before.upon m.signal).attempt := (hs.turn hm).attempt_eq
  by_cases hsig : m.signal = .wake
  · right
    rw [hsig] at hw hu
    have hp : m.before.phase = .pausing := by
      cases hp : m.before.phase <;> simp [hp, Phase.awaits] at hw
      rfl
    have hlt : m.before.attempt.toNat < c.budget.total.toNat := by
      rcases hm.origin with ho | ⟨-, job, ho⟩
      · exact (ha.numbered _ _ ho).2.2 hp
      · rw [ho]; exact c.budget.total_pos
    have hn : m.attempt.toNat = m.before.attempt.toNat + 1 := by
      rw [hu]; exact RetryBudget.toNat_succ hlt
    refine ⟨hsig, hp, hn, by omega, ?_⟩
    rcases hm.origin with ho | ⟨hk, job, ho⟩
    · exact .inl ho
    · exact .inr ⟨by rw [hk]; exact List.getElem?_eq_none (Nat.le_refl _), by rw [ho]; rfl⟩
  · rw [Task.upon_of_ne hsig] at hu
    rcases hm.origin with ho | ⟨-, job, ho⟩
    · exact .inl ⟨hsig, ho, hu⟩
    · rw [ho] at hw
      cases hs : m.signal with
      | wake => exact absurd hs hsig
      | _ => rw [hs] at hw; cases hw

theorem Affords.attempt_le (ha : Affords c ms s) (hs : Sound c s) (hm : Makes c s m) {t : Task}
    (ht : s.tasks[m.number]? = some t) : t.attempt.toNat ≤ m.attempt.toNat := by
  rcases ha.attempt_cases hs hm with ⟨-, ho, he⟩ | ⟨-, -, he, -, ho | ⟨ho, -⟩⟩
  · rw [ho] at ht; cases ht
    exact Nat.le_of_eq (by rw [he])
  · rw [ho] at ht; cases ht
    omega
  · rw [ho] at ht; cases ht

/-- No move before was made in the attempt that begins. -/
theorem Affords.isIn_of_wake (ha : Affords c ms s) (hs : Sound c s) (hm : Makes c s m)
    (hw : m.signal = .wake) {m' : Move} (hm' : m' ∈ ms) : m'.isIn m.number m.attempt = false := by
  obtain ⟨t, ht, hle⟩ := ha.known m' hm'
  rcases ha.attempt_cases hs hm with ⟨hne, -⟩ | ⟨-, -, he, -, ho⟩
  · exact absurd hw hne
  · simp only [Move.isIn, Bool.and_eq_false_iff, beq_eq_false_iff_ne]
    by_cases hk : m'.number = m.number
    · right
      intro heq
      rw [hk] at ht
      rcases ho with ho | ⟨ho, -⟩ <;> rw [ho] at ht <;> cases ht
      rw [heq] at hle
      omega
    · exact .inl hk

/-- The attempt of a move can pay for it. -/
theorem Affords.purse_current (ha : Affords c ms s) (hs : Sound c s) (hm : Makes c s m) :
    tally (Move.isIn m.number m.attempt) ms + m.before.purse s.negotiator m.signal ≤ .attempt := by
  rcases ha.attempt_cases hs hm with ⟨hw, ho, he⟩ | ⟨hw, -⟩
  · have hc := ha.current _ _ ho
    rwa [← he, ← Task.purse_of_ne hw] at hc
  · rw [tally_eq_zero fun m' hm' => ha.isIn_of_wake hs hm hw hm', hw, Tally.zero_add]
    exact Tally.le_refl _

theorem Affords.purse_whole (ha : Affords c ms s) (hs : Sound c s) (hm : Makes c s m) :
    tally (Move.isOf m.number) ms + m.before.purse s.negotiator m.signal ≤
      .times m.attempt.toNat .attempt := by
  rcases ha.attempt_cases hs hm with ⟨hw, ho, he⟩ | ⟨hw, hp, he, -, ho⟩
  · have hc := ha.whole _ _ ho
    rwa [← he, ← Task.purse_of_ne hw] at hc
  · rw [he, Tally.times_succ, hw]
    refine Tally.add_le_add_right ?_ _
    rcases ho with ho | ⟨ho, -⟩
    · exact Tally.le_of_add_le (ha.whole _ _ ho)
    · have hz : tally (Move.isOf m.number) ms = 0 := by
        refine tally_eq_zero fun m' hm' => ?_
        obtain ⟨t, ht, -⟩ := ha.known m' hm'
        simp only [Move.isOf, beq_eq_false_iff_ne]
        intro hk
        rw [hk, ho] at ht; cases ht
      rw [hz]
      simp [Tally.le_def, Tally.zero_def]

theorem Affords.pays (hs : Sound c s) (hm : Makes c s m) :
    m.cost + m.progress.task.allowance m.progress.negotiator ≤
      m.before.purse s.negotiator m.signal :=
  (hs.turn hm).pays (Task.awaits_of_step hm.step) (hs.fits_before hm)
    fun _ _ hq => hs.snapshot_before hm hq

/-- What other calls have left is not made less by a move. -/
theorem Sound.allowance_le (hs : Sound c s) (hm : Makes c s m) (t : Task) :
    t.allowance (s.after m).negotiator ≤ t.allowance s.negotiator := by
  refine Task.allowance_le ?_ t
  rcases hs.writes hm with ⟨hn, -⟩ | ⟨v, -, hu, -⟩
  · exact .inl hn
  · exact .inr hu

/-- A tally in which a move counts grows by what the move costs, and other tallies stay. -/
theorem Affords.tally_after {bound : Tally} {counts : Move → Bool} (hs : Sound c s)
    (hm : Makes c s m) (hc : counts m = true)
    (hb : tally counts ms + m.before.purse s.negotiator m.signal ≤ bound) :
    tally counts (ms ++ [m]) + m.progress.task.allowance (s.after m).negotiator ≤ bound := by
  rw [tally_concat, hc, if_pos rfl, Tally.add_assoc]
  exact Tally.le_trans (Tally.add_le_add_left (Affords.pays hs hm) _) hb

theorem tally_concat_of_not {counts : Move → Bool} (h : counts m = false) :
    tally counts (ms ++ [m]) = tally counts ms := by
  rw [tally_concat, h]
  rfl

theorem Affords.after (ha : Affords c ms s) (hs : Sound c s) (hm : Makes c s m) :
    Affords c (ms ++ [m]) (s.after m) where
  known m' hm' := by
    rw [getElem?_tasks_after hm.number_le]
    rcases List.mem_append.mp hm' with h | h
    · obtain ⟨t, ht, hle⟩ := ha.known m' h
      split
      · next hk =>
        rw [hk] at ht
        exact ⟨_, rfl, Nat.le_trans hle (ha.attempt_le hs hm ht)⟩
      · exact ⟨t, ht, hle⟩
    · obtain rfl := List.mem_singleton.mp h
      exact ⟨_, if_pos rfl, Nat.le_refl _⟩
  numbered k t ht := by
    rw [getElem?_tasks_after hm.number_le] at ht
    split at ht
    · cases ht
      have hn : 0 < m.attempt.toNat ∧ m.attempt.toNat ≤ c.budget.total.toNat := by
        rcases ha.attempt_cases hs hm with ⟨-, ho, he⟩ | ⟨-, -, he, hle, -⟩
        · have hb := ha.numbered _ _ ho
          rw [he]
          exact ⟨hb.1, hb.2.1⟩
        · exact ⟨by omega, hle⟩
      exact ⟨hn.1, hn.2, (hs.turn hm).attempt_lt_of_pausing⟩
    · exact ha.numbered k t ht
  attempts k a := by
    cases hc : m.isIn k a with
    | false => rw [tally_concat_of_not hc]; exact ha.attempts k a
    | true =>
      obtain ⟨rfl, rfl⟩ : m.number = k ∧ m.attempt = a := by simpa [Move.isIn] using hc
      exact Tally.le_of_add_le (Affords.tally_after hs hm hc (ha.purse_current hs hm))
  current k t ht := by
    rw [getElem?_tasks_after hm.number_le] at ht
    split at ht
    · next hk =>
      cases ht
      have hc : m.isIn k m.progress.task.attempt = true := by
        simp [Move.isIn, hk, Move.attempt]
      subst hk
      exact Affords.tally_after hs hm hc (ha.purse_current hs hm)
    · next hk =>
      rw [tally_concat_of_not (by simp [Move.isIn, Ne.symm hk])]
      exact Tally.le_trans (Tally.add_le_add_left (hs.allowance_le hm t) _) (ha.current k t ht)
  whole k t ht := by
    rw [getElem?_tasks_after hm.number_le] at ht
    split at ht
    · next hk =>
      cases ht
      subst hk
      exact Affords.tally_after hs hm (by simp [Move.isOf]) (ha.purse_whole hs hm)
    · next hk =>
      rw [tally_concat_of_not (by simp [Move.isOf, Ne.symm hk])]
      exact Tally.le_trans (Tally.add_le_add_left (hs.allowance_le hm t) _) (ha.whole k t ht)

theorem Reaches.affords (h : Reaches c ms s) : Affords c ms s := by
  induction h with
  | idle => exact affords_idle c
  | move hr hm ih => exact ih.after hr.sound hm

theorem Sound.isSome_step (hs : Sound c s) {k : Nat} {t : Task} (ht : s.tasks[k]? = some t)
    (hl : ∀ purpose, t.phase = .locking purpose → s.isFree = true) (token : Option String)
    {signal : Signal} (hw : t.phase.awaits signal = true) :
    (s.step c (.signal token k signal)).isSome = true := by
  have hp := Task.isSome_step (hs.fits k t ht) hw c token s.negotiator
  have ha : s.admits signal = true := by
    cases signal with
    | lock =>
      cases hph : t.phase with
      | locking purpose => exact hl purpose hph
      | _ => simp [hph, Phase.awaits] at hw
    | _ => rfl
  simpa [step, ha, ht] using hp

/-- A call that is not finished can go on with whatever it waits for, unless it waits for the
lock and another call holds it, which can go on. -/
theorem Sound.goesOn (hs : Sound c s) {k : Nat} {t : Task} (ht : s.tasks[k]? = some t)
    (hr : t.result? = none) : ∃ j u, s.tasks[j]? = some u ∧ (j = k ∨ u.holdsLock = true) ∧
      u.result? = none ∧ ∀ (token : Option String) (signal : Signal),
        u.phase.awaits signal = true → (s.step c (.signal token j signal)).isSome = true := by
  by_cases hl : ∀ purpose, t.phase = .locking purpose → s.isFree = true
  · exact ⟨k, t, ht, .inl rfl, hr, fun token _ => hs.isSome_step ht hl token⟩
  · obtain ⟨u, hu, hh⟩ : ∃ u ∈ s.tasks, u.holdsLock = true := by
      rw [Classical.not_forall] at hl
      obtain ⟨purpose, hl⟩ := hl
      rw [Classical.not_imp] at hl
      simpa [isFree] using hl.2
    obtain ⟨j, hj⟩ := List.getElem?_of_mem hu
    cases hp : u.phase with
    | asking purpose q =>
      refine ⟨j, u, hj, .inr hh, by simp [Task.result?, hp], fun token _ => ?_⟩
      exact hs.isSome_step hj (fun _ h => by rw [hp] at h; cases h) token
    | _ => simp [Task.holdsLock, hp] at hh

end Affords

/-- The calls of a client stay within their bounds. -/
structure StaysWithin (c : Client) (ms : List Move) (s : System) : Prop where
  attempts : ∀ (k : Nat) (a : UInt32), tally (Move.isIn k a) ms ≤ .attempt
  /-- A call that was refused twice in its attempt is not answered any more in it. -/
  refused : ∀ (k : Nat) (t : Task), s.tasks[k]? = some t →
    2 ≤ (tally (Move.isIn k t.attempt) ms).refusals → t.phase.isEnding = true
  /-- Only the end of a pause begins a new attempt. -/
  numbers : ∀ m ∈ ms, m.signal ≠ .wake → m.attempt = m.before.attempt
  calls : ∀ (k : Nat) (t : Task), s.tasks[k]? = some t →
    t.attempt.toNat ≤ c.budget.retries.toNat + 1 ∧
      tally (Move.isOf k) ms ≤ .times t.attempt.toNat .attempt
  goesOn : ∀ (k : Nat) (t : Task), s.tasks[k]? = some t → t.result? = none →
    (∃ signal, t.phase.awaits signal = true) ∧
    ∃ j u, s.tasks[j]? = some u ∧ (j = k ∨ u.holdsLock = true) ∧ u.result? = none ∧
      ∀ (token : Option String) (signal : Signal),
        u.phase.awaits signal = true → (s.step c (.signal token j signal)).isSome = true

theorem Reaches.attempt_eq {c : Client} {ms : List Move} {s : System} (h : Reaches c ms s) :
    ∀ m ∈ ms, m.signal ≠ .wake → m.attempt = m.before.attempt := by
  induction h with
  | idle => exact fun m hm => by cases hm
  | @move ms s m' hr hm ih =>
    intro m hmem hw
    rcases List.mem_append.mp hmem with h | h
    · exact ih m h hw
    · obtain rfl := List.mem_singleton.mp h
      have hu : m.attempt = (m.before.upon m.signal).attempt := (hr.sound.turn hm).attempt_eq
      rw [hu, Task.upon_of_ne hw]

/-- Under every schedule every call stays within its bounds. -/
theorem staysWithin_of_run {c : Client} {es : List Event} {s : System}
    (h : run c (.idle c.start) es = some s) :
    StaysWithin c (history c (.idle c.start) es) s := by
  have hr := reaches_of_run h
  have ha := hr.affords
  exact {
    attempts := ha.attempts
    refused := by
      intro k t ht htwo
      have hc := Tally.le_def.mp (ha.current k t ht)
      simp only [Tally.add_def, Tally.attempt] at hc
      exact Task.isEnding_of_allowance (n := s.negotiator) (by omega)
    numbers := hr.attempt_eq
    calls := by
      intro k t ht
      exact ⟨Nat.le_trans (ha.numbered k t ht).2.1 c.budget.total_le,
        Tally.le_of_add_le (ha.whole k t ht)⟩
    goesOn := fun k t ht hn => ⟨Task.exists_awaits hn, hr.sound.goesOn ht hn⟩ }

/-- A request is refused, sent again under another version, and refused once more. -/
def refusedTwice : List Event :=
  [.call none (.send ⟨"GET", "/v1/nodes", .empty, none⟩),
    .signal none 0 (.answer (.ok (rangeResponse 406 ⟨1, 1⟩ ⟨1, 5⟩))), .signal none 0 .lock,
    .signal none 0 (.answer (.ok (rangeResponse 406 ⟨1, 1⟩ ⟨1, 4⟩))), .signal none 0 .lock]

theorem staysWithin_of_refusedTwice :
    ∃ s, run (plain ⟨.pinned .initial, .default⟩) (.idle ⟨.pinned .initial, .default⟩)
        refusedTwice = some s ∧
      tally (Move.isIn 0 1) (history (plain ⟨.pinned .initial, .default⟩)
        (.idle ⟨.pinned .initial, .default⟩) refusedTwice) = ⟨5, 2, 0, 2, 1, 0⟩ ∧
      StaysWithin (plain ⟨.pinned .initial, .default⟩)
        (history (plain ⟨.pinned .initial, .default⟩) (.idle ⟨.pinned .initial, .default⟩)
          refusedTwice) s := by
  obtain ⟨s, hs⟩ : ∃ s, run (plain ⟨.pinned .initial, .default⟩)
    (.idle ⟨.pinned .initial, .default⟩) refusedTwice = some s := ⟨_, rfl⟩
  exact ⟨s, hs, by decide +kernel, staysWithin_of_run hs⟩

end System

end Microversion.Client
