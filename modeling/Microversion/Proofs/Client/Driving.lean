import Mathlib.Algebra.BigOperators.Group.Finset.Piecewise
import Mathlib.Algebra.Order.BigOperators.Group.Finset
import Microversion.Proofs.Client.Allowance

/-! # Calls that are given what they wait for

A session that answers every request brings a call to its end, whatever it answers:
each turn takes from the moves that the call has left. What a call sends is bounded,
and so is, by their number, what all calls send together.
-/

namespace Microversion.Client

open Http

/-- The token that a session has and what it answers, after the given requests. -/
abbrev Service := List Request → Option String × Except Error Response

/-- The request that is sent, be it one of a caller or one for the range. -/
def Effect.request? : Effect → Option Request
  | discover r => some r
  | send r => some r
  | _ => none

/-- What comes to a task that waits like this. -/
def Phase.due (answer : Except Error Response) : Phase → Signal
  | locking _ => .lock
  | pausing => .wake
  | _ => .answer answer

/-- The requests that a call may take. -/
def callBound (c : Client) : ℕ :=
  (Tally.attempt.sends + Tally.attempt.discoveries) * (c.budget.retries.toNat + 1)

/-- The moves that a task has left in all the attempts that its budget allows. -/
def Task.left (c : Client) (n : Negotiator) (t : Task) : ℕ :=
  (c.budget.total.toNat - t.attempt.toNat) * Tally.attempt.moves + (t.allowance n).moves

/-- What an exchange has come to. -/
def Task.answer? (t : Task) : Option (Except Error Response) :=
  match t.phase with
  | .finished (.ok (.response r)) => some (.ok r)
  | .finished (.error e) => some (.error e)
  | _ => none

theorem Task.awaits_due {t : Task} (h : t.result? = none) (answer : Except Error Response) :
    t.phase.awaits (t.phase.due answer) = true := by
  cases hp : t.phase with
  | finished result => simp [result?, hp] at h
  | _ => rfl

theorem Task.Turn.exists_response {c : Client} {token : Option String} {n : Negotiator} {t : Task}
    {signal : Signal} {p : Progress} {o : Order} {reply : Reply} (h : Turn c token n t signal p)
    (hj : t.job = .send o) (hp : p.task.phase = .finished (.ok reply)) :
    ∃ r, reply = .response r := by
  have hfail : ∀ (u : Task) (n' : Negotiator) (e : Error),
      (u.endAttempt c n' (.error e)).task.phase ≠ .finished (.ok reply) := by
    intro u n' e hu
    rcases phase_endAttempt c u n' (.error e) with he | ⟨-, he⟩ <;> rw [he] at hu <;> cases hu
  cases h with
  | fail e => exact absurd hp (hfail _ _ _)
  | agreeFail v e => exact absurd hp (hfail _ _ _)
  | @answer _ _ r =>
    rw [endAttempt_ok] at hp
    cases hp
    exact ⟨r, rfl⟩
  | tell hj' =>
    rw [hj] at hj'
    cases hj'
  | agreeTell v hj' =>
    rw [hj] at hj'
    cases hj'
  | _ => cases hp

theorem Progress.length_requests (p : Progress) :
    (p.effects.filterMap Effect.request?).length = p.sent.length + p.discoveries.length := by
  unfold sent discoveries
  induction p.effects with
  | nil => rfl
  | cons effect effects ih =>
    cases effect <;>
      simp [List.filterMap_cons, Effect.request?, Effect.sent?, Effect.discovery?, ih] <;> omega

namespace System

/-- The requests that were sent. -/
def requests (s : System) : List Request := s.log.filterMap fun e => e.2.request?

/-- The requests that the call with the given number sent. -/
def requestsOf (s : System) (k : ℕ) : List Request :=
  s.log.filterMap fun e => if e.1 = k then e.2.request? else none

/-- The client after an event, or as it was if the event cannot come. -/
def happen (c : Client) (s : System) (e : Event) : System := (s.step c e).getD s

/-- The client after the call with the given number got what it waits for. -/
def drive (c : Client) (service : Service) (k : ℕ) (s : System) : System :=
  match s.tasks[k]? with
  | none => s
  | some t =>
    s.happen c (.signal (service s.requests).1 k (t.phase.due (service s.requests).2))

section Moves

variable {c : Client} {ms : List Move} {s : System} {m : Move} {k : ℕ} {t : Task}

theorem happen_of_move {e : Event} (h : s.move? c e = some m) : s.happen c e = s.after m := by
  rw [happen, step_eq, h]
  rfl

theorem length_tasks_after (h : m.number ≤ s.tasks.length) :
    (s.after m).tasks.length = max s.tasks.length (m.number + 1) := by
  simp only [after, settle]
  split
  · rw [List.length_set]
    omega
  · rw [List.length_append, List.length_singleton]
    omega

/-- A call starts. -/
theorem exists_start (c : Client) (s : System) (token : Option String) (job : Job) :
    ∃ m, Makes c s m ∧ m.number = s.tasks.length ∧ m.before = .fresh job ∧
      s.happen c (.call token job) = s.after m := by
  have hmove : s.move? c (.call token job) = some _ := rfl
  exact ⟨_, makes_of_move? hmove, rfl, rfl, happen_of_move hmove⟩

/-- A call gets what it waits for if no other one holds the lock. -/
theorem exists_drive (hs : Sound c s) (ht : s.tasks[k]? = some t) (hr : t.result? = none)
    (hfree : ∀ j u, s.tasks[j]? = some u → j ≠ k → u.holdsLock = false) (service : Service) :
    ∃ m, Makes c s m ∧ m.number = k ∧ m.before = t ∧ s.drive c service k = s.after m := by
  let signal := t.phase.due (service s.requests).2
  have hadmits : s.admits signal = true := by
    cases hp : t.phase with
    | locking purpose =>
      have hlock : signal = .lock := by simp [signal, hp, Phase.due]
      rw [hlock]
      refine isFree_iff.mpr fun j u hu => ?_
      by_cases hj : j = k
      · rw [hj, ht] at hu
        cases hu
        simp [Task.holdsLock, hp]
      · exact hfree j u hu hj
    | _ => simp [signal, hp, Phase.due, admits]
  obtain ⟨p, hp⟩ := Option.isSome_iff_exists.mp
    (Task.isSome_step (hs.fits k t ht) (Task.awaits_due hr (service s.requests).2) c
      (service s.requests).1 s.negotiator)
  have hmove : s.move? c (.signal (service s.requests).1 k signal) =
      some ⟨k, (service s.requests).1, t, signal, s.negotiator, p⟩ := by
    simp [move?, hadmits, ht, signal, hp]
  refine ⟨_, makes_of_move? hmove, rfl, rfl, ?_⟩
  rw [drive, ht]
  exact happen_of_move hmove

/-- A turn takes from what the call has left. -/
theorem Reaches.left_lt (hr : Reaches c ms s) (hm : Makes c s m) :
    m.progress.task.left c (s.after m).negotiator < m.before.left c s.negotiator := by
  have hpays := (Tally.le_def.mp (Affords.pays hr.sound hm)).1
  simp only [Tally.add_def, Move.cost, Task.cost] at hpays
  unfold Task.left
  rw [negotiator_after, Tally.attempt]
  dsimp only
  rcases hr.affords.attempt_cases hr.sound hm with ⟨hw, -, he⟩ | ⟨hw, -, he, hle, -⟩
  · rw [Task.purse_of_ne hw] at hpays
    rw [Move.attempt] at he
    rw [he]
    omega
  · rw [hw, Task.purse, Tally.attempt] at hpays
    rw [Move.attempt] at he hle
    dsimp only at hpays
    omega

/-- An exchange that has ended well has a response. -/
theorem Reaches.answer?_eq_none (h : Reaches c ms s) (ht : s.tasks[k]? = some t) {o : Order}
    (hj : t.job = .send o) (ha : t.answer? = none) : t.result? = none := by
  have hreply : ∀ reply, t.phase = .finished (.ok reply) → ∃ r, reply = .response r := by
    induction h generalizing t with
    | idle => simp [System.idle] at ht
    | move hr hm ih =>
      rw [getElem?_tasks_after hm.number_le] at ht
      split at ht
      · cases ht
        have hturn := hr.sound.turn hm
        exact fun reply => hturn.exists_response (hturn.job_eq ▸ hj)
      · exact ih ht hj ha
  unfold Task.answer? at ha
  unfold Task.result?
  split at ha
  · cases ha
  · cases ha
  · next hother herror =>
    split
    · next result hp =>
      cases result with
      | error e => exact absurd hp (herror e)
      | ok reply =>
        obtain ⟨r, rfl⟩ := hreply reply hp
        exact absurd hp (hother r)
    · rfl

theorem length_requests_after (s : System) (m : Move) :
    (s.after m).requests.length = s.requests.length + (m.cost.sends + m.cost.discoveries) := by
  have heffects : (m.progress.effects.map (m.number, ·)).filterMap (fun e => e.2.request?) =
      m.progress.effects.filterMap Effect.request? := by
    rw [List.filterMap_map]
    rfl
  rw [requests, log_after, List.filterMap_append, List.length_append, heffects,
    Progress.length_requests]
  rfl

theorem length_requestsOf_after (s : System) (m : Move) (k : ℕ) :
    ((s.after m).requestsOf k).length =
      (s.requestsOf k).length + if m.number = k then m.cost.sends + m.cost.discoveries else 0 := by
  rw [requestsOf, log_after, List.filterMap_append, List.length_append, List.filterMap_map]
  congr 1
  split
  · next h =>
    simp only [Function.comp_def, if_pos h]
    exact m.progress.length_requests
  · next h => simp [h]

/-- The requests sent are those of the calls. -/
theorem Reaches.sum_requests (h : Reaches c ms s) {n : ℕ} (hn : s.tasks.length ≤ n) :
    ∑ k ∈ Finset.range n, (s.requestsOf k).length = s.requests.length := by
  induction h with
  | idle => simp [System.idle, requests, requestsOf]
  | @move ms s m hr hm ih =>
    rw [length_tasks_after hm.number_le] at hn
    have hmem : m.number ∈ Finset.range n := Finset.mem_range.mpr (by omega)
    rw [length_requests_after, ← ih (by omega),
      Finset.sum_congr rfl fun k _ => length_requestsOf_after s m k,
      Finset.sum_add_distrib, Finset.sum_ite_eq, if_pos hmem]

theorem Reaches.length_requestsOf (h : Reaches c ms s) (k : ℕ) : (s.requestsOf k).length =
    (tally (Move.isOf k) ms).sends + (tally (Move.isOf k) ms).discoveries := by
  induction h with
  | idle => rfl
  | @move ms s m hr hm ih =>
    rw [length_requestsOf_after, tally_concat, ih]
    by_cases hk : m.number = k
    · simp only [Move.isOf, hk, beq_self_eq_true, if_true, Tally.add_def]
      omega
    · simp [Move.isOf, hk]

/-- A call sends no more requests than its attempts allow. -/
theorem Reaches.length_requestsOf_le (h : Reaches c ms s) (k : ℕ) :
    (s.requestsOf k).length ≤ c.callBound := by
  rw [h.length_requestsOf]
  cases ht : s.tasks[k]? with
  | none =>
    have hnone : ∀ m ∈ ms, Move.isOf k m = false := by
      intro m hm
      obtain ⟨t, hmt, -⟩ := h.affords.known m hm
      refine beq_eq_false_iff_ne.mpr fun hk => ?_
      rw [hk, ht] at hmt
      cases hmt
    rw [tally_eq_zero hnone]
    exact Nat.zero_le _
  | some t =>
    have hattempts : t.attempt.toNat ≤ c.budget.retries.toNat + 1 :=
      Nat.le_trans (h.affords.numbered k t ht).2.1 c.budget.total_le
    have hwhole := Tally.le_def.mp (Tally.le_of_add_le (h.affords.whole k t ht))
    simp only [Tally.times, Tally.attempt] at hwhole
    simp only [callBound, Tally.attempt]
    omega

/-- The calls together send no more than each of them may. -/
theorem Reaches.length_requests_le (h : Reaches c ms s) :
    s.requests.length ≤ s.tasks.length * c.callBound := by
  rw [← h.sum_requests (Nat.le_refl _)]
  simpa using Finset.sum_le_card_nsmul (Finset.range s.tasks.length) _ _
    fun k _ => h.length_requestsOf_le k

end Moves

end System

end Microversion.Client
