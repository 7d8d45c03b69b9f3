import Microversion.Proofs.Client.History
import Microversion.Proofs.Client.VersionHeader

/-! # Agreeing once

Whatever calls run side by side, a client agrees on one version at most. What it
has settled on it keeps, and from the agreement on every call without a version
of its own speaks the version agreed on.
-/

namespace Microversion.Client

open Http

namespace Task.Turn

variable {c : Client} {token : Option String} {t : Task} {n : Negotiator} {signal : Signal}
  {p : Progress} {v : Version}

/-- The first request of an attempt says what the client speaks then. -/
theorem values_of_attempt (h : Turn c token n t signal p) (hv : p.negotiator = .agreed v)
    {o : Order} (hj : t.job = .send o) (ho : o.hasOwnVersion = false)
    (hp : t.phase.occasion = .attempt) {r : Request} (hr : r ∈ p.sent) :
    r.headers.values versionHeader = [plainValue v.text] := by
  cases h with
  | first hj' _ _ hh =>
    simp only [negotiator_exchange] at hv
    simp only [sent_exchange, List.mem_singleton] at hr
    obtain rfl : _ = o := by simpa [hj] using hj'.symm
    rw [hr]
    exact values_requestHeaders_of_spoken hh ho (by simp [hv])
  | agreeFirst w hj' _ hh =>
    simp only [Progress.negotiator_after, negotiator_exchange] at hv
    simp only [Progress.sent_after, sent_exchange, List.mem_singleton] at hr
    obtain rfl : _ = o := by simpa [hj] using hj'.symm
    rw [hr]
    exact values_requestHeaders_of_spoken hh ho (by simp [hv])
  | redirect _ _ hx => rw [hx] at hp; cases hp
  | adopt _ hx => rw [hx] at hp; cases hp
  | agreeResend w _ hc => rw [hc.occasion_eq] at hp; cases hp
  | _ => simp at hr

/-- A refused request is sent again under what the client speaks then. -/
theorem values_of_refusal (h : Turn c token n t signal p) (hv : p.negotiator = .agreed v)
    (hp : t.phase.occasion = .refusal) {r : Request} (hr : r ∈ p.sent) :
    r.headers.values versionHeader = [plainValue v.text] := by
  cases h with
  | @adopt o x _ version hj _ hn =>
    simp only [resend_eq, negotiator_exchange] at hv
    have ht : version = v.text := by
      simp only [newerVersion?, hj, hv, Negotiator.headerText?_agreed] at hn
      split at hn
      · exact (Option.some.inj hn).symm
      · cases hn
    simp only [resend_eq, sent_exchange, List.mem_singleton] at hr
    simp [hr, ht, request]
  | agreeResend w hj hc =>
    simp only [resend_eq, Progress.negotiator_after, negotiator_exchange] at hv
    obtain rfl := Negotiator.agreed_injective hv
    simp only [resend_eq, Progress.sent_after, sent_exchange, List.mem_singleton] at hr
    simp [hr, request]
  | redirect _ _ hx => rw [hx] at hp; cases hp
  | first _ hx => rcases hx with hx | hx <;> rw [hx] at hp <;> cases hp
  | agreeFirst w _ hc => rw [hc.occasion_eq] at hp; cases hp
  | _ => simp at hr

/-- A version that is told is what the client speaks then. -/
theorem text_of_told (h : Turn c token n t signal p) (hv : p.negotiator = .agreed v)
    {text : String} (hp : p.task.phase = .finished (.ok (.version text))) : text = v.text := by
  cases h with
  | tell =>
    rw [endAttempt_ok] at hp hv
    cases hp
    simp only at hv
    rw [hv, Negotiator.currentText_agreed]
  | agreeTell w =>
    rw [endAttempt_ok] at hp hv
    cases hp
    rw [Negotiator.agreed_injective hv]
  | answer => rw [endAttempt_ok] at hp; cases hp
  | fail e =>
    rcases phase_endAttempt c (t.upon signal) n (.error e) with h | ⟨-, h⟩ <;> rw [h] at hp <;>
      cases hp
  | agreeFail w e =>
    simp only [Progress.task_after] at hp
    rcases phase_endAttempt c t (.agreed w) (.error e) with h | ⟨-, h⟩ <;> rw [h] at hp <;>
      cases hp
  | _ => cases hp

/-- The server is asked ahead of a request only while nothing is settled. -/
theorem not_isSettled_of_asks (h : Turn c token n t signal p) (hf : t.Fits)
    (hq : ∀ purpose q, t.phase = .asking purpose q → q.negotiator = n)
    (hp : t.phase.occasion = .attempt) (hd : p.discoveries ≠ []) :
    n.isSettled = false ∧ (signal = .lock ∨ t.holdsLock = true) := by
  cases h with
  | @ask purpose _ hx _ ha =>
    refine ⟨ha ?_, .inl rfl⟩
    rw [hx] at hp
    cases purpose with
    | afterRefusal x r => cases hp
    | _ => rfl
  | @askAgain purpose q _ a hx =>
    refine ⟨?_, .inr (by simp [holdsLock, hx])⟩
    rw [hx] at hp
    simp only [Fits, hx] at hf
    rw [← hq _ _ hx]
    cases purpose with
    | afterRefusal x r => cases hp
    | _ => exact hf.2
  | _ => simp at hd

end Task.Turn

/-- Whatever the call does in a move goes with the version agreed on. -/
structure Move.Speaks (m : Move) (v : Version) : Prop where
  attempt : ∀ (o : Order) (r : Request), m.before.job = .send o → o.hasOwnVersion = false →
    m.occasion = .attempt → r ∈ m.progress.sent →
    r.headers.values versionHeader = [plainValue v.text]
  refusal : ∀ r : Request, m.occasion = .refusal → r ∈ m.progress.sent →
    r.headers.values versionHeader = [plainValue v.text]
  told : ∀ text : String, m.progress.task.phase = .finished (.ok (.version text)) → text = v.text

namespace System

variable {c : Client} {s s' : System} {m : Move} {es : List Event}

/-- A state of a client in which it agrees on a version at most once. -/
structure AgreesOnce (c : Client) (s : System) : Prop where
  atMostOnce : s.agreements.length ≤ 1
  spoken : s.negotiator = (s.agreements.head?.map .agreed).getD c.start
  /-- What is settled is neither left nor altered. -/
  terminal : s.negotiator.isSettled = true → ∀ (es : List Event) (s' : System),
    run c s es = some s' → s'.negotiator = s.negotiator ∧ s'.agreements = s.agreements
  /-- The next move writes nothing, or the first agreement. -/
  writes : ∀ (e : Event) (m : Move), s.move? c e = some m →
    (m.progress.negotiator = s.negotiator ∧ m.progress.agreed = []) ∨
      ∃ v, s.agreements = [] ∧ s.negotiator.isSettled = false ∧
        m.progress.negotiator = .agreed v ∧ m.progress.agreed = [v]
  speaks : ∀ (e : Event) (m : Move) (v : Version), s.move? c e = some m →
    v ∈ (s.after m).agreements → m.Speaks v
  /-- Ahead of a request the server is asked only when every negotiation before has failed. -/
  asks : ∀ (e : Event) (m : Move), s.move? c e = some m → m.occasion = .attempt →
    m.progress.discoveries ≠ [] → s.agreements = [] ∧
      ∀ (k : Nat) (t : Task), s.tasks[k]? = some t → t.holdsLock = true → k = m.number

theorem Sound.terminal (hs : Sound c s) (hn : s.negotiator.isSettled = true)
    (h : run c s es = some s') :
    s'.negotiator = s.negotiator ∧ s'.agreements = s.agreements := by
  induction es generalizing s with
  | nil => cases h; exact ⟨rfl, rfl⟩
  | cons e es ih =>
    rw [run, step_eq] at h
    cases hm : s.move? c e with
    | none => simp [hm] at h
    | some m =>
      simp only [hm, Option.map_some, Option.bind_some] at h
      have hmk := makes_of_move? hm
      rcases hs.writes hmk with ⟨he, ha⟩ | ⟨v, -, hu, -⟩
      · obtain ⟨hn', ha'⟩ := ih (hs.after hmk) (by rw [negotiator_after, he, hn]) h
        exact ⟨by rw [hn', negotiator_after, he],
          by rw [ha', agreements_after, ha, List.append_nil]⟩
      · simp [hu] at hn

theorem Sound.speaks (hs : Sound c s) (hm : Makes c s m) {v : Version}
    (hv : v ∈ (s.after m).agreements) : m.Speaks v := by
  -- there is one agreement only, and the client has spoken its version ever since
  have hn : m.progress.negotiator = .agreed v := by
    rcases hs.agreed_after hm with ⟨he, -⟩ | ⟨w, he, hw, -⟩
    · simp [he] at hv
    · obtain rfl : v = w := by simpa [he] using hv
      exact hw
  have ht := hs.turn hm
  exact {
    attempt := fun o r hj ho hp hr => ht.values_of_attempt hn hj ho hp hr
    refusal := fun r hp hr => ht.values_of_refusal hn hp hr
    told := fun text hp => ht.text_of_told hn hp }

theorem Sound.asks (hs : Sound c s) (hm : Makes c s m) (hp : m.occasion = .attempt)
    (hd : m.progress.discoveries ≠ []) : s.agreements = [] ∧
      ∀ (k : Nat) (t : Task), s.tasks[k]? = some t → t.holdsLock = true → k = m.number := by
  obtain ⟨hn, hl⟩ := (hs.turn hm).not_isSettled_of_asks (hs.fits_before hm)
    (fun _ _ hq => hs.snapshot_before hm hq) hp hd
  refine ⟨?_, fun k t ht hh => hs.others hm hl ht hh⟩
  rcases hs.agreed with ⟨he, -⟩ | ⟨v, -, hv, -⟩
  · exact he
  · simp [hv] at hn

/-- Under every schedule a client agrees on a version at most once. -/
theorem agreesOnce_of_run (h : run c (.idle c.start) es = some s) : AgreesOnce c s := by
  have hs := (reaches_of_run h).sound
  exact {
    atMostOnce := by rcases hs.agreed with ⟨ha, -⟩ | ⟨v, ha, -, -⟩ <;> simp [ha]
    spoken := by rcases hs.agreed with ⟨ha, hn⟩ | ⟨v, ha, hn, -⟩ <;> simp [ha, hn]
    terminal := fun hn es s' hr => hs.terminal hn hr
    writes := fun e m hm => hs.writes (makes_of_move? hm)
    speaks := fun e m v hm hv => hs.speaks (makes_of_move? hm) hv
    asks := fun e m hm hp hd => hs.asks (makes_of_move? hm) hp hd }

/-- A call waits for the lock while another one negotiates. -/
def waitingRun : List Event :=
  [.call none (.send ⟨"GET", "/v1/nodes", .empty, none⟩), .call none .agree, .signal none 1 .lock,
    .signal none 1 (.answer (.ok (rangeResponse 200 ⟨1, 1⟩ ⟨1, 50⟩))), .signal none 0 .lock]

theorem agreesOnce_of_waitingRun :
    ∃ s, run (plain ⟨.latest, .user⟩) (.idle ⟨.latest, .user⟩) waitingRun = some s ∧
      s.agreements = [⟨1, 50⟩] ∧ AgreesOnce (plain ⟨.latest, .user⟩) s := by
  obtain ⟨s, hs, ha⟩ : ∃ s, run (plain ⟨.latest, .user⟩) (.idle ⟨.latest, .user⟩) waitingRun =
      some s ∧ s.agreements = [⟨1, 50⟩] := ⟨_, rfl, rfl⟩
  exact ⟨s, hs, ha, agreesOnce_of_run hs⟩

end System

end Microversion.Client
