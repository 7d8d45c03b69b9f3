import Microversion.Proofs.Client.Progress
import Microversion.Proofs.Negotiation.Settled

/-! # What a call in progress can do

Between two waits a task takes one turn. There are a dozen kinds of turns, and
each of them says what the task waited for, what it waits for next, and what
became of the negotiator; `Task.turn_of_step` is the only proof that looks into
the steps of a task.
-/

namespace Microversion.Client

open Http

namespace Purpose

/-- The negotiation is not caused by a refusal. -/
def isAhead : Purpose → Bool
  | afterRefusal _ _ => false
  | _ => true

/-- Exchanges are prepared and repaired, and a version is told to those who ask for it. -/
def fits : Purpose → Job → Bool
  | beforeRequest, .send _ => true
  | afterRefusal _ _, .send _ => true
  | onDemand, .agree => true
  | _, _ => false

/-- The response that the negotiation starts from. -/
def refusal? : Purpose → Option Response
  | afterRefusal _ r => some r
  | _ => none

/-- The version that the refused request carried. -/
def sent? : Purpose → Option String
  | afterRefusal x _ => Task.sentVersion x
  | _ => none

end Purpose

/-- Why a request of a caller is sent. -/
inductive Occasion where
  /-- It is the first one of an attempt. -/
  | attempt
  /-- The one before it was refused for its version. -/
  | refusal
  /-- The one before it was redirected. -/
  | redirect
deriving DecidableEq, Repr

/-- Why a task that waits like this sends its next request. -/
def Phase.occasion : Phase → Occasion
  | exchanging _ => .redirect
  | locking (.afterRefusal _ _) => .refusal
  | asking (.afterRefusal _ _) _ => .refusal
  | _ => .attempt

/-- A task that waits like this goes on with the signal. -/
def Phase.awaits : Phase → Signal → Bool
  | locking _, .lock => true
  | asking _ _, .answer _ => true
  | exchanging _, .answer _ => true
  | pausing, .wake => true
  | _, _ => false

/-- The signal refuses a request for its version. -/
def Phase.isRefused : Phase → Signal → Bool
  | exchanging _, .answer (.ok r) => r.status == 406
  | _, _ => false

namespace Task

/-- A task before its first attempt. -/
def fresh (job : Job) : Task := ⟨job, 0, .pausing⟩

/-- The task in the attempt to which a signal belongs. -/
def upon (t : Task) : Signal → Task
  | .wake => { t with attempt := t.attempt + 1 }
  | _ => t

/-- What the task waits for goes with its job. A range is asked for ahead of a request only while
nothing is settled, and after a refusal no more than once. -/
def Fits (t : Task) : Prop :=
  match t.phase with
  | .locking purpose => purpose.fits t.job = true
  | .asking purpose q =>
    purpose.fits t.job = true ∧
      if purpose.isAhead then q.negotiator.isSettled = false else q.isLast = true
  | .exchanging _ => ∃ o, t.job = .send o
  | _ => True

variable (c : Client) (token : Option String)

/-- A task that holds the lock, or has just been given it, can agree on a version. -/
inductive Concludes (n : Negotiator) (t : Task) (purpose : Purpose) : Signal → Prop where
  | refusal : t.phase = .locking purpose → n.isSettled = false → Concludes n t purpose .lock
  | answer {q : Inquiry} (a : Except Error Response) : t.phase = .asking purpose q →
      q.negotiator.isSettled = false → Concludes n t purpose (.answer a)

/-- The turns of a task by what they come to. -/
inductive Turn (n : Negotiator) (t : Task) : Signal → Progress → Prop where
  /-- The attempt fails. -/
  | fail {signal : Signal} (e : Error) : t.phase.isRefused signal = false →
      Turn n t signal ((t.upon signal).endAttempt c n (.error e))
  /-- The exchange ends with a response that is no failure. -/
  | answer {o : Order} {x : Exchange} {r : Response} : t.job = .send o → t.phase = .exchanging x →
      r.status ≠ 406 → isFailure r.status = false →
      Turn n t (.answer (.ok r)) (t.endAttempt c n (.ok (.response r)))
  /-- The settled version is told. -/
  | tell : t.job = .agree → t.phase = .locking .onDemand → n.isSettled = true →
      Turn n t .lock (t.endAttempt c n (.ok (.version n.currentText)))
  /-- An attempt begins with a negotiation, for which the task needs the lock. -/
  | queue {purpose : Purpose} : t.phase = .pausing → purpose.fits t.job = true →
      purpose.isAhead = true →
      Turn n t .wake ⟨{ t.upon .wake with phase := .locking purpose }, n, []⟩
  /-- The request is refused for its version. -/
  | refuse {o : Order} {x : Exchange} {r : Response} : t.job = .send o → t.phase = .exchanging x →
      r.status = 406 →
      Turn n t (.answer (.ok r)) ⟨{ t with phase := .locking (.afterRefusal x r) }, n, []⟩
  /-- A redirect is followed. -/
  | redirect {o : Order} {x : Exchange} {r : Response} (target : String) : t.job = .send o →
      t.phase = .exchanging x → isRedirect r.status = true → x.redirects < maxRedirects →
      Turn n t (.answer (.ok r))
        (t.exchange c n o { x with target, redirects := x.redirects + 1 })
  /-- The first request of an attempt is sent. -/
  | first {signal : Signal} {o : Order} {headers : Headers} : t.job = .send o →
      t.phase = .pausing ∨ t.phase = .locking .beforeRequest → n.mustNegotiate = false →
      c.requestHeaders token n o.headers = .ok headers →
      Turn n t signal ((t.upon signal).exchange c n o ⟨headers, o.target, 0⟩)
  /-- A refused request is sent again under the version that another task has agreed on. -/
  | adopt {o : Order} {x : Exchange} {r : Response} {version : String} : t.job = .send o →
      t.phase = .locking (.afterRefusal x r) → t.newerVersion? n x = some version →
      Turn n t .lock (t.resend c n o x version)
  /-- The server is asked for its range. -/
  | ask {purpose : Purpose} {r : Request} : t.phase = .locking purpose →
      purpose.fits t.job = true → (purpose.isAhead = true → n.isSettled = false) →
      Turn n t .lock
        ⟨{ t with phase := .asking purpose ⟨n, purpose.sent?, purpose.refusal?.isSome⟩ }, n,
          [.discover r]⟩
  /-- The server is asked once more. -/
  | askAgain {purpose : Purpose} {q : Inquiry} {r : Request} (a : Except Error Response) :
      t.phase = .asking purpose q → q.isLast = false →
      Turn n t (.answer a)
        ⟨{ t with phase := .asking purpose { q with isLast := true } }, n, [.discover r]⟩
  /-- A version is agreed on and told. -/
  | agreeTell {signal : Signal} (v : Version) : t.job = .agree →
      Concludes n t .onDemand signal →
      Turn n t signal ((t.endAttempt c (.agreed v) (.ok (.version v.text))).after (.remember v))
  /-- A version is agreed on, but there is no request to be sent under it. -/
  | agreeFail {signal : Signal} {o : Order} (v : Version) (e : Error) : t.job = .send o →
      Concludes n t .beforeRequest signal →
      Turn n t signal ((t.endAttempt c (.agreed v) (.error e)).after (.remember v))
  /-- A version is agreed on and a first request sent under it. -/
  | agreeFirst {signal : Signal} {o : Order} {headers : Headers} (v : Version) : t.job = .send o →
      Concludes n t .beforeRequest signal →
      c.requestHeaders token (.agreed v) o.headers = .ok headers →
      Turn n t signal
        ((t.exchange c (.agreed v) o ⟨headers, o.target, 0⟩).after (.remember v))
  /-- A version is agreed on and a refused request sent again under it. -/
  | agreeResend {signal : Signal} {o : Order} {x : Exchange} {r : Response} (v : Version) :
      t.job = .send o → Concludes n t (.afterRefusal x r) signal →
      Turn n t signal ((t.resend c (.agreed v) o x v.text).after (.remember v))

variable {c} {token} {t : Task} {n : Negotiator} {signal : Signal} {p : Progress}

theorem firstExchange_cases (c : Client) (token : Option String) (t : Task) (n : Negotiator)
    (o : Order) :
    (∃ e, t.firstExchange c token n o = t.endAttempt c n (.error e)) ∨
      ∃ headers, c.requestHeaders token n o.headers = .ok headers ∧
        t.firstExchange c token n o = t.exchange c n o ⟨headers, o.target, 0⟩ := by
  unfold firstExchange
  cases c.requestHeaders token n o.headers with
  | error e => exact .inl ⟨e, rfl⟩
  | ok headers => exact .inr ⟨headers, rfl, rfl⟩

theorem turn_of_firstExchange {o : Order} (hj : t.job = .send o)
    (hp : t.phase = .pausing ∨ t.phase = .locking .beforeRequest) (hn : n.mustNegotiate = false) :
    Turn c token n t signal ((t.upon signal).firstExchange c token n o) := by
  rcases firstExchange_cases c token (t.upon signal) n o with ⟨e, he⟩ | ⟨headers, hh, he⟩
  · rw [he]; exact .fail e (by rcases hp with hp | hp <;> rw [hp] <;> rfl)
  · rw [he]; exact .first hj hp hn hh

theorem turn_of_agreed {purpose : Purpose} (v : Version) (hf : purpose.fits t.job = true)
    (hc : Concludes n t purpose signal) :
    Turn c token n t signal
      ((t.withVersion c token (.agreed v) purpose v.text).after (.remember v)) := by
  cases hj : t.job with
  | agree =>
    cases purpose <;> simp only [Purpose.fits, hj, Bool.false_eq_true] at hf
    simp only [withVersion, hj]
    exact .agreeTell v hj hc
  | send o =>
    cases purpose with
    | onDemand => simp [Purpose.fits, hj] at hf
    | afterRefusal x r =>
      simp only [withVersion, hj]
      exact .agreeResend v hj hc
    | beforeRequest =>
      simp only [withVersion, hj]
      rcases firstExchange_cases c token t (.agreed v) o with ⟨e, he⟩ | ⟨headers, hh, he⟩
      · rw [he]; exact .agreeFail v e hj hc
      · rw [he]; exact .agreeFirst v hj hc hh

theorem turn_of_locked {purpose : Purpose} (hp : t.phase = .locking purpose)
    (hf : purpose.fits t.job = true) : Turn c token n t .lock (t.locked c token n purpose) := by
  have negotiated : (purpose.isAhead = true → n.isSettled = false) →
      Turn c token n t .lock (t.negotiate c token n purpose
        (Inquiry.start n purpose.sent? purpose.refusal?)) := by
    intro ha
    cases hq : Inquiry.start n purpose.sent? purpose.refusal? with
    | settled result =>
      cases result with
      | error e => exact .fail e (by rw [hp]; rfl)
      | ok v =>
        exact turn_of_agreed v hf (.refusal hp (Inquiry.not_isSettled_of_start hq))
    | asking q =>
      obtain rfl := Inquiry.eq_of_start_asking hq
      simp only [negotiate]
      split
      · exact .fail _ (by rw [hp]; rfl)
      · exact .ask hp hf ha
  cases purpose with
  | beforeRequest =>
    obtain ⟨o, hj⟩ : ∃ o, t.job = .send o := by
      cases hj : t.job <;> simp [Purpose.fits, hj] at hf ⊢
    simp only [locked]
    split
    · next hm => exact negotiated fun _ => Negotiator.not_isSettled_of_mustNegotiate hm
    · next hm =>
      simp only [withVersion, hj]
      exact turn_of_firstExchange hj (.inr hp) (by simpa using hm)
  | onDemand =>
    have hj : t.job = .agree := by
      cases hj : t.job <;> simp [Purpose.fits, hj] at hf ⊢
    simp only [locked]
    split
    · next hs =>
      simp only [withVersion, hj]
      exact .tell hj hp (by simpa [Negotiator.isSettled, or_comm] using hs)
    · next hs =>
      rw [not_or] at hs
      exact negotiated fun _ => by simp [Negotiator.isSettled, hs.1, hs.2]
  | afterRefusal x r =>
    obtain ⟨o, hj⟩ : ∃ o, t.job = .send o := by
      cases hj : t.job <;> simp [Purpose.fits, hj] at hf ⊢
    simp only [locked]
    split
    · next version hv =>
      simp only [withVersion, hj]
      exact .adopt hj hp hv
    · exact negotiated fun h => by cases h

theorem turn_of_asking {purpose : Purpose} {q : Inquiry} (hp : t.phase = .asking purpose q)
    (hf : purpose.fits t.job = true) (answer : Except Error Response) :
    Turn c token n t (.answer answer)
      (t.negotiate c token n purpose (q.resume (checkDiscovery q.major answer))) := by
  cases hq : q.resume (checkDiscovery q.major answer) with
  | settled result =>
    cases result with
    | error e => exact .fail e (by rw [hp]; rfl)
    | ok v => exact turn_of_agreed v hf (.answer answer hp (Inquiry.not_isSettled_of_resume hq))
  | asking q' =>
    obtain ⟨hl, rfl⟩ := Inquiry.eq_of_resume_asking hq
    simp only [negotiate]
    split
    · exact .fail _ (by rw [hp]; rfl)
    · exact .askAgain answer hp hl

theorem turn_of_received {o : Order} {x : Exchange} (r : Response) (hj : t.job = .send o)
    (hp : t.phase = .exchanging x) :
    Turn c token n t (.answer (.ok r)) (t.received c n o x r) := by
  unfold received
  split
  · next h => exact .refuse hj hp h
  · next h406 =>
    have hu : t.phase.isRefused (.answer (.ok r)) = false := by
      rw [hp]; simpa [Phase.isRefused] using h406
    split
    · next hr =>
      unfold redirect
      split
      · exact .fail _ hu
      · split
        · exact .fail _ hu
        · next target _ => exact .redirect target hj hp hr.1 hr.2
    · split
      · exact .fail _ hu
      · next hf => exact .answer hj hp h406 (by simpa using hf)

theorem turn_of_beginAttempt (hp : t.phase = .pausing) :
    Turn c token n t .wake ((t.upon .wake).beginAttempt c token n) := by
  cases hj : t.job with
  | agree =>
    simp only [beginAttempt, upon, hj]
    have hq := @Turn.queue c token n t .onDemand hp (by simp [Purpose.fits, hj]) rfl
    simpa only [upon, hj] using hq
  | send o =>
    simp only [beginAttempt, upon, hj]
    split
    · have hq := @Turn.queue c token n t .beforeRequest hp (by simp [Purpose.fits, hj]) rfl
      simpa only [upon, hj] using hq
    · next hn =>
      have ht := @turn_of_firstExchange c token t n .wake o hj (.inl hp) (by simpa using hn)
      simpa only [upon, hj] using ht

/-- Every step of a task is one of the turns. -/
theorem turn_of_step (hf : t.Fits) (h : t.step c token n signal = some p) :
    Turn c token n t signal p := by
  unfold Fits at hf
  cases hp : t.phase with
  | locking purpose =>
    cases signal <;> simp only [step, hp, reduceCtorEq, Option.some.injEq] at h
    subst h
    simp only [hp] at hf
    exact turn_of_locked hp hf
  | asking purpose q =>
    cases signal <;> simp only [step, hp, reduceCtorEq, Option.some.injEq] at h
    subst h
    simp only [hp] at hf
    exact turn_of_asking hp hf.1 _
  | exchanging x =>
    simp only [hp] at hf
    obtain ⟨o, hj⟩ := hf
    cases signal with
    | answer answer =>
      cases answer <;> simp only [step, hp, hj, Option.some.injEq] at h <;> subst h
      · exact .fail _ (by rw [hp]; rfl)
      · exact turn_of_received _ hj hp
    | lock => simp [step, hp] at h
    | wake => simp [step, hp] at h
  | pausing =>
    cases signal <;> simp only [step, hp, reduceCtorEq, Option.some.injEq] at h
    subst h
    exact turn_of_beginAttempt hp
  | finished result => cases signal <;> simp [step, hp] at h

theorem awaits_of_step (h : t.step c token n signal = some p) : t.phase.awaits signal = true := by
  unfold step at h
  split at h
  · next hp => rw [hp]; rfl
  · next hp => rw [hp]; rfl
  · next hp => rw [hp]; rfl
  · next hp _ => rw [hp]; rfl
  · next hp => rw [hp]; rfl
  · cases h

/-- A task goes on with whatever it waits for. -/
theorem isSome_step (hf : t.Fits) (h : t.phase.awaits signal = true) (c : Client)
    (token : Option String) (n : Negotiator) : (t.step c token n signal).isSome = true := by
  unfold Fits at hf
  unfold step
  cases hp : t.phase with
  | exchanging x =>
    obtain ⟨o, hj⟩ : ∃ o, t.job = .send o := by simpa only [hp] using hf
    cases signal with
    | answer a => cases a <;> simp [hj]
    | lock => simp [hp, Phase.awaits] at h
    | wake => simp [hp, Phase.awaits] at h
  | finished result => cases signal <;> simp [hp, Phase.awaits] at h
  | _ => cases signal <;> simp [hp, Phase.awaits] at h ⊢

theorem phase_endAttempt_ne_asking (result : Except Error Reply) {purpose : Purpose}
    {q : Inquiry} : (t.endAttempt c n result).task.phase ≠ .asking purpose q := by
  rcases phase_endAttempt c t n result with h | ⟨-, h⟩ <;> simp [h]

theorem fits_endAttempt (result : Except Error Reply) : (t.endAttempt c n result).task.Fits := by
  rcases phase_endAttempt c t n result with h | ⟨-, h⟩ <;> simp [Fits, h]

theorem upon_of_ne (h : signal ≠ .wake) (t : Task) : t.upon signal = t := by
  cases signal with
  | wake => exact absurd rfl h
  | _ => rfl

@[simp] theorem job_upon (t : Task) (signal : Signal) : (t.upon signal).job = t.job := by
  cases signal <;> rfl

theorem Concludes.upon_eq {purpose : Purpose} (h : Concludes n t purpose signal) :
    t.upon signal = t := by
  cases h <;> rfl

theorem Concludes.locks {purpose : Purpose} (h : Concludes n t purpose signal) :
    signal = .lock ∨ t.holdsLock = true := by
  cases h with
  | refusal => exact .inl rfl
  | answer a hp => simp [holdsLock, hp]

theorem Concludes.occasion_eq {purpose : Purpose} (h : Concludes n t purpose signal) :
    t.phase.occasion = if purpose.isAhead then .attempt else .refusal := by
  cases h with
  | refusal hp => rw [hp]; cases purpose <;> rfl
  | answer a hp => rw [hp]; cases purpose <;> rfl

theorem Concludes.not_isSettled {purpose : Purpose} (h : Concludes n t purpose signal)
    (hq : ∀ q, t.phase = .asking purpose q → q.negotiator = n) : n.isSettled = false := by
  cases h with
  | refusal _ hn => exact hn
  | answer a hp hn => rwa [hq _ hp] at hn

namespace Turn

theorem job_eq (h : Turn c token n t signal p) : p.task.job = t.job := by
  cases h <;> simp

/-- A task gets on to its next attempt only by the end of a pause. -/
theorem attempt_eq (h : Turn c token n t signal p) :
    p.task.attempt = (t.upon signal).attempt := by
  cases h with
  | agreeTell v _ hc => simp [hc.upon_eq]
  | agreeFail v e _ hc => simp [hc.upon_eq]
  | agreeFirst v _ hc => simp [hc.upon_eq]
  | agreeResend v _ hc => simp [hc.upon_eq]
  | _ => simp <;> rfl

/-- A task pauses only while the budget has another attempt for it. -/
theorem attempt_lt_of_pausing (h : Turn c token n t signal p) (hp : p.task.phase = .pausing) :
    p.task.attempt.toNat < c.budget.total.toNat := by
  have hend : ∀ (u : Task) (n' : Negotiator) (result : Except Error Reply),
      (u.endAttempt c n' result).task.phase = .pausing →
      (u.endAttempt c n' result).task.attempt.toNat < c.budget.total.toNat := by
    intro u n' result hu
    rcases endAttempt_cases c u n' result with he | ⟨o, e, -, -, hlt, he⟩
    · rw [he] at hu; cases hu
    · rw [he]; exact hlt
  cases h with
  | fail e => exact hend _ _ _ hp
  | answer => exact hend _ _ _ hp
  | tell => exact hend _ _ _ hp
  | agreeTell => exact hend _ _ _ hp
  | agreeFail => exact hend _ _ _ hp
  | _ => cases hp

/-- The negotiator stays as it is, or one version is agreed on by a task that can do so. -/
theorem negotiator_cases (h : Turn c token n t signal p) :
    (p.negotiator = n ∧ p.agreed = []) ∨
      ∃ v purpose, Concludes n t purpose signal ∧ p.negotiator = .agreed v ∧ p.agreed = [v] := by
  cases h with
  | agreeTell v _ hc => exact .inr ⟨v, _, hc, by simp, by simp⟩
  | agreeFail v e _ hc => exact .inr ⟨v, _, hc, by simp, by simp⟩
  | agreeFirst v _ hc => exact .inr ⟨v, _, hc, by simp, by simp⟩
  | agreeResend v _ hc => exact .inr ⟨v, _, hc, by simp, by simp⟩
  | _ => exact .inl (by simp)

/-- A task that goes on to ask the server has just been given the lock, or has held it before. -/
theorem asking_cases {purpose : Purpose} {q : Inquiry} (h : Turn c token n t signal p)
    (hp : p.task.phase = .asking purpose q) :
    p.negotiator = n ∧ (signal = .lock ∧ q.negotiator = n ∨
      ∃ q', t.phase = .asking purpose q' ∧ q.negotiator = q'.negotiator) := by
  cases h with
  | ask => cases hp; exact ⟨rfl, .inl ⟨rfl, rfl⟩⟩
  | askAgain a hq => cases hp; exact ⟨rfl, .inr ⟨_, hq, rfl⟩⟩
  | fail e _ => exact (phase_endAttempt_ne_asking _ hp).elim
  | answer => exact (phase_endAttempt_ne_asking _ hp).elim
  | tell => exact (phase_endAttempt_ne_asking _ hp).elim
  | agreeTell => exact (phase_endAttempt_ne_asking _ hp).elim
  | agreeFail => exact (phase_endAttempt_ne_asking _ hp).elim
  | _ => cases hp

/-- A task that holds the lock has just been given it, or has held it before. -/
theorem locks (h : Turn c token n t signal p) (hl : p.task.holdsLock = true) :
    p.negotiator = n ∧ (signal = .lock ∨ t.holdsLock = true) := by
  cases hp : p.task.phase with
  | asking purpose q =>
    obtain ⟨hn, ⟨hs, -⟩ | ⟨q', ht, -⟩⟩ := h.asking_cases hp
    · exact ⟨hn, .inl hs⟩
    · exact ⟨hn, .inr (by simp [holdsLock, ht])⟩
  | _ => simp [holdsLock, hp] at hl

theorem fits (h : Turn c token n t signal p) (hf : t.Fits) : p.task.Fits := by
  cases h with
  | fail e _ => exact fits_endAttempt _
  | answer => exact fits_endAttempt _
  | tell => exact fits_endAttempt _
  | agreeTell => exact fits_endAttempt _
  | agreeFail => exact fits_endAttempt _
  | queue _ hp => exact hp
  | refuse hj => simp [Fits, Purpose.fits, hj]
  | redirect _ hj => exact ⟨_, hj⟩
  | @first signal _ _ hj => exact ⟨_, (job_upon t signal).trans hj⟩
  | adopt hj => exact ⟨_, hj⟩
  | @ask purpose r _ hp ha =>
    refine ⟨hp, ?_⟩
    cases purpose with
    | beforeRequest => exact ha rfl
    | onDemand => exact ha rfl
    | afterRefusal x r => rfl
  | askAgain a hq =>
    simp only [Fits, hq] at hf
    refine ⟨hf.1, ?_⟩
    split
    · next ha => simpa [ha] using hf.2
    · rfl
  | agreeFirst v hj => exact ⟨_, hj⟩
  | agreeResend v hj => exact ⟨_, hj⟩

end Turn

end Task

end Microversion.Client
