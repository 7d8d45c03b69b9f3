import Microversion.Proofs.Client.Turn
import Microversion.Proofs.Client.VersionHeader

/-! # What an attempt may cost

An attempt gets an allowance of moves, requests, questions, refusals and
redirects, out of which every turn pays. What is left depends on what the task
waits for and on whether a refused request could still be sent again. An
agreement of another task never makes that more.
-/

namespace Microversion.Client

open Http

/-- Counts of what calls do. -/
structure Tally where
  moves : Nat
  /-- Requests of callers. -/
  sends : Nat
  /-- Requests for the range. -/
  discoveries : Nat
  /-- Requests refused for their version. -/
  refusals : Nat
  /-- Requests sent again after a refusal. -/
  resends : Nat
  /-- Requests sent after a redirect. -/
  redirects : Nat
deriving DecidableEq, Repr

namespace Tally

instance : Zero Tally := ⟨⟨0, 0, 0, 0, 0, 0⟩⟩

instance : Add Tally where
  add a b := ⟨a.moves + b.moves, a.sends + b.sends, a.discoveries + b.discoveries,
    a.refusals + b.refusals, a.resends + b.resends, a.redirects + b.redirects⟩

instance : LE Tally where
  le a b := a.moves ≤ b.moves ∧ a.sends ≤ b.sends ∧ a.discoveries ≤ b.discoveries ∧
    a.refusals ≤ b.refusals ∧ a.resends ≤ b.resends ∧ a.redirects ≤ b.redirects

theorem le_def {a b : Tally} : a ≤ b ↔ a.moves ≤ b.moves ∧ a.sends ≤ b.sends ∧
    a.discoveries ≤ b.discoveries ∧ a.refusals ≤ b.refusals ∧ a.resends ≤ b.resends ∧
    a.redirects ≤ b.redirects := Iff.rfl

instance (a b : Tally) : Decidable (a ≤ b) := decidable_of_iff' _ le_def

theorem zero_def : (0 : Tally) = ⟨0, 0, 0, 0, 0, 0⟩ := rfl

theorem add_def (a b : Tally) : a + b = ⟨a.moves + b.moves, a.sends + b.sends,
    a.discoveries + b.discoveries, a.refusals + b.refusals, a.resends + b.resends,
    a.redirects + b.redirects⟩ := rfl

theorem le_refl (a : Tally) : a ≤ a := by simp [le_def]

theorem le_trans {a b d : Tally} (h : a ≤ b) (h' : b ≤ d) : a ≤ d := by
  rw [le_def] at *; omega

theorem add_assoc (a b d : Tally) : a + b + d = a + (b + d) := by
  simp only [add_def, Nat.add_assoc]

@[simp] theorem add_zero (a : Tally) : a + 0 = a := rfl

theorem add_le_add_left {a b : Tally} (h : a ≤ b) (d : Tally) : d + a ≤ d + b := by
  simp only [le_def, add_def] at *; omega

theorem le_of_add_le {a b d : Tally} (h : a + b ≤ d) : a ≤ d := by
  simp only [le_def, add_def] at *; omega

/-- The allowance of an attempt. -/
def attempt : Tally := ⟨18, 12, 3, 2, 1, maxRedirects⟩

end Tally

namespace Task

/-- What a turn costs. -/
def cost (t : Task) (signal : Signal) (p : Progress) : Tally where
  moves := 1
  sends := p.sent.length
  discoveries := p.discoveries.length
  refusals := if t.phase.isRefused signal then 1 else 0
  resends := if t.phase.occasion = .refusal then p.sent.length else 0
  redirects := if t.phase.occasion = .redirect then p.sent.length else 0

/-- A refused request may still be sent again: nothing is settled, or it was sent before
something was. -/
def mayResend (t : Task) (n : Negotiator) (x : Exchange) : Bool :=
  !n.isSettled || (t.newerVersion? n x).isSome

/-- What is left of the allowance of an attempt. -/
def allowance (t : Task) (n : Negotiator) : Tally :=
  match t.phase with
  | .exchanging x =>
    let left := maxRedirects - x.redirects
    if t.mayResend n x then ⟨left + 6, left + 1, 2, 2, 1, left⟩ else ⟨left + 3, left, 1, 1, 0, left⟩
  | .locking (.afterRefusal x _) =>
    let left := maxRedirects - x.redirects
    if t.mayResend n x then ⟨left + 5, left + 1, 2, 1, 1, left⟩ else ⟨2, 0, 1, 0, 0, 0⟩
  | .asking (.afterRefusal x _) _ =>
    let left := maxRedirects - x.redirects
    if n.isSettled then ⟨1, 0, 0, 0, 0, 0⟩ else ⟨left + 4, left + 1, 1, 1, 1, left⟩
  | .locking _ => ⟨17, 12, 3, 2, 1, maxRedirects⟩
  | .asking _ q =>
    if q.isLast then ⟨15, 12, 1, 2, 1, maxRedirects⟩ else ⟨16, 12, 2, 2, 1, maxRedirects⟩
  | .pausing | .finished (.error _) => 0
  -- an exchange that succeeds leaves the refusal over that would have ended it
  | .finished (.ok _) => ⟨0, 0, 0, 1, 0, 0⟩

/-- What a task has for its next turns; the end of a pause begins a new attempt. -/
def purse (t : Task) (n : Negotiator) : Signal → Tally
  | .wake => .attempt
  | _ => t.allowance n

section Allowance

variable {c : Client} {token : Option String} {t : Task} {n n' : Negotiator} {signal : Signal}
  {p : Progress}

theorem purse_of_ne (h : signal ≠ .wake) (t : Task) (n : Negotiator) :
    t.purse n signal = t.allowance n := by
  cases signal with
  | wake => exact absurd rfl h
  | _ => rfl

theorem mayResend_of_not_isSettled (h : n.isSettled = false) (t : Task) (x : Exchange) :
    t.mayResend n x = true := by
  simp [mayResend, h]

theorem cost_of_quiet (hu : t.phase.isRefused signal = false) (hs : p.sent = [])
    (hd : p.discoveries = []) : t.cost signal p = ⟨1, 0, 0, 0, 0, 0⟩ := by
  simp [cost, hu, hs, hd]

theorem cost_of_asks {r : Request} (hu : t.phase.isRefused signal = false) (hs : p.sent = [])
    (hd : p.discoveries = [r]) : t.cost signal p = ⟨1, 0, 1, 0, 0, 0⟩ := by
  simp [cost, hu, hs, hd]

theorem cost_of_sends {w : Occasion} {r : Request} (hu : t.phase.isRefused signal = false)
    (hs : p.sent = [r]) (hd : p.discoveries = []) (hw : t.phase.occasion = w) :
    t.cost signal p =
      ⟨1, 1, 0, 0, if w = .refusal then 1 else 0, if w = .redirect then 1 else 0⟩ := by
  simp [cost, hu, hs, hd, hw]

/-- What is settled by somebody else makes an allowance no larger. -/
theorem allowance_le (h : n' = n ∨ n.isSettled = false) (t : Task) :
    t.allowance n' ≤ t.allowance n := by
  rcases h with rfl | h
  · exact Tally.le_refl _
  · unfold allowance
    split
    · next x hp =>
      rw [mayResend_of_not_isSettled h, if_pos rfl]
      dsimp only
      split <;> simp only [Tally.le_def] <;> omega
    · next x r hp =>
      rw [mayResend_of_not_isSettled h, if_pos rfl]
      dsimp only
      split <;> simp only [Tally.le_def] <;> omega
    · next x r q hp =>
      rw [if_neg (by simp [h] : ¬ n.isSettled = true)]
      dsimp only
      split <;> simp only [Tally.le_def] <;> omega
    · exact Tally.le_refl _
    · exact Tally.le_refl _
    · exact Tally.le_refl _
    · exact Tally.le_refl _
    · exact Tally.le_refl _

theorem allowance_exchanging_le {x : Exchange} (hp : t.phase = .exchanging x) :
    t.allowance n ≤ ⟨maxRedirects - x.redirects + 6, maxRedirects - x.redirects + 1, 2, 2, 1,
      maxRedirects - x.redirects⟩ := by
  simp only [allowance, hp]
  split <;> simp only [Tally.le_def] <;> omega

theorem allowance_exchanging {x : Exchange} (hp : t.phase = .exchanging x)
    (hm : t.mayResend n x = false) : t.allowance n =
      ⟨maxRedirects - x.redirects + 3, maxRedirects - x.redirects, 1, 1, 0,
        maxRedirects - x.redirects⟩ := by
  simp [allowance, hp, hm]

theorem allowance_exchanging_of_mayResend {x : Exchange} (hp : t.phase = .exchanging x)
    (hm : t.mayResend n x = true) : t.allowance n =
      ⟨maxRedirects - x.redirects + 6, maxRedirects - x.redirects + 1, 2, 2, 1,
        maxRedirects - x.redirects⟩ := by
  simp [allowance, hp, hm]

theorem sentVersion_insert (x : Exchange) {text : String}
    (h : (plainValue text).text? = some text) :
    sentVersion { x with headers := x.headers.insert versionHeader (plainValue text) } =
      some text := by
  simp [sentVersion, Headers.get?_insert_self, h]

/-- Nothing newer is there for a request that says what the client speaks. -/
theorem mayResend_of_sent (t : Task) {x : Exchange} (hn : n.isSettled = true)
    (hx : sentVersion x = n.headerText?) : t.mayResend n x = false := by
  have hv : t.newerVersion? n x = none := by
    unfold newerVersion?
    cases t.job <;> simp [hx]
  simp [mayResend, hn, hv]

/-- The first request after an agreement is not sent again. -/
theorem mayResend_of_requestHeaders {o : Order} {headers : Headers} {v : Version}
    (hj : t.job = .send o) (hh : c.requestHeaders token (.agreed v) o.headers = .ok headers)
    (target : String) (redirects : Nat) :
    t.mayResend (.agreed v) ⟨headers, target, redirects⟩ = false := by
  cases ho : o.hasOwnVersion with
  | true =>
    have hv : t.newerVersion? (.agreed v) ⟨headers, target, redirects⟩ = none := by
      simp [newerVersion?, hj, ho]
    simp [mayResend, hv]
  | false =>
    have hs := values_requestHeaders_of_spoken hh ho (Negotiator.headerText?_agreed v)
    refine mayResend_of_sent t (Negotiator.isSettled_agreed v) ?_
    simp [sentVersion, Headers.get?, hs]

@[simp] theorem allowance_endAttempt_error (e : Error) :
    (t.endAttempt c n (.error e)).task.allowance n' = 0 := by
  rcases phase_endAttempt c t n (.error e) with h | ⟨-, h⟩ <;> simp [allowance, h]

@[simp] theorem allowance_endAttempt_ok (reply : Reply) :
    (t.endAttempt c n (.ok reply)).task.allowance n' = ⟨0, 0, 0, 1, 0, 0⟩ := by
  rw [endAttempt_ok]; rfl

theorem allowance_locking {purpose : Purpose} (hp : t.phase = .locking purpose)
    (ha : purpose.isAhead = true) : t.allowance n = ⟨17, 12, 3, 2, 1, maxRedirects⟩ := by
  cases purpose <;> simp [allowance, hp, Purpose.isAhead] at ha ⊢

theorem allowance_asking {purpose : Purpose} {q : Inquiry} (hp : t.phase = .asking purpose q)
    (ha : purpose.isAhead = true) : t.allowance n =
      if q.isLast then ⟨15, 12, 1, 2, 1, maxRedirects⟩ else ⟨16, 12, 2, 2, 1, maxRedirects⟩ := by
  cases purpose <;> simp [allowance, hp, Purpose.isAhead] at ha ⊢

/-- Whoever goes on can pay for a move. -/
theorem one_le_purse (ha : t.phase.awaits signal = true) (n : Negotiator) :
    ⟨1, 0, 0, 0, 0, 0⟩ ≤ t.purse n signal := by
  cases hp : t.phase with
  | locking purpose =>
    cases signal <;> simp [hp, Phase.awaits] at ha
    cases hpa : purpose.isAhead with
    | true => simp [purse, allowance_locking hp hpa, Tally.le_def]
    | false =>
      cases purpose <;> simp [Purpose.isAhead] at hpa
      simp only [purse, allowance, hp]
      split <;> simp [Tally.le_def]
  | asking purpose q =>
    cases signal <;> simp [hp, Phase.awaits] at ha
    cases hpa : purpose.isAhead with
    | true =>
      simp only [purse, allowance_asking hp hpa]
      split <;> simp [Tally.le_def]
    | false =>
      cases purpose <;> simp [Purpose.isAhead] at hpa
      simp only [purse, allowance, hp]
      split <;> simp [Tally.le_def]
  | exchanging x =>
    cases signal <;> simp [hp, Phase.awaits] at ha
    simp only [purse, allowance, hp]
    split <;> simp [Tally.le_def]
  | pausing =>
    cases signal <;> simp [hp, Phase.awaits] at ha
    simp [purse, Tally.attempt, Tally.le_def]
  | finished result => cases signal <;> simp [hp, Phase.awaits] at ha

theorem Concludes.le_purse_of_isAhead {purpose : Purpose} (h : Concludes n t purpose signal)
    (ha : purpose.isAhead = true) : ⟨15, 12, 1, 2, 1, maxRedirects⟩ ≤ t.purse n signal := by
  cases h with
  | refusal hp => simp [purse, allowance_locking hp ha, Tally.le_def]
  | answer a hp =>
    simp only [purse, allowance_asking hp ha]
    split <;> simp [Tally.le_def]

theorem Concludes.le_purse_of_refusal {x : Exchange} {r : Response}
    (h : Concludes n t (.afterRefusal x r) signal) (hn : n.isSettled = false) :
    ⟨maxRedirects - x.redirects + 4, maxRedirects - x.redirects + 1, 1, 1, 1,
      maxRedirects - x.redirects⟩ ≤ t.purse n signal := by
  cases h with
  | refusal hp => simp [purse, allowance, hp, mayResend_of_not_isSettled hn, Tally.le_def]
  | answer a hp => simp [purse, allowance, hp, hn, Tally.le_def]

theorem Concludes.isRefused_eq {purpose : Purpose} (h : Concludes n t purpose signal) :
    t.phase.isRefused signal = false := by
  cases h with
  | refusal hp => rw [hp]; rfl
  | answer a hp => rw [hp]; rfl

namespace Turn

/-- The first request of an attempt is paid for. -/
theorem pays_of_first {o : Order} {x : Exchange} (ha : t.phase.awaits signal = true)
    (hp : t.phase = .pausing ∨ t.phase = .locking .beforeRequest) (hx : x.redirects = 0) :
    t.cost signal ((t.upon signal).exchange c n o x) +
      ((t.upon signal).exchange c n o x).task.allowance n ≤ t.purse n signal := by
  have hu : t.phase.isRefused signal = false := by rcases hp with hp | hp <;> rw [hp] <;> rfl
  have hw : t.phase.occasion = .attempt := by rcases hp with hp | hp <;> rw [hp] <;> rfl
  have hl := @allowance_exchanging_le ((t.upon signal).exchange c n o x).task n x rfl
  refine Tally.le_trans (Tally.add_le_add_left hl _) ?_
  rw [cost_of_sends hu rfl rfl hw, hx]
  rcases hp with hp | hp
  · cases signal <;> simp [hp, Phase.awaits] at ha
    exact (by decide : (⟨17, 12, 2, 2, 1, maxRedirects⟩ : Tally) ≤ .attempt)
  · cases signal <;> simp [hp, Phase.awaits] at ha
    rw [purse_of_ne (by rintro ⟨⟩), allowance_locking hp rfl]
    simp [Tally.le_def, Tally.add_def, maxRedirects]

/-- A request sent again is paid for by the right to send it. -/
theorem pays_of_resend {o : Order} {x : Exchange} {text : String}
    (hu : t.phase.isRefused signal = false) (hw : t.phase.occasion = .refusal)
    (ht : (plainValue text).text? = some text) (hn : n'.isSettled = true)
    (hh : n'.headerText? = some text)
    (hl : ⟨maxRedirects - x.redirects + 4, maxRedirects - x.redirects + 1, 1, 1, 1,
      maxRedirects - x.redirects⟩ ≤ t.purse n signal) :
    t.cost signal (t.resend c n' o x text) + (t.resend c n' o x text).task.allowance n' ≤
      t.purse n signal := by
  -- the request now says what the client speaks, so that nothing newer is there
  have hm : (t.resend c n' o x text).task.mayResend n'
      { x with headers := x.headers.insert versionHeader (plainValue text) } = false :=
    mayResend_of_sent _ hn (by rw [sentVersion_insert x ht, hh])
  refine Tally.le_trans ?_ hl
  rw [cost_of_sends hu rfl rfl hw, allowance_exchanging rfl hm]
  simp only [Tally.le_def, Tally.add_def, reduceCtorEq, if_true, if_false]
  omega

/-- Every turn is paid for. -/
theorem pays (h : Turn c token n t signal p) (ha : t.phase.awaits signal = true) (hf : t.Fits)
    (hq : ∀ purpose q, t.phase = .asking purpose q → q.negotiator = n) :
    t.cost signal p + p.task.allowance p.negotiator ≤ t.purse n signal := by
  cases h with
  | fail e hu =>
    rw [cost_of_quiet hu (by simp) (by simp), allowance_endAttempt_error, Tally.add_zero]
    exact one_le_purse ha n
  | @answer o x r _ hp h406 =>
    have hu : t.phase.isRefused (.answer (.ok r)) = false := by
      rw [hp]; simpa [Phase.isRefused] using h406
    rw [cost_of_quiet hu (by simp) (by simp), allowance_endAttempt_ok]
    simp only [purse, allowance, hp]
    split <;> simp [Tally.le_def, Tally.add_def]
  | tell _ hp =>
    rw [cost_of_quiet (by rw [hp]; rfl) (by simp) (by simp), allowance_endAttempt_ok,
      purse_of_ne (by rintro ⟨⟩), allowance_locking hp rfl]
    simp [Tally.le_def, Tally.add_def]
  | queue hp _ hpa =>
    rw [cost_of_quiet (by rw [hp]; rfl) rfl rfl, allowance_locking rfl hpa]
    simp [purse, Tally.le_def, Tally.add_def, Tally.attempt]
  | @refuse o x r _ hp h406 =>
    have hm : ({ t with phase := .locking (.afterRefusal x r) } : Task).mayResend n x =
      t.mayResend n x := rfl
    simp only [cost, purse, allowance, hp, hm, Phase.isRefused, h406, Phase.occasion]
    cases t.mayResend n x <;> simp [Tally.le_def, Tally.add_def]
    omega
  | @redirect o x r target _ hp hr hlt =>
    have hm' : (t.exchange c n o { x with target, redirects := x.redirects + 1 }).task.mayResend n
      { x with target, redirects := x.redirects + 1 } = t.mayResend n x := rfl
    have hu : t.phase.isRefused (.answer (.ok r)) = false := by
      rw [hp]
      cases h406 : r.status == 406 with
      | false => exact h406
      | true => rw [eq_of_beq h406] at hr; cases hr
    have hw : t.phase.occasion = .redirect := by rw [hp]; rfl
    rw [cost_of_sends hu rfl rfl hw, negotiator_exchange, purse_of_ne (by rintro ⟨⟩)]
    cases hm : t.mayResend n x with
    | false =>
      rw [allowance_exchanging hp hm, allowance_exchanging rfl (hm'.trans hm)]
      simp only [Tally.le_def, Tally.add_def, reduceCtorEq, if_true, if_false]
      omega
    | true =>
      rw [allowance_exchanging_of_mayResend hp hm,
        allowance_exchanging_of_mayResend rfl (hm'.trans hm)]
      simp only [Tally.le_def, Tally.add_def, reduceCtorEq, if_true, if_false]
      omega
  | first _ hp _ _ => exact pays_of_first ha hp rfl
  | @adopt o x r version hj hp hv =>
    have hn : n.isNegotiated = true ∧ n.headerText? = some version := by
      simp only [newerVersion?, hj] at hv
      split at hv
      · next h => exact ⟨h.1, hv⟩
      · cases hv
    refine pays_of_resend (by rw [hp]; rfl) (by rw [hp]; rfl) (text?_plainValue_of_headerText hn.2)
      (by simp [Negotiator.isSettled, hn.1]) hn.2 ?_
    simp [purse, allowance, hp, mayResend, hv, Tally.le_def]
  | @ask purpose r hp hpf hpa =>
    rw [cost_of_asks (by rw [hp]; rfl) rfl rfl]
    cases purpose with
    | afterRefusal x r =>
      simp only [purse, allowance, hp]
      cases hn : n.isSettled with
      | true =>
        simp only [if_true]
        cases t.mayResend n x <;> simp [Tally.le_def, Tally.add_def]
      | false =>
        simp only [mayResend_of_not_isSettled hn, if_true, Bool.false_eq_true, if_false,
          Tally.le_def, Tally.add_def]
        omega
    | _ => simp [purse, allowance, hp, Purpose.refusal?, Tally.le_def, Tally.add_def]
  | @askAgain purpose q r a hp hl =>
    rw [cost_of_asks (by rw [hp]; rfl) rfl rfl]
    simp only [Fits, hp] at hf
    cases purpose with
    -- a refusal has been the first answer, so that the question before was the last one
    | afterRefusal x r => simp [Purpose.isAhead, hl] at hf
    | _ => simp [purse, allowance, hp, hl, Tally.le_def, Tally.add_def]
  | agreeTell v _ hc =>
    rw [cost_of_quiet hc.isRefused_eq (by simp) (by simp), Progress.task_after,
      allowance_endAttempt_ok]
    exact Tally.le_trans (by decide) (hc.le_purse_of_isAhead rfl)
  | agreeFail v e _ hc =>
    rw [cost_of_quiet hc.isRefused_eq (by simp) (by simp), Progress.task_after,
      allowance_endAttempt_error]
    exact Tally.le_trans (by decide) (hc.le_purse_of_isAhead rfl)
  | @agreeFirst _ o headers v hj hc hh =>
    have hm : (t.exchange c (.agreed v) o ⟨headers, o.target, 0⟩).task.mayResend (.agreed v)
      ⟨headers, o.target, 0⟩ = false := mayResend_of_requestHeaders hj hh _ _
    rw [cost_of_sends hc.isRefused_eq rfl rfl hc.occasion_eq, Progress.task_after,
      Progress.negotiator_after, negotiator_exchange, allowance_exchanging rfl hm]
    refine Tally.le_trans ?_ (hc.le_purse_of_isAhead rfl)
    simp [Tally.le_def, Tally.add_def, Purpose.isAhead, maxRedirects]
  | agreeResend v hj hc =>
    exact pays_of_resend hc.isRefused_eq (by rw [hc.occasion_eq]; rfl) (text?_plainValue_version v)
      (Negotiator.isSettled_agreed v) (Negotiator.headerText?_agreed v)
      (hc.le_purse_of_refusal (hc.not_isSettled (hq _)))

end Turn

end Allowance

end Task

end Microversion.Client
