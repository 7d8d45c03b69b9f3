import Microversion.Client.Task

/-! # What a task does on its way

The effects of a task up to its next wait are seen as the requests that it
sends, the questions that it asks, and the versions that it agrees on. The end
of an attempt has none of these.
-/

namespace Microversion.Client

open Http

namespace Effect

/-- The request of a caller that is sent. -/
def sent? : Effect → Option Request
  | send r => some r
  | _ => none

/-- The request for the range that is sent. -/
def discovery? : Effect → Option Request
  | discover r => some r
  | _ => none

/-- The version that is agreed on. -/
def agreed? : Effect → Option Version
  | remember v => some v
  | _ => none

end Effect

namespace Progress

/-- The requests of callers that are sent on the way. -/
def sent (p : Progress) : List Request := p.effects.filterMap Effect.sent?

/-- The requests for the range that are sent on the way. -/
def discoveries (p : Progress) : List Request := p.effects.filterMap Effect.discovery?

/-- The versions that are agreed on on the way. -/
def agreed (p : Progress) : List Version := p.effects.filterMap Effect.agreed?

end Progress

namespace Progress

section Views

variable (t : Task) (n : Negotiator) (effects : List Effect)

@[simp] theorem sent_nil : sent ⟨t, n, []⟩ = [] := rfl

@[simp] theorem discoveries_nil : discoveries ⟨t, n, []⟩ = [] := rfl

@[simp] theorem agreed_nil : agreed ⟨t, n, []⟩ = [] := rfl

@[simp] theorem sent_discover (r : Request) : sent ⟨t, n, [.discover r]⟩ = [] := rfl

@[simp] theorem discoveries_discover (r : Request) :
    discoveries ⟨t, n, [.discover r]⟩ = [r] := rfl

@[simp] theorem agreed_discover (r : Request) : agreed ⟨t, n, [.discover r]⟩ = [] := rfl

end Views

section After

variable (v : Version) (p : Progress)

@[simp] theorem task_after (e : Effect) : (p.after e).task = p.task := rfl

@[simp] theorem negotiator_after (e : Effect) : (p.after e).negotiator = p.negotiator := rfl

@[simp] theorem sent_after : (p.after (.remember v)).sent = p.sent := rfl

@[simp] theorem discoveries_after : (p.after (.remember v)).discoveries = p.discoveries := rfl

@[simp] theorem agreed_after : (p.after (.remember v)).agreed = v :: p.agreed := rfl

end After

end Progress

namespace Task

variable (c : Client) (t : Task) (n : Negotiator)

/-- A success ends the task, and so does a failure unless the budget allows one more attempt. -/
theorem endAttempt_cases (result : Except Error Reply) :
    t.endAttempt c n result = ⟨{ t with phase := .finished result }, n, []⟩ ∨
      ∃ o e, t.job = .send o ∧ result = .error e ∧ t.attempt.toNat < c.budget.total.toNat ∧
        t.endAttempt c n result = ⟨{ t with phase := .pausing }, n, [.pause c.budget.pause]⟩ := by
  unfold endAttempt
  cases t.job with
  | agree => exact .inl rfl
  | send o =>
    cases result with
    | ok reply => exact .inl rfl
    | error e =>
      dsimp only
      cases hv : c.budget.verdict t.attempt (.ofResult (.error e : Except Error Reply)) with
      | finish result =>
        left
        have hr : result = .error e := by
          unfold Attempt.ofResult at hv
          dsimp only at hv
          split at hv <;> unfold RetryBudget.verdict at hv <;> dsimp only at hv
          · split at hv <;> cases hv
            rfl
          · cases hv; rfl
        rw [hr]
      | again => exact .inr ⟨o, e, rfl, rfl, RetryBudget.toNat_lt_of_again hv, rfl⟩

theorem endAttempt_ok (reply : Reply) :
    t.endAttempt c n (.ok reply) = ⟨{ t with phase := .finished (.ok reply) }, n, []⟩ := by
  rcases endAttempt_cases c t n (.ok reply) with h | ⟨o, e, -, he, -⟩
  · exact h
  · cases he

/-- A success is what the call is given. -/
theorem received_of_isSuccess (o : Order) (x : Exchange) {r : Response} (h : r.isSuccess = true) :
    t.received c n o x r = ⟨{ t with phase := .finished (.ok (.response r)) }, n, []⟩ := by
  simp only [Response.isSuccess, Bool.and_eq_true, decide_eq_true_eq] at h
  have h406 : r.status ≠ 406 := by omega
  have hred : isRedirect r.status = false := by
    simp only [isRedirect, Bool.or_eq_false_iff, beq_eq_false_iff_ne]
    omega
  have hfail : isFailure r.status = false := by
    simp only [isFailure, hred, Bool.or_false, Bool.or_eq_false_iff, beq_eq_false_iff_ne,
      decide_eq_false_iff_not]
    omega
  simp only [received, h406, hred, hfail, if_false, Bool.false_eq_true, false_and, endAttempt_ok]

section EndAttempt

variable (result : Except Error Reply)

@[simp] theorem job_endAttempt : (t.endAttempt c n result).task.job = t.job := by
  rcases endAttempt_cases c t n result with h | ⟨o, e, -, -, -, h⟩ <;> rw [h]

@[simp] theorem attempt_endAttempt : (t.endAttempt c n result).task.attempt = t.attempt := by
  rcases endAttempt_cases c t n result with h | ⟨o, e, -, -, -, h⟩ <;> rw [h]

@[simp] theorem negotiator_endAttempt : (t.endAttempt c n result).negotiator = n := by
  rcases endAttempt_cases c t n result with h | ⟨o, e, -, -, -, h⟩ <;> rw [h]

@[simp] theorem sent_endAttempt : (t.endAttempt c n result).sent = [] := by
  rcases endAttempt_cases c t n result with h | ⟨o, e, -, -, -, h⟩ <;> rw [h] <;> rfl

@[simp] theorem discoveries_endAttempt : (t.endAttempt c n result).discoveries = [] := by
  rcases endAttempt_cases c t n result with h | ⟨o, e, -, -, -, h⟩ <;> rw [h] <;> rfl

@[simp] theorem agreed_endAttempt : (t.endAttempt c n result).agreed = [] := by
  rcases endAttempt_cases c t n result with h | ⟨o, e, -, -, -, h⟩ <;> rw [h] <;> rfl

theorem phase_endAttempt :
    (t.endAttempt c n result).task.phase = .finished result ∨
      (∃ e, result = .error e) ∧ (t.endAttempt c n result).task.phase = .pausing := by
  rcases endAttempt_cases c t n result with h | ⟨o, e, -, he, -, h⟩ <;> rw [h]
  · exact .inl rfl
  · exact .inr ⟨⟨e, he⟩, rfl⟩

end EndAttempt

section Exchange

variable (o : Order) (x : Exchange)

@[simp] theorem task_exchange : (t.exchange c n o x).task = { t with phase := .exchanging x } := rfl

@[simp] theorem negotiator_exchange : (t.exchange c n o x).negotiator = n := rfl

@[simp] theorem sent_exchange : (t.exchange c n o x).sent = [request c o x] := rfl

@[simp] theorem discoveries_exchange : (t.exchange c n o x).discoveries = [] := rfl

@[simp] theorem agreed_exchange : (t.exchange c n o x).agreed = [] := rfl

@[simp] theorem resend_eq (version : String) : t.resend c n o x version =
    t.exchange c n o { x with headers := x.headers.insert versionHeader (plainValue version) } :=
  rfl

end Exchange

end Task

end Microversion.Client
