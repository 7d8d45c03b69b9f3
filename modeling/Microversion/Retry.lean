import Microversion.Duration
import Microversion.Error.Basic

/-! # Bounded retries

An attempt that fails for a reason that may pass is made again after a pause,
as long as the budget allows it. `execute` makes the attempts of a run.
-/

namespace Microversion

/-- How an attempt ends. -/
inductive Attempt (α : Type) where
  | done (value : α)
  | retriable (error : Error)
  | fatal (error : Error)
deriving DecidableEq, Repr

/-- An error counts as retriable when its cause may pass. -/
def Attempt.ofResult {α : Type} : Except Error α → Attempt α
  | .ok value => .done value
  | .error e => if e.isRetriable then .retriable e else .fatal e

/-- How often a request may be sent again, and the pause before that. -/
structure RetryBudget where
  maxRetries : Option UInt32
  interval : Option Duration
deriving DecidableEq, Repr

namespace RetryBudget

def defaultMaxRetries : UInt32 := 5

def defaultInterval : Duration := .ofSeconds 2

/-- Nothing is decided, so the defaults hold. -/
def unset : RetryBudget := ⟨none, none⟩

/-- No attempt is made again. -/
def noRetries : RetryBudget := ⟨some 0, some .zero⟩

/-- The retries, by default five. -/
def retries (b : RetryBudget) : UInt32 := b.maxRetries.getD defaultMaxRetries

/-- The pause, by default two seconds. -/
def pause (b : RetryBudget) : Duration := b.interval.getD defaultInterval

/-- The budget with its defaults filled in. -/
def resolved (b : RetryBudget) : RetryBudget := ⟨some b.retries, some b.pause⟩

/-- The most attempts: one more than the retries, as far as 32 bits allow. -/
def total (b : RetryBudget) : UInt32 :=
  if b.retries = UInt32.ofNat (UInt32.size - 1) then b.retries else b.retries + 1

theorem total_pos (b : RetryBudget) : 0 < b.total.toNat := by
  unfold total
  split
  · next h => rw [h]; decide
  · next h =>
    have hn : b.retries.toNat ≠ UInt32.size - 1 :=
      fun he => h (UInt32.toNat_inj.mp (by rw [he]; rfl))
    have := b.retries.toNat_lt
    rw [UInt32.toNat_add]
    simp only [UInt32.size] at hn
    simp only [UInt32.toNat_one]
    omega

theorem total_le (b : RetryBudget) : b.total.toNat ≤ b.retries.toNat + 1 := by
  unfold total
  split
  · omega
  · rw [UInt32.toNat_add]
    exact Nat.mod_le _ _

/-- What follows an attempt: the end, or one more attempt after the pause. -/
inductive Verdict (α : Type) where
  | finish (result : Except Error α)
  | again
deriving Repr

/-- What follows the attempt with the given number, which starts from one. -/
def verdict {α : Type} (b : RetryBudget) (number : UInt32) : Attempt α → Verdict α
  | .done value => .finish (.ok value)
  | .fatal e => .finish (.error e)
  | .retriable e => if b.total ≤ number then .finish (.error e) else .again

theorem toNat_lt_of_again {α : Type} {b : RetryBudget} {number : UInt32} {a : Attempt α}
    (h : b.verdict number a = .again) : number.toNat < b.total.toNat := by
  unfold verdict at h
  split at h
  · simp at h
  · simp at h
  · split at h
    · simp at h
    · next hn => exact Nat.not_le.1 (by simpa [UInt32.le_iff_toNat_le] using hn)

theorem toNat_succ {b : RetryBudget} {number : UInt32} (h : number.toNat < b.total.toNat) :
    (number + 1).toNat = number.toNat + 1 := by
  have := b.total.toNat_lt
  rw [UInt32.toNat_add]
  exact Nat.mod_eq_of_lt (by simp; omega)

/-- The attempts that were made, the pauses between them, and the result. -/
structure Run (α : Type) where
  attempts : List UInt32
  pauses : List Duration
  result : Except Error α

/-- The run from the attempt with the given number on. -/
def executeFrom {α : Type} (b : RetryBudget) (attempt : UInt32 → Attempt α) (number : UInt32) :
    Run α :=
  match h : b.verdict number (attempt number) with
  | .finish result => ⟨[number], [], result⟩
  | .again =>
    let rest := executeFrom b attempt (number + 1)
    ⟨number :: rest.attempts, b.pause :: rest.pauses, rest.result⟩
  termination_by b.total.toNat - number.toNat
  decreasing_by
    have := toNat_lt_of_again h
    have := toNat_succ this
    omega

/-- Attempts are made until one is done or fatal, or the budget is spent. -/
def execute {α : Type} (b : RetryBudget) (attempt : UInt32 → Attempt α) : Run α :=
  executeFrom b attempt 1

end RetryBudget

end Microversion
