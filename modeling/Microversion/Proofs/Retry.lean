import Mathlib.Data.List.Range
import Mathlib.Order.Bounds.Basic
import Microversion.Retry

/-! # How a run of attempts goes

A run counts its attempts from one on and makes them one after the other, up to the
first that is done or has failed for good, or else up to the last one of the budget.
Between two attempts it pauses once. What is tried again are failures of the
connection, and the two statuses by which a server says that it is busy.
-/

namespace Microversion

namespace StatusKind

/-- A kind of the catalogue belongs to its own status only. -/
theorem ofStatus_eq_iff {status s : ℕ} {kind : StatusKind} (h : (status, kind) ∈ catalogue) :
    ofStatus s = kind ↔ s = status := by
  have hinj : ∀ e ∈ catalogue, ∀ e' ∈ catalogue, e.2 = e'.2 → e.1 = e'.1 := by decide
  have hown : ∀ e ∈ catalogue, catalogue.lookup e.1 = some e.2 := by decide
  have hrest : ∀ e ∈ catalogue, e.2 ≠ serverError ∧ e.2 ≠ clientError ∧ e.2 ≠ other := by decide
  constructor
  · intro hs
    unfold ofStatus at hs
    split at hs
    · next kind' hk =>
      subst hs
      obtain ⟨before, after, heq, -⟩ := List.lookup_eq_some_iff.mp hk
      have hmem : (s, kind') ∈ catalogue := heq ▸ List.mem_append_right _ List.mem_cons_self
      exact hinj _ hmem _ h rfl
    · exfalso
      obtain ⟨hserver, hclient, hother⟩ := hrest _ h
      split at hs
      · exact hserver hs.symm
      · split at hs
        · exact hclient hs.symm
        · exact hother hs.symm
  · rintro rfl
    rw [ofStatus, hown _ h]

end StatusKind

namespace Fault

/-- The faults that can be made: from a status or from a response, with more said about them. -/
inductive Made : Fault → Prop
  | ofStatus (status : ℕ) (method url : String) : Made (.ofStatus status method url)
  | ofResponse (r : Http.Response) (method url : String) : Made (.ofResponse r method url)
  | withMessage {f : Fault} (message : String) : Made f → Made (f.withMessage message)
  | withDetails {f : Fault} (details : String) : Made f → Made (f.withDetails details)
  | withRequestId {f : Fault} (id : String) : Made f → Made (f.withRequestId id)

theorem kind_addJson (f : Fault) (body : String) :
    (f.addJson body).kind = f.kind ∧ (f.addJson body).status = f.status := by
  unfold addJson
  split <;> exact ⟨rfl, rfl⟩

theorem kind_ofResponse (r : Http.Response) (method url : String) :
    (ofResponse r method url).kind = .ofStatus (ofResponse r method url).status := by
  unfold ofResponse
  dsimp only
  split
  · rw [(kind_addJson _ _).1, (kind_addJson _ _).2]
    rfl
  · rfl
  · rfl

/-- A fault is of the kind of its status. -/
theorem Made.kind_eq {f : Fault} (h : f.Made) : f.kind = .ofStatus f.status := by
  induction h with
  | ofStatus => rfl
  | ofResponse r method url => exact kind_ofResponse r method url
  | withMessage _ _ ih => exact ih
  | withDetails _ _ ih => exact ih
  | withRequestId _ _ ih => exact ih

end Fault

/-- The failures that may pass. -/
inductive Error.IsTransient : Error → Prop
  | refused (reason : String) : IsTransient (.connectionRefused reason)
  | lost (reason : String) : IsTransient (.connectionFailure reason)
  | conflict {f : Fault} : f.status = 409 → IsTransient (.http f)
  | unavailable {f : Fault} : f.status = 503 → IsTransient (.http f)

theorem Error.isRetriable_iff {e : Error} (hmade : ∀ f, e = .http f → f.Made) :
    e.isRetriable = true ↔ e.IsTransient := by
  cases e with
  | http f =>
    have hkind := (hmade f rfl).kind_eq
    have hconflict : StatusKind.ofStatus f.status = .conflict ↔ f.status = 409 :=
      StatusKind.ofStatus_eq_iff (by decide)
    have hunavailable : StatusKind.ofStatus f.status = .serviceUnavailable ↔ f.status = 503 :=
      StatusKind.ofStatus_eq_iff (by decide)
    simp only [isRetriable, hkind, Bool.or_eq_true, beq_iff_eq, hconflict, hunavailable]
    constructor
    · rintro (h | h)
      · exact .conflict h
      · exact .unavailable h
    · rintro (_ | _ | h | h)
      · exact .inl h
      · exact .inr h
  | connectionRefused reason => exact iff_of_true rfl (.refused reason)
  | connectionFailure reason => exact iff_of_true rfl (.lost reason)
  | _ => exact iff_of_false (by simp [isRetriable]) (by rintro ⟨⟩)

namespace Attempt

variable {α : Type}

/-- No attempt follows such a one, whatever the budget is. -/
def IsFinal (a : Attempt α) : Prop := ∀ e, a ≠ .retriable e

/-- What the attempt comes to if it is the last one. -/
def result : Attempt α → Except Error α
  | done value => .ok value
  | retriable e => .error e
  | fatal e => .error e

/-- A failure is retriable exactly if it may pass, and else it is fatal. -/
theorem ofResult_error_iff {e : Error} (hmade : ∀ f, e = .http f → f.Made) :
    (ofResult (.error e : Except Error α) = .retriable e ↔ e.IsTransient) ∧
      (ofResult (.error e : Except Error α) = .fatal e ↔ ¬e.IsTransient) := by
  rw [← Error.isRetriable_iff hmade]
  cases h : e.isRetriable <;> simp [ofResult, h]

end Attempt

namespace RetryBudget

variable {α : Type} {b : RetryBudget} {outcomes : ℕ → Attempt α} {number : UInt32}

theorem toNat_total (b : RetryBudget) :
    b.total.toNat = min (b.retries.toNat + 1) (UInt32.size - 1) := by
  have hlt := b.retries.toNat_lt
  unfold total
  split
  · next h =>
    rw [h]
    decide
  · next h =>
    have hne : b.retries.toNat ≠ UInt32.size - 1 :=
      fun he => h (UInt32.toNat_inj.mp (by rw [he]; rfl))
    simp only [UInt32.size] at hne ⊢
    rw [UInt32.toNat_add, UInt32.toNat_one]
    omega

theorem verdict_eq_finish {a : Attempt α} {result : Except Error α}
    (h : b.verdict number a = .finish result) :
    (a.IsFinal ∨ b.total ≤ number) ∧ result = a.result := by
  cases a with
  | done value =>
    cases h
    exact ⟨.inl fun e => by rintro ⟨⟩, rfl⟩
  | fatal e =>
    cases h
    exact ⟨.inl fun e => by rintro ⟨⟩, rfl⟩
  | retriable e =>
    rw [verdict] at h
    split at h
    · next htotal =>
      cases h
      exact ⟨.inr htotal, rfl⟩
    · cases h

theorem not_isFinal_of_again {a : Attempt α} (h : b.verdict number a = .again) : ¬a.IsFinal := by
  cases a with
  | done value => cases h
  | fatal e => cases h
  | retriable e => exact fun hf => hf e rfl

/-- A run makes the attempts from the first one to the last and pauses between them. -/
structure Makes (pause : Duration) (outcomes : ℕ → Attempt α) (first last : ℕ) (run : Run α) :
    Prop where
  attempts : run.attempts.map UInt32.toNat = List.range' first (last + 1 - first)
  pauses : run.pauses = List.replicate (last - first) pause
  result : run.result = (outcomes last).result

/-- The numbers with which a run from the first one can end. -/
def lasts (total : ℕ) (outcomes : ℕ → Attempt α) (first : ℕ) : Set ℕ :=
  {i | first ≤ i ∧ ((outcomes i).IsFinal ∨ i = total)}

section Lasts

variable {total first last : ℕ} {pause : Duration} {run : Run α}

theorem isLeast_lasts_self (h : (outcomes first).IsFinal ∨ first = total) :
    IsLeast (lasts total outcomes first) first :=
  ⟨⟨le_rfl, h⟩, fun _ hi => hi.1⟩

/-- A run that does not end with an attempt ends where it would from the next one on. -/
theorem isLeast_lasts_succ (hf : ¬(outcomes first).IsFinal) (hlt : first < total)
    (h : IsLeast (lasts total outcomes (first + 1)) last) :
    IsLeast (lasts total outcomes first) last := by
  refine ⟨⟨Nat.le_of_succ_le h.1.1, h.1.2⟩, ?_⟩
  rintro i ⟨hi, hend⟩
  rcases Nat.eq_or_lt_of_le hi with rfl | hi
  · exact absurd hend (not_or.mpr ⟨hf, hlt.ne⟩)
  · exact h.2 ⟨hi, hend⟩

theorem makes_self (pause : Duration) (outcomes : ℕ → Attempt α) (number : UInt32) :
    Makes pause outcomes number.toNat number.toNat
      ⟨[number], [], (outcomes number.toNat).result⟩ :=
  ⟨by simp, by simp, rfl⟩

theorem Makes.succ (h : Makes pause outcomes (number.toNat + 1) last run)
    (hle : number.toNat + 1 ≤ last) :
    Makes pause outcomes number.toNat last
      ⟨number :: run.attempts, pause :: run.pauses, run.result⟩ where
  attempts := by
    have hcount : last + 1 - number.toNat = (last + 1 - (number.toNat + 1)) + 1 := by omega
    rw [hcount, List.range'_succ, List.map_cons, h.attempts]
  pauses := by
    have hcount : last - number.toNat = (last - (number.toNat + 1)) + 1 := by omega
    rw [hcount, List.replicate_succ, h.pauses]
  result := h.result

end Lasts

theorem makes_executeFrom (b : RetryBudget) (outcomes : ℕ → Attempt α) (number : UInt32)
    (hle : number.toNat ≤ b.total.toNat) :
    ∃ last, IsLeast (lasts b.total.toNat outcomes number.toNat) last ∧
      Makes b.pause outcomes number.toNat last
        (b.executeFrom (fun i => outcomes i.toNat) number) := by
  fun_induction b.executeFrom (fun i => outcomes i.toNat) number with
  | case1 number result hv =>
    obtain ⟨hend, rfl⟩ := verdict_eq_finish hv
    refine ⟨number.toNat, isLeast_lasts_self ?_, makes_self _ _ _⟩
    exact hend.imp_right fun hl => le_antisymm hle (UInt32.le_iff_toNat_le.mp hl)
  | case2 number hv rest ih =>
    have hlt := toNat_lt_of_again hv
    -- the counter does not overflow, since the total still fits
    have hnext := toNat_succ hlt
    obtain ⟨last, hlast, hmakes⟩ := ih (by omega)
    rw [hnext] at hlast hmakes
    exact ⟨last, isLeast_lasts_succ (not_isFinal_of_again hv) hlt hlast, hmakes.succ hlast.1.1⟩

/-- A run is over with the attempt of this number, having made the attempts from one on and paused
between them. -/
structure IsExact (total : ℕ) (pause : Duration) (outcomes : ℕ → Attempt α) (run : Run α)
    (k : ℕ) : Prop where
  isLeast : IsLeast {i | 1 ≤ i ∧ ((outcomes i).IsFinal ∨ i = total)} k
  /-- The counter reaches the last number without an overflow. -/
  fits : k < UInt32.size
  attempts : run.attempts.map UInt32.toNat = List.range' 1 k
  pauses : run.pauses = List.replicate (k - 1) pause
  result : run.result = (outcomes k).result

/-- Every run is exact, whatever its budget is and its attempts come to. Failures that may pass are
tried again and no others. -/
theorem isExact_execute (b : RetryBudget) (outcomes : ℕ → Attempt α) :
    (∃ k, IsExact (min ((b.maxRetries.getD 5).toNat + 1) (UInt32.size - 1))
      (b.interval.getD (.ofSeconds 2)) outcomes (b.execute fun i => outcomes i.toNat) k) ∧
    ∀ e : Error, (∀ f, e = .http f → f.Made) →
      (Attempt.ofResult (.error e : Except Error α) = .retriable e ↔ e.IsTransient) ∧
      (Attempt.ofResult (.error e : Except Error α) = .fatal e ↔ ¬e.IsTransient) := by
  refine ⟨?_, fun e he => Attempt.ofResult_error_iff he⟩
  have hpos := b.total_pos
  have hsize := toNat_total b
  obtain ⟨k, hk, hmakes⟩ := makes_executeFrom b outcomes 1 hpos
  rw [hsize] at hk
  refine ⟨k, hk, ?_, hmakes.attempts, hmakes.pauses, hmakes.result⟩
  have hle : k ≤ b.total.toNat := hsize ▸ hk.2 ⟨hsize ▸ hpos, .inr rfl⟩
  exact lt_of_le_of_lt hle b.total.toNat_lt

/-- Two conflicts are followed by a success within the budget. -/
theorem isExact_execute_conflicts :
    let e : Error := .http (.ofStatus 409 "PUT" "/v1/nodes/n1")
    let b : RetryBudget := ⟨some 3, none⟩
    let outcomes : ℕ → Attempt ℕ := fun i => .ofResult (if i < 3 then .error e else .ok i)
    (∀ f, e = .http f → f.Made) ∧
      IsExact 4 (.ofSeconds 2) outcomes (b.execute fun i => outcomes i.toNat) 3 ∧
      e.IsTransient ∧ Attempt.ofResult (.error e : Except Error ℕ) = .retriable e := by
  intro e b outcomes
  have hmade : ∀ f, e = .http f → f.Made := by
    intro f hf
    obtain rfl := Error.http.inj hf
    exact .ofStatus 409 "PUT" "/v1/nodes/n1"
  obtain ⟨⟨k, hk⟩, hclass⟩ := isExact_execute b outcomes
  have htransient : e.IsTransient := .conflict rfl
  have hretriable := (hclass e hmade).1.mpr htransient
  have hthree : IsLeast {i | 1 ≤ i ∧ ((outcomes i).IsFinal ∨ i = 4)} 3 := by
    refine ⟨⟨by decide, .inl fun e => by rintro ⟨⟩⟩, ?_⟩
    rintro i ⟨-, hend⟩
    by_contra hlt
    have hi : outcomes i = .retriable e := by
      dsimp only [outcomes]
      rw [if_pos (Nat.lt_of_not_le hlt), hretriable]
    rcases hend with hf | rfl
    · exact hf e hi
    · exact hlt (by decide)
  obtain rfl := hk.isLeast.unique hthree
  exact ⟨hmade, hk, htransient, hretriable⟩

end RetryBudget

end Microversion
