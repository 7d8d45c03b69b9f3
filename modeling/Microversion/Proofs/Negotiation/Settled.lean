import Microversion.Negotiation.Inquiry

/-! # Settled negotiators

A negotiator that has agreed on a version, or that the user pinned to one, is
settled: no range of a server makes it agree on anything. Between its answers an
inquiry keeps the negotiator with which it began.
-/

namespace Microversion

namespace Negotiator

variable {n : Negotiator} {sent : Option String} {v : Version}

/-- No version is agreed on any more. -/
def isSettled (n : Negotiator) : Bool := n.isNegotiated || n.isPinnedByUser

@[simp] theorem isNegotiated_agreed (v : Version) : (agreed v).isNegotiated = true := rfl

@[simp] theorem isSettled_agreed (v : Version) : (agreed v).isSettled = true := rfl

@[simp] theorem headerText?_agreed (v : Version) : (agreed v).headerText? = some v.text := rfl

@[simp] theorem currentText_agreed (v : Version) : (agreed v).currentText = v.text := rfl

theorem agreed_injective {v w : Version} (h : agreed v = agreed w) : v = w := by
  cases h; rfl

theorem not_isSettled_of_mustNegotiate (h : n.mustNegotiate = true) : n.isSettled = false := by
  obtain ⟨requested, state⟩ := n
  simp only [mustNegotiate, Bool.and_eq_true, beq_iff_eq] at h
  obtain ⟨rfl, hd⟩ := h
  simp only [isSettled, isNegotiated, isPinnedByUser, hd]
  rfl

/-- Only a version that was remembered, or the default one, is used without being settled. -/
theorem state_of_not_isSettled (n : Negotiator) (hs : n.isSettled = false)
    (hn : n.mustNegotiate = false) : n.state = .cached ∨ n.state = .default := by
  obtain ⟨requested, state⟩ := n
  cases state with
  | user =>
    cases hd : requested.requiresDiscovery with
    | false => simp [isSettled, isNegotiated, isPinnedByUser, hd] at hs
    | true => simp [mustNegotiate, hd] at hn
  | negotiated => simp [isSettled, isNegotiated] at hs
  | cached => exact .inl rfl
  | default => exact .inr rfl

theorem not_isSettled_of_settle {min max : Version} (h : n.settle sent min max = .ok v) :
    n.isSettled = false := by
  unfold settle at h
  dsimp only at h
  split at h
  · cases h
  · next hp =>
    split at h
    · cases h
    · split at h
      · cases h
      · next hn => simp [isSettled, hp, hn]

theorem not_isSettled_of_settleText {min max : String} (h : n.settleText sent min max = .ok v) :
    n.isSettled = false := by
  unfold settleText at h
  split at h
  · cases h
  · split at h
    · cases h
    · exact not_isSettled_of_settle h

end Negotiator

namespace Inquiry

variable {n : Negotiator} {sent : Option String} {v : Version} {q q' : Inquiry}

theorem take_cases (n : Negotiator) (sent : Option String) (range : Advertised)
    (otherwise : Progress) :
    (∃ min max, range.both? = some (min, max) ∧
      take n sent range otherwise = .settled (n.settleText sent min max)) ∨
    (range.both? = none ∧ take n sent range otherwise = otherwise) := by
  unfold take
  cases h : range.both? with
  | none => exact .inr ⟨rfl, rfl⟩
  | some ends => exact .inl ⟨ends.1, ends.2, rfl, rfl⟩

theorem not_isSettled_of_start {refusal : Option Http.Response}
    (h : start n sent refusal = .settled (.ok v)) : n.isSettled = false := by
  cases refusal with
  | none => cases h
  | some r =>
    rcases take_cases n sent (.ofResponse r) (.asking ⟨n, sent, true⟩) with
      ⟨min, max, -, ht⟩ | ⟨-, ht⟩
    · rw [start, ht] at h
      exact Negotiator.not_isSettled_of_settleText (by simpa using h)
    · rw [start, ht] at h; cases h

theorem eq_of_start_asking {refusal : Option Http.Response}
    (h : start n sent refusal = .asking q) : q = ⟨n, sent, refusal.isSome⟩ := by
  cases refusal with
  | none => cases h; rfl
  | some r =>
    rcases take_cases n sent (.ofResponse r) (.asking ⟨n, sent, true⟩) with
      ⟨min, max, -, ht⟩ | ⟨-, ht⟩
    · rw [start, ht] at h; cases h
    · rw [start, ht] at h; cases h; rfl

theorem not_isSettled_of_resume {answer : Except Error Http.Response}
    (h : q.resume answer = .settled (.ok v)) : q.negotiator.isSettled = false := by
  cases answer with
  | error e => cases h
  | ok r =>
    rcases take_cases q.negotiator q.sent (.ofResponse r) _ with ⟨min, max, -, ht⟩ | ⟨-, ht⟩
    · rw [resume, ht] at h
      exact Negotiator.not_isSettled_of_settleText (by simpa using h)
    · rw [resume, ht] at h
      split at h <;> cases h

/-- The server is asked a second time at most. -/
theorem eq_of_resume_asking {answer : Except Error Http.Response}
    (h : q.resume answer = .asking q') : q.isLast = false ∧ q' = { q with isLast := true } := by
  cases answer with
  | error e => cases h
  | ok r =>
    rcases take_cases q.negotiator q.sent (.ofResponse r) _ with ⟨min, max, -, ht⟩ | ⟨-, ht⟩
    · rw [resume, ht] at h; cases h
    · rw [resume, ht] at h
      split at h
      · cases h
      · next hl => cases h; exact ⟨by simpa using hl, rfl⟩

end Inquiry

end Microversion
