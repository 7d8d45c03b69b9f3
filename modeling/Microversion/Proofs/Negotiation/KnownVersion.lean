import Microversion.Proofs.Client.VersionHeader
import Microversion.Proofs.Negotiation.Range
import Microversion.Proofs.Negotiation.Settled
import Microversion.Proofs.Version.Order

/-! # Agreeing on known versions

A version that is agreed on is one that the client knows exactly if the server's
range begins with one. Only candidates are refused when it does not: the newest
version and a pinned one are raised to the beginning of the range.
-/

namespace Microversion

open Http

/-- A list of candidates is asked for. -/
def Requested.isList : Requested → Bool
  | anyOf _ => true
  | _ => false

namespace Negotiator

variable {n : Negotiator} {sent : Option String} {min max v : Version} {r : Requested}

theorem foldl_some {f : Option Version → Version → Option Version}
    (hf : ∀ b v, f (some b) v = some (Max.max b v)) (vs : List Version) (b : Version) :
    vs.foldl f (some b) = some (vs.foldl Max.max b) := by
  induction vs generalizing b with
  | nil => rfl
  | cons v vs ih => rw [List.foldl_cons, hf, ih, List.foldl_cons]

theorem bestCandidate?_eq (min max : Version) (vs : List Version) :
    bestCandidate? min max vs = (vs.filter fun v => min ≤ v ∧ v ≤ max).max? := by
  unfold bestCandidate?
  cases vs.filter fun v => min ≤ v ∧ v ≤ max with
  | nil => rfl
  | cons v vs => exact foldl_some (fun _ _ => rfl) vs v

theorem bestCandidate?_eq_some_iff {vs : List Version} :
    bestCandidate? min max vs = some v ↔
      (v ∈ vs ∧ min ≤ v ∧ v ≤ max) ∧ ∀ w ∈ vs, min ≤ w → w ≤ max → w ≤ v := by
  rw [bestCandidate?_eq, List.max?_eq_some_iff]
  simp only [List.mem_filter, decide_eq_true_eq, and_imp]

theorem bestCandidate?_eq_none_iff {vs : List Version} :
    bestCandidate? min max vs = none ↔ ∀ w ∈ vs, ¬(min ≤ w ∧ w ≤ max) := by
  rw [bestCandidate?_eq, List.max?_eq_none_iff]
  simp only [List.filter_eq_nil_iff, decide_eq_true_eq]

/-- What is chosen is known exactly if the range begins with a known version. -/
theorem choose?_le_iff (h : choose? min (cap max) r = some v) :
    v ≤ Version.latestKnown ↔ min ≤ Version.latestKnown := by
  cases r with
  | pinned w =>
    obtain rfl := Option.some.inj h
    rw [max_le_iff]
    exact and_iff_right (le_trans (min_le_right _ _) (cap_le max))
  | latest =>
    obtain rfl := Option.some.inj h
    rw [max_le_iff]
    exact and_iff_right (cap_le max)
  | anyOf vs =>
    obtain ⟨w, hw, rfl⟩ := Option.map_eq_some_iff.mp h
    obtain ⟨⟨-, -, hle⟩, -⟩ := bestCandidate?_eq_some_iff.mp hw
    rw [max_le_iff]
    exact and_iff_right (le_trans hle (cap_le max))

/-- When no known version is in the range, candidates are refused and all else is raised. -/
theorem choose?_of_cap_lt (h : cap max < min) (r : Requested) :
    choose? min (cap max) r = if r.isList then none else some min := by
  have hle := le_of_lt h
  cases r with
  | pinned w => exact congrArg some (max_eq_right (le_trans (min_le_right _ _) hle))
  | latest => exact congrArg some (max_eq_right hle)
  | anyOf vs =>
    have hn : bestCandidate? min (cap max) vs = none :=
      bestCandidate?_eq_none_iff.mpr fun w _ hw => absurd (le_trans hw.1 hw.2) (not_le_of_gt h)
    rw [choose?, hn]
    rfl

theorem settle_of_isSettled (h : n.isSettled = true) (sent : Option String) (min max : Version) :
    ∃ reason, n.settle sent min max = .error (.unsupportedVersion reason) := by
  unfold settle
  dsimp only
  split
  · exact ⟨_, rfl⟩
  · next hp =>
    split
    · exact ⟨_, rfl⟩
    · split
      · exact ⟨_, rfl⟩
      · next hn => simp [isSettled, hp, hn] at h

theorem settle_of_not_isSettled (h : n.isSettled = false) (sent : Option String)
    (min max : Version) : n.settle sent min max =
      match choose? min (cap max) n.requested with
      | some v => .ok v
      | none => .error (.unsupportedVersion (.noCandidate n.currentText min (cap max))) := by
  have hp : n.isPinnedByUser = false := by
    cases hp : n.isPinnedByUser <;> simp [isSettled, hp] at h ⊢
  have hn : n.isNegotiated = false := by
    cases hn : n.isNegotiated <;> simp [isSettled, hn] at h ⊢
  cases hc : choose? min (cap max) n.requested <;> simp [settle, overriding?, hp, hn, hc]

section Negotiate

variable {refusal : Option Response} {answers : Nat → Except Error Response}

theorem result_of_readRange (h : readRange refusal answers = .ok (min, max)) (n : Negotiator)
    (sent : Option String) :
    (n.negotiate refusal sent answers).result = n.settle sent min max := by
  rw [result_negotiate, h]
  rfl

theorem readRange_of_result (h : (n.negotiate refusal sent answers).result = .ok v) :
    ∃ min max, readRange refusal answers = .ok (min, max) ∧ n.settle sent min max = .ok v := by
  rw [result_negotiate] at h
  cases hr : readRange refusal answers with
  | error e => rw [hr] at h; cases h
  | ok range => exact ⟨range.1, range.2, rfl, by rwa [hr] at h⟩

/-- A range without a known version is refused by settled negotiators and by candidates; all others
agree on its beginning. -/
theorem result_of_unknown (h : readRange refusal answers = .ok (min, max))
    (hk : cap max < min) (n : Negotiator) (sent : Option String) :
    if n.isSettled || n.requested.isList then
      ∃ reason, (n.negotiate refusal sent answers).result = .error (.unsupportedVersion reason)
    else (n.negotiate refusal sent answers).result = .ok min := by
  rw [result_of_readRange h]
  cases hs : n.isSettled with
  | true => exact settle_of_isSettled hs sent min max
  | false =>
    rw [settle_of_not_isSettled hs, choose?_of_cap_lt hk]
    cases n.requested.isList with
    | true => exact ⟨_, rfl⟩
    | false => rfl

/-- A version that the client does not know is agreed on exactly if the range begins with one and
neither a settled version nor candidates stand against it. -/
theorem unknown_iff : (∃ v, (n.negotiate refusal sent answers).result = .ok v ∧
      ¬v ≤ Version.latestKnown) ↔
    ∃ min max, readRange refusal answers = .ok (min, max) ∧ ¬min ≤ Version.latestKnown ∧
      n.isSettled = false ∧ n.requested.isList = false := by
  constructor
  · rintro ⟨v, hv, hk⟩
    obtain ⟨min, max, hr, hs⟩ := readRange_of_result hv
    have hu := not_isSettled_of_settle hs
    rw [settle_of_not_isSettled hu] at hs
    cases hc : choose? min (cap max) n.requested with
    | none => rw [hc] at hs; cases hs
    | some w =>
      rw [hc] at hs; cases hs
      have hmin : ¬min ≤ Version.latestKnown := fun h => hk ((choose?_le_iff hc).mpr h)
      refine ⟨min, max, hr, hmin, hu, ?_⟩
      rw [choose?_of_cap_lt (lt_of_le_of_lt (cap_le max) (not_le.mp hmin))] at hc
      cases hl : n.requested.isList with
      | false => rfl
      | true => rw [hl] at hc; cases hc
  · rintro ⟨min, max, hr, hmin, hu, hl⟩
    have h := result_of_unknown hr (lt_of_le_of_lt (cap_le max) (not_le.mp hmin)) n sent
    rw [hu, hl] at h
    exact ⟨min, h, hmin⟩

/-- Whether a negotiation agrees on a version that the client knows. -/
theorem knownVersion_negotiate (n : Negotiator) (refusal : Option Response)
    (sent : Option String) (answers : Nat → Except Error Response) :
    ((∃ v, (n.negotiate refusal sent answers).result = .ok v ∧ ¬v ≤ Version.latestKnown) ↔
      ∃ min max, readRange refusal answers = .ok (min, max) ∧ ¬min ≤ Version.latestKnown ∧
        n.isSettled = false ∧ n.requested.isList = false) ∧
    ∀ min max, readRange refusal answers = .ok (min, max) →
      (∀ w, w ≤ Version.latestKnown → ¬(min ≤ w ∧ w ≤ max)) →
      if n.isSettled || n.requested.isList then
        ∃ reason, (n.negotiate refusal sent answers).result = .error (.unsupportedVersion reason)
      else (n.negotiate refusal sent answers).result = .ok min := by
  refine ⟨unknown_iff, ?_⟩
  intro min max hr hk
  exact result_of_unknown hr (cap_lt_iff.mpr hk) n sent

theorem readRange_rangeResponse (status : Nat) (min max : Version) :
    readRange none (fun _ => .ok (Client.rangeResponse status min max)) = .ok (min, max) := by
  simp [readRange, rangeText, answered, Advertised.orElse, Advertised.both?, parseRange,
    Version.parse, Except.bind, Except.map]

/-- The newest version of a server that has none of the known ones is not accepted as a
candidate. -/
theorem knownVersion_negotiate_candidate :
    ∃ reason, ((⟨.anyOf [⟨1, 80⟩], .user⟩ : Negotiator).negotiate none none
      fun _ => .ok (Client.rangeResponse 200 ⟨1, 80⟩ ⟨1, 90⟩)).result =
        .error (.unsupportedVersion reason) :=
  (knownVersion_negotiate ⟨.anyOf [⟨1, 80⟩], .user⟩ none none _).2 ⟨1, 80⟩ ⟨1, 90⟩
    (readRange_rangeResponse 200 ⟨1, 80⟩ ⟨1, 90⟩) (cap_lt_iff.mp (by decide))

/-- The newest version is asked for, and one that the client does not know is agreed on. -/
theorem latest_beyond_known :
    ((⟨.latest, .user⟩ : Negotiator).negotiate none none
      fun _ => .ok (Client.rangeResponse 200 ⟨1, 80⟩ ⟨1, 90⟩)).result = .ok ⟨1, 80⟩ ∧
    ¬(⟨1, 80⟩ : Version) ≤ Version.latestKnown ∧
    ∀ w, w ≤ Version.latestKnown → ¬((⟨1, 80⟩ : Version) ≤ w ∧ w ≤ (⟨1, 90⟩ : Version)) := by
  have hk : cap ⟨1, 90⟩ < (⟨1, 80⟩ : Version) := by decide
  exact ⟨result_of_unknown (readRange_rangeResponse 200 ⟨1, 80⟩ ⟨1, 90⟩) hk ⟨.latest, .user⟩ none,
    by decide, cap_lt_iff.mp hk⟩

end Negotiate

end Negotiator

end Microversion
