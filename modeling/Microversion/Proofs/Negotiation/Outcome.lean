import Microversion.Proofs.Client.VersionHeader
import Microversion.Proofs.Negotiation.KnownVersion

/-! # What a negotiation comes to

From a range with known versions a negotiator that is not settled agrees on the
version of the range that its request leads to. Where the range has been found
makes no difference.
-/

namespace Microversion

open Http

namespace Negotiator

/-- The range of a server is found in the refusal, or in the first answer, or in the answer to the
one further question that follows a response without a complete range. -/
inductive Finds : Option Response → (Nat → Except Error Response) → String × String → Prop where
  | refusal {answers : Nat → Except Error Response} {r : Response} {ends : String × String} :
      (Advertised.ofResponse r).both? = some ends → Finds (some r) answers ends
  | afterRefusal {answers : Nat → Except Error Response} {r r' : Response}
      {ends : String × String} : (Advertised.ofResponse r).both? = none → answers 0 = .ok r' →
      (Advertised.ofResponse r').both? = some ends → Finds (some r) answers ends
  | first {answers : Nat → Except Error Response} {r : Response} {ends : String × String} :
      answers 0 = .ok r → (Advertised.ofResponse r).both? = some ends → Finds none answers ends
  | second {answers : Nat → Except Error Response} {r r' : Response} {ends : String × String} :
      answers 0 = .ok r → (Advertised.ofResponse r).both? = none → answers 1 = .ok r' →
      (Advertised.ofResponse r').both? = some ends → Finds none answers ends

/-- A range is found and both its ends are versions. -/
def Reads (refusal : Option Response) (answers : Nat → Except Error Response)
    (min max : Version) : Prop :=
  ∃ ends, Finds refusal answers ends ∧ Version.parse ends.1 = .ok min ∧
    Version.parse ends.2 = .ok max

/-- The version of a range to which a request leads: a version itself if it lies in the range and
else the end next to it, the newest one, or the newest of the candidates that lie in the range. -/
inductive Meets (min max : Version) : Requested → Version → Prop where
  | within {v : Version} : min ≤ v → v ≤ max → Meets min max (.pinned v) v
  | below {v : Version} : v < min → Meets min max (.pinned v) min
  | above {v : Version} : max < v → Meets min max (.pinned v) max
  | latest : Meets min max .latest max
  | candidate {vs : List Version} {v : Version} : v ∈ vs → min ≤ v → v ≤ max →
      (∀ w ∈ vs, min ≤ w → w ≤ max → w ≤ v) → Meets min max (.anyOf vs) v

section Ranges

variable {refusal : Option Response} {answers : Nat → Except Error Response} {min max : Version}
  {ends : String × String}

theorem orElse_eq_ok_iff {r : Response} {other : Except Error (String × String)} :
    Advertised.orElse r other = .ok ends ↔ (Advertised.ofResponse r).both? = some ends ∨
      (Advertised.ofResponse r).both? = none ∧ other = .ok ends := by
  unfold Advertised.orElse
  cases (Advertised.ofResponse r).both? with
  | none => simp
  | some found => simp

theorem answered_eq_ok_iff {answer : Except Error Response}
    {other : Except Error (String × String)} : answered answer other = .ok ends ↔
      ∃ r, answer = .ok r ∧ ((Advertised.ofResponse r).both? = some ends ∨
        (Advertised.ofResponse r).both? = none ∧ other = .ok ends) := by
  cases answer with
  | error e => simp [answered, Except.bind]
  | ok r => simp [answered, Except.bind, orElse_eq_ok_iff]

theorem answered_noRange_iff {answer : Except Error Response} :
    answered answer noRange = .ok ends ↔
      ∃ r, answer = .ok r ∧ (Advertised.ofResponse r).both? = some ends := by
  simp [answered_eq_ok_iff, noRange]

theorem finds_iff : Finds refusal answers ends ↔ rangeText refusal answers = .ok ends := by
  constructor
  · rintro (h | ⟨hnone, ha, h⟩ | ⟨ha, h⟩ | ⟨ha, hnone, ha', h⟩)
    · exact orElse_eq_ok_iff.mpr (.inl h)
    · exact orElse_eq_ok_iff.mpr (.inr ⟨hnone, answered_noRange_iff.mpr ⟨_, ha, h⟩⟩)
    · exact answered_eq_ok_iff.mpr ⟨_, ha, .inl h⟩
    · exact answered_eq_ok_iff.mpr
        ⟨_, ha, .inr ⟨hnone, answered_noRange_iff.mpr ⟨_, ha', h⟩⟩⟩
  · intro h
    cases refusal with
    | some r =>
      rcases orElse_eq_ok_iff.mp h with h | ⟨hnone, h⟩
      · exact .refusal h
      · obtain ⟨r', ha, h⟩ := answered_noRange_iff.mp h
        exact .afterRefusal hnone ha h
    | none =>
      obtain ⟨r, ha, h | ⟨hnone, h⟩⟩ := answered_eq_ok_iff.mp h
      · exact .first ha h
      · obtain ⟨r', ha', h⟩ := answered_noRange_iff.mp h
        exact .second ha hnone ha' h

theorem parseRange_eq_ok_iff : parseRange ends = .ok (min, max) ↔
    Version.parse ends.1 = .ok min ∧ Version.parse ends.2 = .ok max := by
  unfold parseRange
  cases Version.parse ends.1 with
  | error e => simp [Except.bind]
  | ok v => cases Version.parse ends.2 <;> simp [Except.bind, Except.map]

theorem reads_iff : Reads refusal answers min max ↔
    readRange refusal answers = .ok (min, max) := by
  simp only [Reads, finds_iff, ← parseRange_eq_ok_iff, readRange]
  constructor
  · rintro ⟨ends, htext, hparse⟩
    rw [htext]
    exact hparse
  · intro h
    cases htext : rangeText refusal answers with
    | error e =>
      rw [htext] at h
      cases h
    | ok ends =>
      rw [htext] at h
      exact ⟨ends, rfl, h⟩

end Ranges

section Choice

variable {min max v : Version} {r : Requested}

theorem Meets.mem_range (h : Meets min max r v) (hle : min ≤ max) : min ≤ v ∧ v ≤ max := by
  cases h with
  | within hmin hmax => exact ⟨hmin, hmax⟩
  | below _ => exact ⟨le_rfl, hle⟩
  | above _ => exact ⟨hle, le_rfl⟩
  | latest => exact ⟨hle, le_rfl⟩
  | candidate _ hmin hmax _ => exact ⟨hmin, hmax⟩

theorem meets_pinned (hle : min ≤ max) (p : Version) :
    Meets min max (.pinned p) (Max.max (Min.min p max) min) := by
  rcases lt_or_ge p min with hlt | hmin
  · rw [max_eq_right (le_trans (min_le_left p max) hlt.le)]
    exact .below hlt
  · rcases lt_or_ge max p with hlt | hmax
    · rw [min_eq_right hlt.le, max_eq_left hle]
      exact .above hlt
    · rw [min_eq_left hmax, max_eq_left hmin]
      exact .within hmin hmax

/-- What is chosen from a range is what the request leads to. -/
theorem meets_of_choose? (hle : min ≤ max) (h : choose? min max r = some v) :
    Meets min max r v := by
  cases r with
  | pinned p =>
    obtain rfl := Option.some.inj h
    exact meets_pinned hle p
  | latest =>
    obtain rfl := Option.some.inj h
    rw [max_eq_left hle]
    exact .latest
  | anyOf vs =>
    obtain ⟨w, hw, rfl⟩ := Option.map_eq_some_iff.mp h
    obtain ⟨⟨hmem, hmin, hmax⟩, hbest⟩ := bestCandidate?_eq_some_iff.mp hw
    rw [max_eq_left hmin]
    exact .candidate hmem hmin hmax hbest

/-- Only candidates may all be out of the range. -/
theorem isSome_choose?_iff : (choose? min max r).isSome = true ↔
    ∀ vs, r = .anyOf vs → ∃ w ∈ vs, min ≤ w ∧ w ≤ max := by
  cases r with
  | pinned p => simp [choose?]
  | latest => simp [choose?]
  | anyOf vs =>
    rw [choose?, Option.isSome_map, Option.isSome_iff_ne_none, ne_eq, bestCandidate?_eq_none_iff]
    constructor
    · rintro h vs' ⟨⟩
      simpa using h
    · intro h
      simpa using h vs rfl

theorem isSettled_eq_false_iff {n : Negotiator} : n.isSettled = false ↔
    n.state ≠ .negotiated ∧ ∀ v, n ≠ ⟨.pinned v, .user⟩ := by
  obtain ⟨requested, state⟩ := n
  cases state <;> cases requested <;>
    simp [isSettled, isNegotiated, isPinnedByUser, Requested.requiresDiscovery]

end Choice

section Outcome

variable {refusal : Option Response} {answers : Nat → Except Error Response} {min max : Version}

/-- What a negotiation in a range comes to. -/
structure Concludes (n : Negotiator) (min max : Version) (out : Outcome) : Prop where
  agrees : (∃ v, out.result = .ok v) ↔ n.state ≠ .negotiated ∧ (∀ v, n ≠ ⟨.pinned v, .user⟩) ∧
    ∀ vs, n.requested = .anyOf vs → ∃ w ∈ vs, min ≤ w ∧ w ≤ max
  version : ∀ v, out.result = .ok v → (min ≤ v ∧ v ≤ max) ∧ Meets min max n.requested v ∧
    out.negotiator = ⟨.pinned v, .negotiated⟩
  refuses : (∀ v, out.result ≠ .ok v) →
    (∃ reason, out.result = .error (.unsupportedVersion reason)) ∧ out.negotiator = n

theorem settle_eq_ok_iff {n : Negotiator} {sent : Option String} {v : Version} :
    n.settle sent min max = .ok v ↔
      n.isSettled = false ∧ choose? min (cap max) n.requested = some v := by
  constructor
  · intro h
    have hopen := not_isSettled_of_settle h
    rw [settle_of_not_isSettled hopen] at h
    cases hc : choose? min (cap max) n.requested with
    | none => rw [hc] at h; cases h
    | some w => rw [hc] at h; cases h; exact ⟨hopen, rfl⟩
  · rintro ⟨hopen, hc⟩
    rw [settle_of_not_isSettled hopen, hc]

theorem settle_eq_error {n : Negotiator} {sent : Option String} {e : Error}
    (h : n.settle sent min max = .error e) : ∃ reason, e = .unsupportedVersion reason := by
  cases hs : n.isSettled with
  | true =>
    obtain ⟨reason, hr⟩ := settle_of_isSettled hs sent min max
    rw [hr] at h
    cases h
    exact ⟨reason, rfl⟩
  | false =>
    rw [settle_of_not_isSettled hs] at h
    cases hc : choose? min (cap max) n.requested with
    | none => rw [hc] at h; cases h; exact ⟨_, rfl⟩
    | some v => rw [hc] at h; cases h

theorem concludes_of_settle {n : Negotiator} {sent : Option String} (hle : min ≤ cap max)
    {out : Outcome} (hresult : out.result = n.settle sent min max)
    (hnegotiator : out.negotiator = n.afterResult out.result) :
    Concludes n min (cap max) out where
  agrees := by
    simp only [hresult, settle_eq_ok_iff, exists_and_left, ← Option.isSome_iff_exists,
      isSome_choose?_iff, isSettled_eq_false_iff, and_assoc]
  version := by
    intro v hv
    have hmeets := meets_of_choose? hle (settle_eq_ok_iff.mp (hresult ▸ hv)).2
    refine ⟨hmeets.mem_range hle, hmeets, ?_⟩
    rw [hnegotiator, hv]
    rfl
  refuses := by
    intro hne
    cases hr : out.result with
    | ok v => exact absurd hr (hne v)
    | error e =>
      obtain ⟨reason, rfl⟩ := settle_eq_error (hresult.symm.trans hr)
      refine ⟨⟨reason, rfl⟩, ?_⟩
      rw [hnegotiator, hr]
      rfl

/-- A negotiation that reads a range with known versions comes to what its negotiator, the version
refused and the range say, wherever the range has been found. -/
theorem concludes_of_reads (n : Negotiator) (sent : Option String)
    (h : Reads refusal answers min max) (hle : min ≤ cap max) :
    Concludes n min (cap max) (n.negotiate refusal sent answers) ∧
      ∀ refusal' answers', Reads refusal' answers' min max →
        (n.negotiate refusal' sent answers').result = (n.negotiate refusal sent answers).result ∧
        (n.negotiate refusal' sent answers').negotiator =
          (n.negotiate refusal sent answers).negotiator := by
  have hresult := result_of_readRange (reads_iff.mp h) n sent
  refine ⟨concludes_of_settle hle hresult rfl, ?_⟩
  intro refusal' answers' h'
  have hsame : (n.negotiate refusal' sent answers').result =
      (n.negotiate refusal sent answers).result := by
    rw [hresult, result_of_readRange (reads_iff.mp h')]
  exact ⟨hsame, congrArg n.afterResult hsame⟩

/-- The range comes with the answer to a further question, after a refusal that did not tell it. -/
theorem concludes_of_reads_candidates :
    let n : Negotiator := ⟨.anyOf [⟨1, 9⟩, ⟨1, 40⟩, ⟨1, 31⟩, ⟨1, 80⟩, ⟨1, 31⟩], .user⟩
    let refusal : Option Response := some ⟨406, .empty, []⟩
    let answers := fun _ => .ok (Client.rangeResponse 200 ⟨1, 20⟩ ⟨1, 35⟩)
    Reads refusal answers ⟨1, 20⟩ ⟨1, 35⟩ ∧ (⟨1, 20⟩ : Version) ≤ cap ⟨1, 35⟩ ∧
      Concludes n ⟨1, 20⟩ (cap ⟨1, 35⟩) (n.negotiate refusal none answers) ∧
      (n.negotiate refusal none answers).result = .ok ⟨1, 31⟩ := by
  intro n refusal answers
  have hreads : Reads refusal answers ⟨1, 20⟩ ⟨1, 35⟩ := by
    refine ⟨("1.20", "1.35"), .afterRefusal rfl rfl ?_, rfl, rfl⟩
    rw [Client.ofResponse_rangeResponse]
    rfl
  have hle : (⟨1, 20⟩ : Version) ≤ cap ⟨1, 35⟩ := by decide
  refine ⟨hreads, hle, (concludes_of_reads n none hreads hle).1, ?_⟩
  rw [result_of_readRange (reads_iff.mp hreads)]
  decide

end Outcome

end Negotiator

end Microversion
