import Microversion.Proofs.Client.Convergence
import Microversion.Proofs.Client.Dialogue

/-! # How calls end

A call ends with what it has heard last. Its response is the answer to its last
request and no failure. A fault names the last request that was answered, be it
one of the caller or one for the range of the server, and the answer to it.
-/

namespace Microversion

open Http

namespace Error

/-- The failed exchange that the error tells of. -/
def fault? : Error → Option Fault
  | http fault => some fault
  | _ => none

theorem fault?_of_parse {text : String} {e : Error} (h : Version.parse text = .error e) :
    e.fault? = none := by
  unfold Version.parse at h
  split at h <;> cases h
  rfl

end Error

theorem Negotiator.fault?_of_settle {n : Negotiator} {sent : Option String} {min max : Version}
    {e : Error} (h : n.settle sent min max = .error e) : e.fault? = none := by
  unfold settle at h
  dsimp only at h
  split at h
  · cases h; rfl
  · split at h
    · cases h; rfl
    · split at h
      · cases h; rfl
      · split at h <;> cases h
        rfl

theorem Negotiator.fault?_of_settleText {n : Negotiator} {sent : Option String}
    {min max : String} {e : Error} (h : n.settleText sent min max = .error e) :
    e.fault? = none := by
  unfold settleText at h
  split at h
  · next hp =>
    cases h
    exact Error.fault?_of_parse hp
  · split at h
    · next hp =>
      cases h
      exact Error.fault?_of_parse hp
    · exact fault?_of_settle h

namespace Inquiry

theorem fault?_of_start {n : Negotiator} {sent : Option String} {refusal : Option Response}
    {e : Error} (h : start n sent refusal = .settled (.error e)) : e.fault? = none := by
  cases refusal with
  | none => cases h
  | some r =>
    rcases take_cases n sent (.ofResponse r) (.asking ⟨n, sent, true⟩) with
      ⟨min, max, -, ht⟩ | ⟨-, ht⟩
    · rw [start, ht] at h
      exact Negotiator.fault?_of_settleText (Progress.settled.inj h)
    · rw [start, ht] at h
      cases h

theorem fault?_of_resume {q : Inquiry} {r : Response} {e : Error}
    (h : q.resume (.ok r) = .settled (.error e)) : e.fault? = none := by
  rcases take_cases q.negotiator q.sent (.ofResponse r) _ with ⟨min, max, -, ht⟩ | ⟨-, ht⟩
  · rw [resume, ht] at h
    exact Negotiator.fault?_of_settleText (Progress.settled.inj h)
  · rw [resume, ht] at h
    split at h <;> cases h
    rfl

end Inquiry

namespace Fault

/-- The fault names the request, and the status of the answer to it. -/
def IsOf (f : Fault) (q : Request) (r : Response) : Prop :=
  f.status = r.status ∧ f.method = q.method ∧ f.url = q.target

theorem isOf_addJson {f : Fault} {q : Request} {r : Response} (h : f.IsOf q r) (body : String) :
    (f.addJson body).IsOf q r := by
  unfold addJson
  split
  · exact h
  · exact h

theorem isOf_ofResponse (q : Request) (r : Response) :
    (ofResponse r q.method q.target).IsOf q r := by
  have h : { ofStatus r.status q.method q.target with
      requestId := requestId? r
      retryAfter := retryAfter? r }.IsOf q r := ⟨rfl, rfl, rfl⟩
  unfold ofResponse
  dsimp only
  split
  · exact isOf_addJson h _
  · exact h
  · exact h

end Fault

namespace Client

/-- The session gives the status of an answer as an error of its own. -/
def Signal.isFault : Signal → Bool
  | .answer (.error e) => e.fault?.isSome
  | _ => false

/-- Why the answer to a request ends an attempt that has followed so many redirects. -/
inductive Unserved (followed : Nat) (r : Response) : Prop where
  | error : 400 ≤ r.status → r.status ≠ 406 → Unserved followed r
  | choice : r.status = 300 → Unserved followed r
  | lost : isRedirect r.status = true → r.header? "location" = none → Unserved followed r
  | circling : isRedirect r.status = true → maxRedirects ≤ followed → Unserved followed r

theorem Unserved.ne_refusal {followed : Nat} {r : Response} (h : Unserved followed r) :
    r.status ≠ 406 := by
  intro h406
  cases h with
  | error _ hne => exact hne h406
  | choice h300 => omega
  | lost hr => simp [isRedirect, h406] at hr
  | circling hr => simp [isRedirect, h406] at hr

namespace Task

/-- What a task that waits like this can come to. -/
inductive Yields (c : Client) (t : Task) : Signal → Except Error Reply → Prop where
  | response {o : Order} {x : Exchange} {r : Response} : t.job = .send o →
      t.phase = .exchanging x → isFailure r.status = false →
      Yields c t (.answer (.ok r)) (.ok (.response r))
  | version {signal : Signal} (text : String) : t.job = .agree →
      Yields c t signal (.ok (.version text))
  | fault {o : Order} {x : Exchange} {r : Response} {f : Fault} : t.job = .send o →
      t.phase = .exchanging x → f.IsOf (request c o x) r → Unserved x.redirects r →
      Yields c t (.answer (.ok r)) (.error (.http f))
  | unheard {purpose : Purpose} {q : Inquiry} {r : Response} : t.phase = .asking purpose q →
      400 ≤ r.status → r.status ≠ 406 →
      Yields c t (.answer (.ok r)) (.error (.http (.ofResponse r "GET" (discoveryTarget q.major))))
  | failure {signal : Signal} {e : Error} : e.fault? = none → Yields c t signal (.error e)

variable {c : Client} {token : Option String} {t : Task} {n : Negotiator} {signal : Signal}
  {p : Progress} {result result' : Except Error Reply}

theorem eq_of_endAttempt (h : (t.endAttempt c n result').task.phase = .finished result) :
    result' = result := by
  rcases phase_endAttempt c t n result' with he | ⟨-, he⟩
  · rw [he] at h
    cases h
    rfl
  · rw [he] at h
    cases h

theorem yields_of_firstExchange (u : Task) {o : Order}
    (h : (u.firstExchange c token n o).task.phase = .finished result) :
    Yields c t signal result := by
  unfold firstExchange at h
  split at h
  · next e he =>
    obtain ⟨text, -, -, rfl⟩ := unusable_of_requestHeaders he
    obtain rfl := eq_of_endAttempt h
    exact .failure rfl
  · cases h

theorem yields_of_withVersion {purpose : Purpose} {version : String}
    (h : (t.withVersion c token n purpose version).task.phase = .finished result) :
    Yields c t signal result := by
  unfold withVersion at h
  split at h
  · cases h
  · exact yields_of_firstExchange t h
  · next hj =>
    obtain rfl := eq_of_endAttempt h
    exact .version version hj

theorem yields_of_negotiate {purpose : Purpose} {ip : Inquiry.Progress}
    (he : ∀ e, ip = .settled (.error e) → Yields c t signal (.error e))
    (h : (t.negotiate c token n purpose ip).task.phase = .finished result) :
    Yields c t signal result := by
  unfold negotiate at h
  split at h
  · next e =>
    obtain rfl := eq_of_endAttempt h
    exact he e rfl
  · exact yields_of_withVersion h
  · split at h
    · next e hd =>
      obtain ⟨text, -, -, rfl⟩ := unusable_of_discoveryRequest hd
      obtain rfl := eq_of_endAttempt h
      exact .failure rfl
    · cases h

theorem yields_of_locked {purpose : Purpose}
    (h : (t.locked c token n purpose).task.phase = .finished result) :
    Yields c t signal result := by
  unfold locked at h
  split at h <;> split at h
  · exact yields_of_negotiate (fun e he => .failure (Inquiry.fault?_of_start he)) h
  · exact yields_of_withVersion h
  · exact yields_of_withVersion h
  · exact yields_of_negotiate (fun e he => .failure (Inquiry.fault?_of_start he)) h
  · exact yields_of_withVersion h
  · exact yields_of_negotiate (fun e he => .failure (Inquiry.fault?_of_start he)) h

theorem yields_of_resume {purpose : Purpose} {q : Inquiry} {answer : Except Error Response}
    {e : Error} (hp : t.phase = .asking purpose q) (ha : (Signal.answer answer).isFault = false)
    (h : q.resume (checkDiscovery q.major answer) = .settled (.error e)) :
    Yields c t (.answer answer) (.error e) := by
  cases answer with
  | error e' =>
    cases h
    refine .failure ?_
    simpa [Signal.isFault] using ha
  | ok r =>
    unfold checkDiscovery at h
    dsimp only at h
    split at h
    · next hs =>
      cases h
      exact .unheard hp hs.1 hs.2
    · exact .failure (Inquiry.fault?_of_resume h)

theorem yields_of_redirect {o : Order} {x : Exchange} {r : Response} (hj : t.job = .send o)
    (hp : t.phase = .exchanging x) (hr : isRedirect r.status = true)
    (h : (t.redirect c n o x r).task.phase = .finished result) :
    Yields c t (.answer (.ok r)) result := by
  unfold redirect at h
  split at h
  · next hl =>
    obtain rfl := eq_of_endAttempt h
    refine .fault hj hp ?_ (.lost hr hl)
    exact Fault.isOf_ofResponse (request c o x) r
  · split at h
    · next e he =>
      obtain rfl := eq_of_endAttempt h
      refine .failure ?_
      unfold redirectTarget at he
      split at he
      · cases he; rfl
      · split at he <;> cases he
        rfl
    · cases h

theorem yields_of_received {o : Order} {x : Exchange} {r : Response} (hj : t.job = .send o)
    (hp : t.phase = .exchanging x) (h : (t.received c n o x r).task.phase = .finished result) :
    Yields c t (.answer (.ok r)) result := by
  unfold received at h
  split at h
  · cases h
  · next h406 =>
    split at h
    · next hr => exact yields_of_redirect hj hp hr.1 h
    · next hr =>
      split at h
      · next hf =>
        obtain rfl := eq_of_endAttempt h
        refine .fault hj hp (Fault.isOf_ofResponse (request c o x) r) ?_
        simp only [isFailure, Bool.or_eq_true, decide_eq_true_eq, beq_iff_eq] at hf
        rcases hf with (hf | hf) | hf
        · exact .error hf h406
        · exact .choice hf
        · exact .circling hf (Nat.le_of_not_lt fun hlt => hr ⟨hf, hlt⟩)
      · next hf =>
        obtain rfl := eq_of_endAttempt h
        exact .response hj hp (by simpa using hf)

/-- A task comes to what its last answer says, unless it fails for a reason of its own. -/
theorem yields_of_step (h : t.step c token n signal = some p) (hs : signal.isFault = false)
    (hp : p.task.phase = .finished result) : Yields c t signal result := by
  -- why an attempt fails is no part of its turn, so the step itself is opened
  unfold step at h
  split at h
  · cases h
    exact yields_of_locked hp
  · next hph =>
    cases h
    exact yields_of_negotiate (fun e he => yields_of_resume hph hs he) hp
  · cases h
    obtain rfl := eq_of_endAttempt hp
    exact .failure (by simpa [Signal.isFault] using hs)
  · next hph hj =>
    cases h
    exact yields_of_received hj hph hp
  · cases h
    unfold beginAttempt at hp
    split at hp
    · cases hp
    · split at hp
      · cases hp
      · exact yields_of_firstExchange _ hp
  · cases h

/-- A task that waits for the range of the server has asked for it last. -/
theorem Turn.said_of_asking (h : Turn c token n t signal p) {purpose : Purpose} {q : Inquiry}
    (hp : p.task.phase = .asking purpose q) : ∃ r ∈ p.discoveries, p.said = [.asked r] := by
  cases h with
  | @ask _ r => exact ⟨r, List.mem_singleton_self r, rfl⟩
  | @askAgain _ _ r => exact ⟨r, List.mem_singleton_self r, rfl⟩
  | fail e => exact absurd hp (phase_endAttempt_ne_asking _)
  | answer => exact absurd hp (phase_endAttempt_ne_asking _)
  | tell => exact absurd hp (phase_endAttempt_ne_asking _)
  | agreeTell => exact absurd hp (phase_endAttempt_ne_asking _)
  | agreeFail => exact absurd hp (phase_endAttempt_ne_asking _)
  | _ => cases hp

theorem asks_of_step (hf : t.Fits) (h : t.step c token n signal = some p) {purpose : Purpose}
    {q : Inquiry} (hp : p.task.phase = .asking purpose q) :
    ∃ r, c.discoveryRequest token q.major = .ok r ∧ p.said = [.asked r] := by
  obtain ⟨r, hr, hsaid⟩ := (turn_of_step hf h).said_of_asking hp
  obtain ⟨purpose', q', hp', hd⟩ := discovery_of_step h hr
  rw [hp] at hp'
  cases hp'
  exact ⟨r, hd, hsaid⟩

theorem phase_endAttempt_ne_exchanging (u : Task) {x : Exchange} :
    (u.endAttempt c n result).task.phase ≠ .exchanging x := by
  rcases phase_endAttempt c u n result with he | ⟨-, he⟩ <;> rw [he] <;> rintro ⟨⟩

/-- A task that waits for the answer to its request has sent it last. -/
theorem Turn.said_of_exchanging (h : Turn c token n t signal p) {o : Order} {x : Exchange}
    (hj : t.job = .send o) (hp : p.task.phase = .exchanging x) :
    p.said = [.sent (request c o x)] := by
  cases h with
  | fail e => exact absurd hp (phase_endAttempt_ne_exchanging _)
  | answer => exact absurd hp (phase_endAttempt_ne_exchanging _)
  | tell => exact absurd hp (phase_endAttempt_ne_exchanging _)
  | agreeTell => exact absurd hp (phase_endAttempt_ne_exchanging _)
  | agreeFail => exact absurd hp (phase_endAttempt_ne_exchanging _)
  | redirect target hj' => rw [hj] at hj'; cases hj'; cases hp; rfl
  | first hj' => rw [hj] at hj'; cases hj'; cases hp; rfl
  | adopt hj' => rw [hj] at hj'; cases hj'; cases hp; rfl
  | agreeFirst v hj' => rw [hj] at hj'; cases hj'; cases hp; rfl
  | agreeResend v hj' => rw [hj] at hj'; cases hj'; cases hp; rfl
  | _ => cases hp

theorem said_endAttempt (u : Task) (n : Negotiator) (result : Except Error Reply) :
    (u.endAttempt c n result).said = [] := by
  rcases endAttempt_cases c u n result with he | ⟨o, e, -, -, -, he⟩ <;> rw [he] <;> rfl

/-- A task that has ended says no more. -/
theorem Turn.said_of_finished (h : Turn c token n t signal p)
    (hp : p.task.phase = .finished result) : p.said = [] := by
  cases h with
  | fail e => exact said_endAttempt _ _ _
  | answer => exact said_endAttempt _ _ _
  | tell => exact said_endAttempt _ _ _
  | agreeTell => exact said_endAttempt _ _ _
  | agreeFail => exact said_endAttempt _ _ _
  | _ => cases hp

end Task

/-- What a result tells of what its call has said and heard, in all and in its last attempt. -/
def Reports (job : Job) (whole last : List Utterance) : Except Error Reply → Prop
  | .ok (.response r) => r.status < 400 ∧ r.status ≠ 300 ∧ isRedirect r.status = false ∧
      ∃ q, [.sent q, .answered (.ok r)] <:+ whole
  | .ok (.version _) => job = .agree
  | .error (.http f) => f.status ≠ 406 ∧ ∃ q r, f.IsOf q r ∧
      ([.asked q, .told (.ok r)] <:+ whole ∧ 400 ≤ r.status ∨
        [.sent q, .answered (.ok r)] <:+ whole ∧ ∃ before,
          last = before ++ [.sent q, .answered (.ok r)] ∧
            Unserved (before.countP Utterance.isRedirect) r)
  | .error _ => True

theorem isSuffix_concat {d : List Utterance} {u : Utterance} (h : [u] <:+ d) (v : Utterance) :
    [u, v] <:+ d ++ [v] := by
  obtain ⟨d, rfl⟩ := h
  exact ⟨d, by rw [List.append_assoc]; rfl⟩

theorem reports_response {job : Job} {whole last : List Utterance} {q : Request} {r : Response}
    (hq : [.sent q] <:+ whole) (hr : isFailure r.status = false) :
    Reports job (whole ++ [.answered (.ok r)]) last (.ok (.response r)) := by
  simp only [isFailure, Bool.or_eq_false_iff, decide_eq_false_iff_not, beq_eq_false_iff_ne] at hr
  exact ⟨Nat.lt_of_not_le hr.1.1, hr.1.2, hr.2, q, isSuffix_concat hq _⟩

theorem reports_fault {job : Job} {whole before : List Utterance} {q : Request} {r : Response}
    {f : Fault} (hq : [.sent q] <:+ whole) (hf : f.IsOf q r)
    (hr : Unserved (before.countP Utterance.isRedirect) r) :
    Reports job (whole ++ [.answered (.ok r)]) (before ++ [.sent q, .answered (.ok r)])
      (.error (.http f)) :=
  ⟨hf.1 ▸ hr.ne_refusal, q, r, hf, .inr ⟨isSuffix_concat hq _, before, rfl, hr⟩⟩

theorem reports_unheard {job : Job} {whole last : List Utterance} {q : Request} {r : Response}
    {f : Fault} (hq : [.asked q] <:+ whole) (hf : f.IsOf q r) (hr : 400 ≤ r.status)
    (h406 : r.status ≠ 406) :
    Reports job (whole ++ [.told (.ok r)]) last (.error (.http f)) :=
  ⟨hf.1 ▸ h406, q, r, hf, .inl ⟨isSuffix_concat hq _, hr⟩⟩

theorem reports_failure {job : Job} {whole last : List Utterance} {e : Error}
    (he : e.fault? = none) : Reports job whole last (.error e) := by
  cases e with
  | http f => cases he
  | _ => trivial

theorem names_discoveryRequest {c : Client} {token : Option String} {major : UInt32} {q : Request}
    (h : c.discoveryRequest token major = .ok q) :
    q.method = "GET" ∧ q.target = discoveryTarget major := by
  unfold discoveryRequest at h
  cases hw : withCredentials token .empty with
  | error e =>
    rw [hw] at h
    cases h
  | ok headers =>
    rw [hw] at h
    cases h
    exact ⟨rfl, rfl⟩

namespace System

variable {c : Client} {ms : List Move} {s : System} {m : Move} {k : Nat}

/-- What a call has said last when it waits for an answer, and heard last when it has ended. -/
structure Recalls (c : Client) (k : Nat) (ms : List Move) (s : System) : Prop where
  asked : ∀ (t : Task) (purpose : Purpose) (q : Inquiry), s.tasks[k]? = some t →
    t.phase = .asking purpose q → ∃ token r, c.discoveryRequest token q.major = .ok r ∧
      [.asked r] <:+ dialogue (Move.isOf k) ms
  sent : ∀ (t : Task) (o : Order) (x : Exchange), s.tasks[k]? = some t → t.job = .send o →
    t.phase = .exchanging x → [.sent (Task.request c o x)] <:+ dialogue (Move.isOf k) ms
  finished : ∀ (t : Task) (result : Except Error Reply), s.tasks[k]? = some t →
    t.phase = .finished result →
    Reports t.job (dialogue (Move.isOf k) ms) (exchanges k t.attempt ms) result

theorem recalls_idle (c : Client) (k : Nat) : Recalls c k [] (.idle c.start) where
  asked t purpose q h := by simp [idle] at h
  sent t o x h := by simp [idle] at h
  finished t result h := by simp [idle] at h

theorem dialogue_self (ms : List Move) (m : Move) :
    dialogue (Move.isOf m.number) (ms ++ [m]) =
      dialogue (Move.isOf m.number) ms ++ (m.before.phase.heard m.signal ++ m.progress.said) := by
  rw [dialogue_concat, if_pos (by simp [Move.isOf])]
  rfl

/-- Only a call in progress hears something. -/
theorem Makes.getElem?_before (hm : Makes c s m) (h : m.before.phase ≠ .pausing) :
    s.tasks[m.number]? = some m.before := by
  rcases hm.origin with ho | ⟨-, job, ho⟩
  · exact ho
  · rw [ho] at h
    exact absurd rfl h

theorem Recalls.reports {result : Except Error Reply} (hc : Recalls c m.number ms s)
    (hr : Reaches c ms s) (hm : Makes c s m) (hs : m.signal.isFault = false)
    (hp : m.progress.task.phase = .finished result) :
    Reports m.progress.task.job (dialogue (Move.isOf m.number) (ms ++ [m]))
      (exchanges m.number m.attempt (ms ++ [m])) result := by
  have turn := hr.sound.turn hm
  have hy := Task.yields_of_step hm.step hs hp
  have trail := (hr.traces.before hr hm).2
  rw [dialogue_self, exchanges_self, Move.utterances, turn.said_of_finished hp, List.append_nil]
  generalize m.signal = signal at hy ⊢
  cases hy with
  | response hj hph hf =>
    have hb := hm.getElem?_before (by rw [hph]; rintro ⟨⟩)
    rw [hph]
    exact reports_response (hc.sent _ _ _ hb hj hph) hf
  | version text hj => exact turn.job_eq.trans hj
  | fault hj hph hf hu =>
    have hb := hm.getElem?_before (by rw [hph]; rintro ⟨⟩)
    have hq := hc.sent _ _ _ hb hj hph
    -- the trail of the attempt knows how many redirects it has followed
    rw [hj, hph] at trail
    rw [hph]
    generalize exchanges m.number m.attempt ms = us at trail ⊢
    cases trail with
    | sent hle hx =>
      rw [List.append_assoc]
      exact reports_fault hq hf (hx ▸ hu)
  | unheard hph hle h406 =>
    have hb := hm.getElem?_before (by rw [hph]; rintro ⟨⟩)
    obtain ⟨token, q, hd, hq⟩ := hc.asked _ _ _ hb hph
    obtain ⟨hmethod, htarget⟩ := names_discoveryRequest hd
    rw [hph, ← hmethod, ← htarget]
    exact reports_unheard hq (Fault.isOf_ofResponse q _) hle h406
  | failure he => exact reports_failure he

theorem Recalls.after (hc : Recalls c k ms s) (hr : Reaches c ms s) (hm : Makes c s m)
    (hs : m.number = k → m.signal.isFault = false) : Recalls c k (ms ++ [m]) (s.after m) := by
  by_cases hk : k = m.number
  · subst hk
    have htask : (s.after m).tasks[m.number]? = some m.progress.task := by
      rw [getElem?_tasks_after hm.number_le, if_pos rfl]
    constructor
    case asked =>
      intro t purpose q ht hp
      rw [htask] at ht
      cases ht
      obtain ⟨r, hd, hsaid⟩ := Task.asks_of_step (hr.sound.fits_before hm) hm.step hp
      rw [dialogue_self, hsaid]
      exact ⟨_, r, hd, List.suffix_append_of_suffix (List.suffix_append _ _)⟩
    case sent =>
      intro t o x ht hj hp
      rw [htask] at ht
      cases ht
      have turn := hr.sound.turn hm
      rw [dialogue_self, turn.said_of_exchanging (turn.job_eq ▸ hj) hp]
      exact List.suffix_append_of_suffix (List.suffix_append _ _)
    case finished =>
      intro t result ht hp
      rw [htask] at ht
      cases ht
      exact hc.reports hr hm (hs rfl) hp
  · have htask : (s.after m).tasks[k]? = s.tasks[k]? := by
      rw [getElem?_tasks_after hm.number_le, if_neg hk]
    have hd : dialogue (Move.isOf k) (ms ++ [m]) = dialogue (Move.isOf k) ms := by
      rw [dialogue_concat, if_neg (by simp [Move.isOf, Ne.symm hk]), List.append_nil]
    constructor
    case asked => rw [htask, hd]; exact hc.asked
    case sent => rw [htask, hd]; exact hc.sent
    case finished =>
      intro t result ht hp
      rw [htask] at ht
      rw [hd, exchanges_concat_of_not (by simp [Move.isIn, Ne.symm hk])]
      exact hc.finished t result ht hp

theorem Reaches.recalls (h : Reaches c ms s)
    (hs : ∀ m ∈ ms, m.number = k → m.signal.isFault = false) : Recalls c k ms s := by
  induction h with
  | idle => exact recalls_idle c k
  | move hr hm ih =>
    have ih := ih fun m' hm' => hs m' (List.mem_append_left _ hm')
    exact ih.after hr hm (hs _ (List.mem_append_right _ (List.mem_singleton_self _)))

/-- A call ends with what the session has answered last. -/
theorem reports_of_run {es : List Event} {t : Task} {result : Except Error Reply}
    (h : run c (.idle c.start) es = some s) (ht : s.tasks[k]? = some t)
    (hd : t.result? = some result)
    (hs : ∀ m ∈ history c (.idle c.start) es, m.number = k → m.signal.isFault = false) :
    Reports t.job (dialogue (Move.isOf k) (history c (.idle c.start) es))
      (exchanges k t.attempt (history c (.idle c.start) es)) result := by
  have hc := (reaches_of_run h).recalls hs
  refine hc.finished t result ht ?_
  unfold Task.result? at hd
  split at hd <;> cases hd
  assumption

/-- A refusal without a range is followed by a question, and that by a redirect to nowhere. -/
def lostRun : List Event :=
  [.call none (.send ⟨"PUT", "/v1/nodes", .empty, none⟩),
    .signal none 0 (.answer (.ok ⟨406, .empty, []⟩)), .signal none 0 .lock,
    .signal none 0 (.answer (.ok (rangeResponse 200 ⟨1, 1⟩ ⟨1, 5⟩))),
    .signal none 0 (.answer (.ok ⟨302, .empty, []⟩))]

theorem reports_of_lostRun :
    (∀ m ∈ history (plain ⟨.pinned .initial, .default⟩)
        (.idle ⟨.pinned .initial, .default⟩) lostRun,
      m.number = 0 → m.signal.isFault = false) ∧
    ∃ s t f, run (plain ⟨.pinned .initial, .default⟩) (.idle ⟨.pinned .initial, .default⟩)
        lostRun = some s ∧ s.tasks[0]? = some t ∧ t.result? = some (.error (.http f)) ∧
      (f.status, f.method, f.url) = (302, "PUT", "/v1/nodes") ∧
      Reports t.job
        (dialogue (Move.isOf 0) (history (plain ⟨.pinned .initial, .default⟩)
          (.idle ⟨.pinned .initial, .default⟩) lostRun))
        (exchanges 0 t.attempt (history (plain ⟨.pinned .initial, .default⟩)
          (.idle ⟨.pinned .initial, .default⟩) lostRun)) (.error (.http f)) := by
  have hs : ∀ m ∈ history (plain ⟨.pinned .initial, .default⟩)
      (.idle ⟨.pinned .initial, .default⟩) lostRun, m.number = 0 → m.signal.isFault = false := by
    decide +kernel
  obtain ⟨s, hr, t, ht, f, hd, hf⟩ :
      ∃ s, run (plain ⟨.pinned .initial, .default⟩) (.idle ⟨.pinned .initial, .default⟩)
        lostRun = some s ∧ ∃ t, s.tasks[0]? = some t ∧ ∃ f, t.result? = some (.error (.http f)) ∧
        (f.status, f.method, f.url) = (302, "PUT", "/v1/nodes") :=
    ⟨_, rfl, _, rfl, _, rfl, rfl⟩
  exact ⟨hs, s, t, f, hr, ht, hd, hf, reports_of_run hr ht hd hs⟩

end System

end Client

end Microversion
