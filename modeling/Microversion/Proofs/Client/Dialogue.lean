import Microversion.Proofs.Client.Outgoing

/-! # Dialogues with the session

What a call says to the session and what it hears, in the order of both. Within an
attempt the first request of the caller goes to the target of the call. Each later
one directly follows a refusal, and goes to the same target again, or it directly
follows a redirect and goes where that leads.
-/

namespace Microversion.Client

open Http

/-- What passes between a call and the session. -/
inductive Utterance where
  /-- The call asks for the range of the server. -/
  | asked (r : Request)
  | told (answer : Except Error Response)
  /-- The call sends a request of its caller. -/
  | sent (r : Request)
  | answered (answer : Except Error Response)

namespace Utterance

/-- It belongs to a request of the caller. -/
def isExchange : Utterance → Bool
  | sent _ => true
  | answered _ => true
  | _ => false

def isRedirect : Utterance → Bool
  | answered (.ok r) => Client.isRedirect r.status
  | _ => false

section IsExchange

variable (r : Request) (a : Except Error Response)

@[simp] theorem isExchange_asked : (asked r).isExchange = false := rfl

@[simp] theorem isExchange_told : (told a).isExchange = false := rfl

@[simp] theorem isExchange_sent : (sent r).isExchange = true := rfl

@[simp] theorem isExchange_answered : (answered a).isExchange = true := rfl

end IsExchange

end Utterance

def Effect.utterance? : Effect → Option Utterance
  | discover r => some (.asked r)
  | send r => some (.sent r)
  | _ => none

/-- What a task that waits like this hears by a signal. -/
def Phase.heard : Phase → Signal → List Utterance
  | asking _ _, .answer a => [.told a]
  | exchanging _, .answer a => [.answered a]
  | _, _ => []

/-- What is said on the way. -/
def Progress.said (p : Progress) : List Utterance := p.effects.filterMap Effect.utterance?

def Move.utterances (m : Move) : List Utterance :=
  m.before.phase.heard m.signal ++ m.progress.said

/-- What is said and heard in those of the moves that count. -/
def dialogue (counts : Move → Bool) (ms : List Move) : List Utterance :=
  (ms.filter counts).flatMap Move.utterances

/-- The requests of the caller that an attempt sends, with what is answered to them. -/
def exchanges (k : Nat) (a : UInt32) (ms : List Move) : List Utterance :=
  (dialogue (Move.isIn k a) ms).filter Utterance.isExchange

section Dialogue

variable {counts : Move → Bool} {ms : List Move} {m : Move}

theorem dialogue_concat (counts : Move → Bool) (ms : List Move) (m : Move) :
    dialogue counts (ms ++ [m]) =
      dialogue counts ms ++ if counts m then m.utterances else [] := by
  simp only [dialogue, List.filter_append, List.flatMap_append, List.filter_cons, List.filter_nil]
  split <;> simp

theorem dialogue_eq_nil (h : ∀ m ∈ ms, counts m = false) : dialogue counts ms = [] := by
  have hf : ms.filter counts = [] := List.filter_eq_nil_iff.mpr fun m hm => by simp [h m hm]
  rw [dialogue, hf, List.flatMap_nil]

theorem exchanges_self (ms : List Move) (m : Move) :
    exchanges m.number m.attempt (ms ++ [m]) =
      exchanges m.number m.attempt ms ++ m.utterances.filter Utterance.isExchange := by
  have hc : m.isIn m.number m.attempt = true := by simp [Move.isIn]
  rw [exchanges, dialogue_concat, hc, if_pos rfl, List.filter_append]
  rfl

theorem exchanges_concat_of_not {k : Nat} {a : UInt32} (h : m.isIn k a = false) :
    exchanges k a (ms ++ [m]) = exchanges k a ms := by
  rw [exchanges, dialogue_concat, h]
  simp [exchanges]

end Dialogue

namespace Progress

theorem filter_said (p : Progress) :
    p.said.filter Utterance.isExchange = p.sent.map Utterance.sent := by
  obtain ⟨t, n, effects⟩ := p
  simp only [said, sent]
  induction effects with
  | nil => rfl
  | cons e es ih =>
    cases e with
    | send r =>
      simp only [List.filterMap_cons, Effect.utterance?, Effect.sent?, List.map_cons,
        List.filter_cons, Utterance.isExchange_sent, if_true, ih]
    | discover r =>
      simpa only [List.filterMap_cons, Effect.utterance?, Effect.sent?, List.filter_cons,
        Utterance.isExchange_asked, Bool.false_eq_true, if_false] using ih
    | _ => exact ih

end Progress

namespace Phase

/-- The answer to a request of the caller that the signal brings. -/
def taken (phase : Phase) (signal : Signal) : List Utterance :=
  (phase.heard signal).filter Utterance.isExchange

@[simp] theorem taken_locking (purpose : Purpose) (signal : Signal) :
    (locking purpose).taken signal = [] := by
  cases signal <;> rfl

@[simp] theorem taken_asking (purpose : Purpose) (q : Inquiry) (signal : Signal) :
    (asking purpose q).taken signal = [] := by
  cases signal <;> rfl

@[simp] theorem taken_exchanging (x : Exchange) (a : Except Error Response) :
    (exchanging x).taken (.answer a) = [.answered a] := rfl

@[simp] theorem taken_pausing (signal : Signal) : pausing.taken signal = [] := by
  cases signal <;> rfl

theorem not_sent_mem_taken (phase : Phase) (signal : Signal) (r : Request) :
    .sent r ∉ phase.taken signal := by
  intro h
  have hr := (List.mem_filter.mp h).1
  cases phase <;> cases signal <;> simp [heard] at hr

end Phase

theorem Move.filter_utterances (m : Move) :
    m.utterances.filter Utterance.isExchange =
      m.before.phase.taken m.signal ++ m.progress.sent.map Utterance.sent := by
  rw [utterances, List.filter_append, Progress.filter_said]
  rfl

/-- A response that says nothing but where to go. -/
def redirection (location : String) : Response :=
  ⟨302, ⟨[("location", plainValue location)]⟩, []⟩

/-- What an attempt of a call has sent and heard before a request that is sent next. -/
inductive Prompts (c : Client) (o : Order) : List Utterance → Request → Prop where
  | call {r : Request} : r.target = o.target → Prompts c o [] r
  | refusal {before : List Utterance} {r r' : Request} {refusal : Response} :
      refusal.status = 406 → r'.target = r.target →
      Prompts c o (before ++ [.sent r, .answered (.ok refusal)]) r'
  | redirect {before : List Utterance} {r r' : Request} {place : Response} {location : String} :
      isRedirect place.status = true → place.header? "location" = some location →
      c.redirectTarget r.target location = .ok r'.target →
      Prompts c o (before ++ [.sent r, .answered (.ok place)]) r'

/-- What follows the answer of a redirect goes where that leads. -/
theorem Prompts.redirectTarget_eq {c : Client} {o : Order} {before : List Utterance}
    {r r' : Request} {place : Response}
    (h : Prompts c o (before ++ [.sent r, .answered (.ok place)]) r')
    (hr : isRedirect place.status = true) :
    ∃ location, place.header? "location" = some location ∧
      c.redirectTarget r.target location = .ok r'.target := by
  generalize hus : before ++ [.sent r, .answered (.ok place)] = us at h
  cases h with
  | call => simp at hus
  | refusal h406 =>
    cases List.append_inj_right' hus rfl
    simp [isRedirect, h406] at hr
  | redirect _ hl ht =>
    cases List.append_inj_right' hus rfl
    exact ⟨_, hl, ht⟩

/-- Until it has heard a redirect, an attempt sends its requests to the target of the call. -/
theorem target_eq_of_not_isRedirect {c : Client} {o : Order} {us before after : List Utterance}
    {r : Request}
    (hp : ∀ (before after : List Utterance) (r : Request), us = before ++ .sent r :: after →
      Prompts c o before r)
    (h : us = before ++ .sent r :: after) (hbefore : ∀ u ∈ before, u.isRedirect = false) :
    r.target = o.target := by
  -- a request that was refused has been sent before, with the same target
  induction hn : before.length using Nat.strongRecOn generalizing before after r with
  | ind n ih =>
    cases hp before after r h with
    | call ht => exact ht
    | @refusal before r _ _ _ ht =>
      have hlt : before.length < n := by
        simp only [List.length_append, List.length_cons, List.length_nil] at hn
        omega
      rw [ht]
      exact ih _ hlt (h.trans (List.append_assoc _ _ _))
        (fun u hu => hbefore u (List.mem_append_left _ hu)) rfl
    | @redirect before r _ place _ hred =>
      have hfalse := hbefore (.answered (.ok place)) (by simp)
      rw [Utterance.isRedirect, hred] at hfalse
      cases hfalse

namespace Task

/-- What an attempt has sent and heard when its task waits like this. An exchange has followed as
many redirects as have been heard. -/
inductive Trail (c : Client) : Job → Phase → List Utterance → Prop where
  | ahead {job : Job} {purpose : Purpose} : purpose.isAhead = true →
      Trail c job (.locking purpose) []
  | asking {job : Job} {purpose : Purpose} {q : Inquiry} : purpose.isAhead = true →
      Trail c job (.asking purpose q) []
  | sent {o : Order} {x : Exchange} {us : List Utterance} : x.redirects ≤ maxRedirects →
      x.redirects = us.countP Utterance.isRedirect →
      Trail c (.send o) (.exchanging x) (us ++ [.sent (request c o x)])
  | refused {o : Order} {x : Exchange} {r : Response} {us : List Utterance} :
      x.redirects ≤ maxRedirects → x.redirects = us.countP Utterance.isRedirect →
      r.status = 406 →
      Trail c (.send o) (.locking (.afterRefusal x r))
        (us ++ [.sent (request c o x), .answered (.ok r)])
  | inquiring {o : Order} {x : Exchange} {r : Response} {q : Inquiry} {us : List Utterance} :
      x.redirects ≤ maxRedirects → x.redirects = us.countP Utterance.isRedirect →
      r.status = 406 →
      Trail c (.send o) (.asking (.afterRefusal x r) q)
        (us ++ [.sent (request c o x), .answered (.ok r)])
  | pausing {job : Job} (us : List Utterance) : Trail c job .pausing us
  | finished {job : Job} (result : Except Error Reply) (us : List Utterance) :
      Trail c job (.finished result) us

variable {c : Client} {token : Option String} {t : Task} {n : Negotiator} {signal : Signal}
  {p : Progress} {us : List Utterance}

theorem trail_endAttempt (result : Except Error Reply) {job : Job} (us : List Utterance) :
    Trail c job (t.endAttempt c n result).task.phase us := by
  rcases phase_endAttempt c t n result with h | ⟨-, h⟩ <;> rw [h]
  · exact .finished result us
  · exact .pausing us

/-- A refusal is no redirect. -/
theorem countP_refused (us : List Utterance) (r : Request) {refusal : Response}
    (h : refusal.status = 406) :
    (us ++ [Utterance.sent r, .answered (.ok refusal)]).countP Utterance.isRedirect =
      us.countP Utterance.isRedirect := by
  simp [Utterance.isRedirect, h, isRedirect]

theorem trail_called (o : Order) (headers : Headers) :
    Trail c (.send o) (.exchanging ⟨headers, o.target, 0⟩)
      [.sent (request c o ⟨headers, o.target, 0⟩)] :=
  @Trail.sent c o ⟨headers, o.target, 0⟩ [] (Nat.zero_le _) rfl

theorem trail_resent {o : Order} {x : Exchange} {r : Response} (version : String)
    (hle : x.redirects ≤ maxRedirects) (hx : x.redirects = us.countP Utterance.isRedirect)
    (h : r.status = 406) :
    Trail c (.send o) (.exchanging
        { x with headers := x.headers.insert versionHeader (plainValue version) })
      (us ++ [.sent (request c o x), .answered (.ok r)] ++ [.sent (request c o
        { x with headers := x.headers.insert versionHeader (plainValue version) })]) :=
  .sent hle (by rw [countP_refused us _ h, ← hx])

theorem Concludes.taken_eq {purpose : Purpose} (h : Concludes n t purpose signal) :
    t.phase.taken signal = [] := by
  cases h with
  | refusal hp => rw [hp, Phase.taken_locking]
  | answer a hp => rw [hp, Phase.taken_asking]

theorem Concludes.eq_nil_of_trail {job : Job} {purpose : Purpose} (h : Concludes n t purpose signal)
    (ha : purpose.isAhead = true) (ht : Trail c job t.phase us) : us = [] := by
  cases h with
  | refusal hp =>
    rw [hp] at ht
    cases ht with
    | ahead => rfl
    | refused => cases ha
  | answer a hp =>
    rw [hp] at ht
    cases ht with
    | asking => rfl
    | inquiring => cases ha

theorem Concludes.refused_of_trail {o : Order} {x : Exchange} {r : Response}
    (h : Concludes n t (.afterRefusal x r) signal) (ht : Trail c (.send o) t.phase us) :
    ∃ before, us = before ++ [.sent (request c o x), .answered (.ok r)] ∧
      x.redirects ≤ maxRedirects ∧ x.redirects = before.countP Utterance.isRedirect ∧
      r.status = 406 := by
  cases h with
  | refusal hp =>
    rw [hp] at ht
    cases ht with
    | ahead ha => cases ha
    | refused hle hx h406 => exact ⟨_, rfl, hle, hx, h406⟩
  | answer a hp =>
    rw [hp] at ht
    cases ht with
    | asking ha => cases ha
    | inquiring hle hx h406 => exact ⟨_, rfl, hle, hx, h406⟩

namespace Turn

/-- A turn goes on with the trail of its attempt. -/
theorem trail (h : Turn c token n t signal p) (hz : t.phase = .pausing → us = [])
    (ht : Trail c t.job t.phase us) :
    Trail c p.task.job p.task.phase
      (us ++ t.phase.taken signal ++ p.sent.map Utterance.sent) := by
  obtain ⟨job, attempt, phase⟩ := t
  dsimp only at hz ht ⊢
  cases h with
  | fail e => exact trail_endAttempt _ _
  | answer => exact trail_endAttempt _ _
  | tell => exact trail_endAttempt _ _
  | agreeTell => exact trail_endAttempt _ _
  | agreeFail => exact trail_endAttempt _ _
  | queue hp _ hpa =>
    cases hp
    rw [hz rfl]
    exact .ahead hpa
  | refuse hj hp h406 =>
    cases hj
    cases hp
    cases ht with
    | sent hle hx =>
      rw [Progress.sent_nil, List.map_nil, List.append_nil, List.append_assoc]
      exact .refused hle hx h406
  | redirect target hj hp hr hlt =>
    cases hj
    cases hp
    cases ht with
    | sent hle hx =>
      refine .sent hlt ?_
      simp [Utterance.isRedirect, hr, hx]
  | @first _ o _ hj hp =>
    cases hj
    have hus : us = [] := by
      rcases hp with rfl | rfl
      · exact hz rfl
      · cases ht
        rfl
    have htaken : phase.taken signal = [] := by
      rcases hp with rfl | rfl
      · exact Phase.taken_pausing signal
      · exact Phase.taken_locking _ signal
    simp only [hus, htaken, task_exchange, job_upon]
    exact trail_called o _
  | adopt hj hp =>
    cases hj
    cases hp
    cases ht with
    | ahead ha => cases ha
    | refused hle hx h406 =>
      rw [Phase.taken_locking, List.append_nil]
      exact trail_resent _ hle hx h406
  | ask hp =>
    cases hp
    rw [Phase.taken_locking, Progress.sent_discover, List.map_nil, List.append_nil, List.append_nil]
    cases ht with
    | ahead hpa => exact .asking hpa
    | refused hle hx h406 => exact .inquiring hle hx h406
  | askAgain a hp =>
    cases hp
    rw [Phase.taken_asking, Progress.sent_discover, List.map_nil, List.append_nil, List.append_nil]
    cases ht with
    | asking hpa => exact .asking hpa
    | inquiring hle hx h406 => exact .inquiring hle hx h406
  | agreeFirst v hj hc =>
    cases hj
    rw [hc.taken_eq, hc.eq_nil_of_trail rfl ht]
    exact trail_called _ _
  | agreeResend v hj hc =>
    cases hj
    obtain ⟨us, rfl, hle, hx, h406⟩ := hc.refused_of_trail ht
    rw [hc.taken_eq, List.append_nil]
    exact trail_resent _ hle hx h406

/-- A turn sends one request of its caller at most, and waits for the answer to it. -/
theorem request_of_sent (h : Turn c token n t signal p) {r : Request} (hr : r ∈ p.sent) :
    ∃ o x, t.job = .send o ∧ p.task.phase = .exchanging x ∧ p.sent = [r] ∧ r = request c o x := by
  cases h with
  | first hj =>
    obtain rfl := List.mem_singleton.mp hr
    exact ⟨_, _, hj, rfl, rfl, rfl⟩
  | redirect target hj =>
    obtain rfl := List.mem_singleton.mp hr
    exact ⟨_, _, hj, rfl, rfl, rfl⟩
  | adopt hj =>
    obtain rfl := List.mem_singleton.mp hr
    exact ⟨_, _, hj, rfl, rfl, rfl⟩
  | agreeFirst v hj =>
    obtain rfl := List.mem_singleton.mp hr
    exact ⟨_, _, hj, rfl, rfl, rfl⟩
  | agreeResend v hj =>
    obtain rfl := List.mem_singleton.mp hr
    exact ⟨_, _, hj, rfl, rfl, rfl⟩
  | _ => simp at hr

end Turn

theorem redirectTarget_of_redirect {o : Order} {x : Exchange} {place : Response} {r : Request}
    (hr : r ∈ (t.redirect c n o x place).sent) :
    ∃ location, place.header? "location" = some location ∧
      c.redirectTarget x.target location = .ok r.target := by
  unfold redirect at hr
  split at hr
  · simp at hr
  · next location hl =>
    split at hr
    · simp at hr
    · next target ht =>
      obtain rfl := List.mem_singleton.mp hr
      exact ⟨location, hl, ht⟩

/-- A redirect is followed to the place that it names. -/
theorem redirectTarget_of_step {x : Exchange} {r : Request}
    (h : t.step c token n signal = some p) (hp : t.phase = .exchanging x) (hr : r ∈ p.sent) :
    ∃ place location, signal = .answer (.ok place) ∧ isRedirect place.status = true ∧
      place.header? "location" = some location ∧
      c.redirectTarget x.target location = .ok r.target := by
  unfold step at h
  rw [hp] at h
  split at h
  · next hx => cases hx
  · next hx => cases hx
  · cases h
    simp at hr
  · next place o hx _ =>
    cases hx
    cases h
    unfold received at hr
    split at hr
    · simp at hr
    · split at hr
      · next hred =>
        obtain ⟨location, hl, ht⟩ := redirectTarget_of_redirect hr
        exact ⟨place, location, rfl, hred.1, hl, ht⟩
      · split at hr <;> simp at hr
  · next hx => cases hx
  · cases h

/-- A request is prompted by the call, by a refusal or by a redirect. -/
theorem prompts_of_step {o : Order} (hf : t.Fits) (h : t.step c token n signal = some p)
    (hz : t.phase = .pausing → us = []) (ht : Trail c t.job t.phase us) (hj : t.job = .send o)
    {r : Request} (hr : r ∈ p.sent) : Prompts c o (us ++ t.phase.taken signal) r := by
  -- a turn does not tell where its redirect came from, the step does
  have redirected := fun x (hx : t.phase = .exchanging x) => redirectTarget_of_step h hx hr
  have turn := turn_of_step hf h
  obtain ⟨job, attempt, phase⟩ := t
  dsimp only at hz ht hj redirected ⊢
  cases hj
  cases turn with
  | first hj hp =>
    cases hj
    obtain rfl := List.mem_singleton.mp hr
    rcases hp with rfl | rfl
    · rw [hz rfl, Phase.taken_pausing]
      exact .call rfl
    · cases ht
      rw [Phase.taken_locking]
      exact .call rfl
  | redirect target hj hp =>
    cases hj
    obtain ⟨place, location, hs, hred, hl, htarget⟩ := redirected _ hp
    cases hs
    cases hp
    cases ht with
    | sent =>
      rw [Phase.taken_exchanging, List.append_assoc]
      exact .redirect hred hl htarget
  | adopt hj hp =>
    cases hj
    cases hp
    obtain rfl := List.mem_singleton.mp hr
    cases ht with
    | ahead ha => cases ha
    | refused _ _ h406 =>
      rw [Phase.taken_locking, List.append_nil]
      exact .refusal h406 rfl
  | agreeFirst v hj hc =>
    cases hj
    obtain rfl := List.mem_singleton.mp hr
    rw [hc.taken_eq, hc.eq_nil_of_trail rfl ht]
    exact .call rfl
  | agreeResend v hj hc =>
    cases hj
    obtain rfl := List.mem_singleton.mp hr
    obtain ⟨us, rfl, -, -, h406⟩ := hc.refused_of_trail ht
    rw [hc.taken_eq, List.append_nil]
    exact .refusal h406 rfl
  | _ => simp at hr

end Task

namespace System

variable {c : Client} {ms : List Move} {s : System} {m : Move}

/-- The attempts of calls have said what they were prompted to, and each task waits as its attempt
has left it. -/
structure Traces (c : Client) (ms : List Move) (s : System) : Prop where
  current : ∀ (k : Nat) (t : Task), s.tasks[k]? = some t →
    Task.Trail c t.job t.phase (exchanges k t.attempt ms)
  prompted : ∀ (k : Nat) (a : UInt32) (before after : List Utterance) (r : Request),
    exchanges k a ms = before ++ .sent r :: after →
    ∃ t o x, s.tasks[k]? = some t ∧ t.job = .send o ∧ r = Task.request c o x ∧
      Prompts c o before r

theorem traces_idle (c : Client) : Traces c [] (.idle c.start) where
  current k t h := by simp [idle] at h
  prompted k a before after r h := by simp [exchanges, dialogue] at h

/-- What the attempt of a move has said and heard before. -/
theorem Traces.before (ht : Traces c ms s) (hr : Reaches c ms s) (hm : Makes c s m) :
    (m.before.phase = .pausing → exchanges m.number m.attempt ms = []) ∧
      Task.Trail c m.before.job m.before.phase (exchanges m.number m.attempt ms) := by
  rcases hr.affords.attempt_cases hr.sound hm with ⟨hw, ho, he⟩ | ⟨hw, hp, -⟩
  · refine ⟨fun hp => ?_, he ▸ ht.current _ _ ho⟩
    have ha := Task.awaits_of_step hm.step
    rw [hp] at ha
    cases hs : m.signal <;> simp [hs, Phase.awaits] at ha hw
  · have hnil : exchanges m.number m.attempt ms = [] := by
      rw [exchanges, dialogue_eq_nil fun m' hm' => hr.affords.isIn_of_wake hr.sound hm hw hm']
      rfl
    rw [hnil, hp]
    exact ⟨fun _ => rfl, .pausing []⟩

theorem Traces.current_after (ht : Traces c ms s) (hr : Reaches c ms s) (hm : Makes c s m) :
    Task.Trail c m.progress.task.job m.progress.task.phase
      (exchanges m.number m.attempt (ms ++ [m])) := by
  obtain ⟨hz, htrail⟩ := ht.before hr hm
  rw [exchanges_self, Move.filter_utterances, ← List.append_assoc]
  exact (hr.sound.turn hm).trail hz htrail

/-- A request that an attempt has sent has been sent before, or is the one that a move sends. -/
theorem exchanges_cases (hs : Sound c s) (hm : Makes c s m) {k : Nat} {a : UInt32}
    {before after : List Utterance} {r : Request}
    (h : exchanges k a (ms ++ [m]) = before ++ .sent r :: after) :
    (∃ rest, exchanges k a ms = before ++ .sent r :: rest) ∨
      k = m.number ∧ a = m.attempt ∧ r ∈ m.progress.sent ∧
        before = exchanges k a ms ++ m.before.phase.taken m.signal := by
  cases hc : m.isIn k a with
  | false => exact .inl ⟨after, by rw [← h, exchanges_concat_of_not hc]⟩
  | true =>
    obtain ⟨rfl, rfl⟩ : m.number = k ∧ m.attempt = a := by simpa [Move.isIn] using hc
    rw [exchanges_self, Move.filter_utterances, ← List.append_assoc] at h
    -- the request stands before the move, in what it hears, which cannot be, or in what it sends
    rcases split_append h with ⟨rest, hx⟩ | ⟨more, rfl, hy⟩
    · left
      rcases split_append hx with ⟨rest, hx⟩ | ⟨more, -, hx⟩
      · exact ⟨rest, hx⟩
      · exact absurd (hx ▸ List.mem_append_right _ List.mem_cons_self)
          (Phase.not_sent_mem_taken _ _ r)
    · right
      have hr : r ∈ m.progress.sent := by
        have hmem : Utterance.sent r ∈ m.progress.sent.map Utterance.sent := by simp [hy]
        simpa using hmem
      obtain ⟨-, -, -, -, hs, -⟩ := (hs.turn hm).request_of_sent hr
      rw [hs] at hy
      cases more with
      | nil => exact ⟨rfl, rfl, hr, List.append_nil _⟩
      | cons u us => simp at hy

theorem Traces.after (ht : Traces c ms s) (hr : Reaches c ms s) (hm : Makes c s m) :
    Traces c (ms ++ [m]) (s.after m) where
  current k t h := by
    rw [getElem?_tasks_after hm.number_le] at h
    split at h
    · next hk =>
      subst hk
      cases h
      exact ht.current_after hr hm
    · next hk =>
      rw [exchanges_concat_of_not (by simp [Move.isIn, Ne.symm hk])]
      exact ht.current k t h
  prompted k a before after r h := by
    rcases exchanges_cases hr.sound hm h with ⟨rest, hx⟩ | ⟨rfl, rfl, hsent, rfl⟩
    · obtain ⟨t, o, x, htask, hj, hq, hp⟩ := ht.prompted k a before rest r hx
      obtain ⟨t', ht', hj'⟩ := exists_task_after hr.sound hm htask
      exact ⟨t', o, x, ht', hj'.trans hj, hq, hp⟩
    · obtain ⟨hz, htrail⟩ := ht.before hr hm
      have turn := hr.sound.turn hm
      obtain ⟨o, x, hj, -, -, hq⟩ := turn.request_of_sent hsent
      refine ⟨m.progress.task, o, x, ?_, turn.job_eq.trans hj, hq, ?_⟩
      · rw [getElem?_tasks_after hm.number_le, if_pos rfl]
      · exact Task.prompts_of_step (hr.sound.fits_before hm) hm.step hz htrail hj hsent

theorem Reaches.traces (h : Reaches c ms s) : Traces c ms s := by
  induction h with
  | idle => exact traces_idle c
  | move hr hm ih => exact ih.after hr hm

/-- What a call of a run sends in an attempt is a request of its own, and has been prompted. -/
theorem prompts_of_run {es : List Event} {k : Nat} {t : Task} {o : Order} {a : UInt32}
    {before after : List Utterance} {r : Request} (h : run c (.idle c.start) es = some s)
    (ht : s.tasks[k]? = some t) (hj : t.job = .send o)
    (hx : exchanges k a (history c (.idle c.start) es) = before ++ .sent r :: after) :
    (∃ x, r = Task.request c o x) ∧ Prompts c o before r := by
  obtain ⟨t', o', x, ht', hj', hr, hp⟩ := (reaches_of_run h).traces.prompted k a before after r hx
  rw [ht, Option.some.injEq] at ht'
  subst ht'
  rw [hj, Job.send.injEq] at hj'
  subst hj'
  exact ⟨⟨x, hr⟩, hp⟩

/-- Whatever is in the log of a call has been sent in one of its attempts. -/
theorem Reaches.exists_mem_exchanges (h : Reaches c ms s) {k : Nat} {r : Request}
    (hr : (k, .send r) ∈ s.log) : ∃ a, .sent r ∈ exchanges k a ms := by
  induction h with
  | idle => cases hr
  | @move ms s m hreach hm ih =>
    rw [log_after, List.mem_append] at hr
    rcases hr with hr | hr
    · obtain ⟨a, ha⟩ := ih hr
      refine ⟨a, ?_⟩
      rw [exchanges, dialogue_concat, List.filter_append]
      exact List.mem_append_left _ ha
    · obtain ⟨e, he, heq⟩ := List.mem_map.mp hr
      cases heq
      refine ⟨m.attempt, ?_⟩
      rw [exchanges_self, Move.filter_utterances]
      exact List.mem_append_right _ (List.mem_append_right _
        (List.mem_map_of_mem (mem_sent_of_effects he)))

end System

end Microversion.Client
