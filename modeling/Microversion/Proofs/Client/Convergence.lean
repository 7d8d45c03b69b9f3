import Microversion.Proofs.Client.Allowance
import Microversion.Proofs.Negotiation.KnownVersion

/-! # Convergence on a server's range

A client that starts with a remembered or the default version meets a server
with a fixed range, which refuses requests for their version and for nothing
else. Whatever the interleaving, a call needs two requests at most, and whoever
agrees on a version agrees on the same one. Only a token that cannot stand in a
header makes a call fail.
-/

namespace Microversion

open Http

namespace Client

/-- A server that speaks the versions of a range. -/
structure Server where
  least : Version
  newest : Version
  least_le_newest : least ≤ newest

/-- The version that a request says. -/
def saidVersion? (r : Request) : Option Version :=
  ((r.headers.get? versionHeader).bind HeaderValue.text?).bind Version.ofText?

namespace Server

/-- The version lies in the range. -/
def Speaks (server : Server) (v : Version) : Prop := server.least ≤ v ∧ v ≤ server.newest

instance (server : Server) (v : Version) : Decidable (server.Speaks v) :=
  inferInstanceAs (Decidable (_ ∧ _))

/-- The headers of a response tell the range. -/
def Tells (server : Server) (r : Response) : Prop :=
  ∃ min max, Advertised.ofResponse r = ⟨some min, some max⟩ ∧
    Version.ofText? min = some server.least ∧ Version.ofText? max = some server.newest

/-- How the server replies to a request of a caller: it refuses it exactly if the version that it
says lies outside of the range. -/
inductive Replies (server : Server) (request : Request) (r : Response) : Prop where
  | accepted : (∀ v, saidVersion? request = some v → server.Speaks v) → r.isSuccess = true →
      Replies server request r
  | refused {v : Version} : saidVersion? request = some v → ¬server.Speaks v → r.status = 406 →
      server.Tells r → Replies server request r

/-- What a call is given comes from the server. -/
structure Serves (server : Server) (c : Client) (t : Task) (signal : Signal) : Prop where
  replies : ∀ (o : Order) (x : Exchange) (answer : Except Error Response), t.job = .send o →
    t.phase = .exchanging x → signal = .answer answer →
    ∃ r, answer = .ok r ∧ server.Replies (Task.request c o x) r
  tells : ∀ (purpose : Purpose) (q : Inquiry) (answer : Except Error Response),
    t.phase = .asking purpose q → signal = .answer answer →
    ∃ r, answer = .ok r ∧ (r.status < 400 ∨ r.status = 406) ∧ server.Tells r

section Serves

variable {server : Server} {c : Client} {t : Task} {signal : Signal}

theorem serves_of_not_answer (h : ∀ answer, signal ≠ .answer answer) : server.Serves c t signal :=
  ⟨fun _ _ answer _ _ he => absurd he (h answer), fun _ _ answer _ he => absurd he (h answer)⟩

theorem serves_of_replies {o : Order} {x : Exchange} {r : Response} (hj : t.job = .send o)
    (hp : t.phase = .exchanging x) (hr : server.Replies (Task.request c o x) r) :
    server.Serves c t (.answer (.ok r)) := by
  refine ⟨?_, ?_⟩
  · rintro o' x' answer hj' hx ⟨⟩
    rw [hj] at hj'; cases hj'
    rw [hp] at hx; cases hx
    exact ⟨r, rfl, hr⟩
  · rintro purpose q answer hx
    rw [hp] at hx; cases hx

theorem serves_of_tells {purpose : Purpose} {q : Inquiry} {r : Response}
    (hp : t.phase = .asking purpose q) (hs : r.status < 400 ∨ r.status = 406)
    (hr : server.Tells r) : server.Serves c t (.answer (.ok r)) := by
  refine ⟨?_, ?_⟩
  · rintro o x answer - hx
    rw [hp] at hx; cases hx
  · rintro purpose q answer - ⟨⟩
    exact ⟨r, rfl, hs, hr⟩

end Serves

/-- The version on which a client that starts with `p` agrees with the server. -/
def agreement (server : Server) (p : Version) : Version :=
  max server.least (min p (min server.newest Version.latestKnown))

variable {server : Server} {p : Version}

theorem speaks_agreement (server : Server) (p : Version) : server.Speaks (server.agreement p) := by
  refine ⟨le_max_left _ _, max_le server.least_le_newest ?_⟩
  exact le_trans (min_le_right _ _) (min_le_left _ _)

/-- A client that has settled nothing agrees on this version whenever it is told the range. -/
theorem settleText_of_tells {n : Negotiator} (hn : n.isSettled = false)
    (hp : n.requested = .pinned p) {r : Response} (hr : server.Tells r) (sent : Option String) :
    ∃ min max, Advertised.ofResponse r = ⟨some min, some max⟩ ∧
      n.settleText sent min max = .ok (server.agreement p) := by
  obtain ⟨min, max, ha, hmin, hmax⟩ := hr
  refine ⟨min, max, ha, ?_⟩
  have hc : Negotiator.choose? server.least (Negotiator.cap server.newest) n.requested =
      some (server.agreement p) := by
    rw [hp]
    exact congrArg some (max_comm _ _)
  simp only [Negotiator.settleText, Version.parse, hmin, hmax,
    Negotiator.settle_of_not_isSettled hn, hc]

end Server

/-- The token cannot stand in a header, and that is the error. -/
def Unusable (token : Option String) (e : Error) : Prop :=
  ∃ text, token = some text ∧ HeaderValue.ofText? text = none ∧
    e = .validation (.headerValue text)

section Token

variable {c : Client} {token : Option String} {n : Negotiator} {own hs : Headers} {e : Error}

theorem unusable_of_withCredentials (h : withCredentials token hs = .error e) :
    Unusable token e := by
  unfold withCredentials at h
  cases token with
  | none => cases h
  | some text =>
    dsimp only at h
    split at h
    · cases h
    · unfold headerValue at h
      cases hv : HeaderValue.ofText? text with
      | none =>
        rw [hv] at h
        cases h
        exact ⟨text, rfl, hv, rfl⟩
      | some v => rw [hv] at h; cases h

theorem unusable_of_requestHeaders (h : c.requestHeaders token n own = .error e) :
    Unusable token e := by
  unfold requestHeaders at h
  cases hw : withCredentials token (withVersion n own) with
  | error e' =>
    rw [hw] at h
    cases h
    exact unusable_of_withCredentials hw
  | ok hs => rw [hw] at h; cases h

theorem unusable_of_discoveryRequest {major : UInt32}
    (h : c.discoveryRequest token major = .error e) : Unusable token e := by
  unfold discoveryRequest at h
  cases hw : withCredentials token .empty with
  | error e' =>
    rw [hw] at h
    cases h
    exact unusable_of_withCredentials hw
  | ok hs => rw [hw] at h; cases h

theorem Unusable.not_isRetriable (h : Unusable token e) : e.isRetriable = false := by
  obtain ⟨text, -, -, rfl⟩ := h
  rfl

end Token

namespace Task

variable {c : Client} {token : Option String} {t : Task} {n : Negotiator} {signal : Signal}
  {progress : Progress} {server : Server} {p : Version}

/-- A failure that does not pass ends the task. -/
theorem endAttempt_of_not_isRetriable {e : Error} (h : e.isRetriable = false) :
    t.endAttempt c n (.error e) = ⟨{ t with phase := .finished (.error e) }, n, []⟩ := by
  unfold endAttempt
  cases t.job with
  | agree => rfl
  | send o => simp [Attempt.ofResult, h, RetryBudget.verdict]

/-- What a client speaks that has met the server, or has not. -/
inductive Meets (server : Server) (p : Version) (n : Negotiator) : Prop where
  | before : n.isSettled = false → n.mustNegotiate = false → n.requested = .pinned p →
      Meets server p n
  | after : n = .agreed (server.agreement p) → Meets server p n

/-- How a task has come to what it waits for, with so many moves and requests. A request on its way
says a version of the server, or the one that the client started with. -/
inductive Course (server : Server) (p : Version) (bad : Error → Prop) :
    Job → Phase → Nat → Nat → Prop where
  | queued : Course server p bad .agree (.locking .onDemand) 1 0
  | asking {q : Inquiry} : q.negotiator.isSettled = false → q.negotiator.requested = .pinned p →
      Course server p bad .agree (.asking .onDemand q) 2 0
  | sent {o : Order} {x : Exchange} {v : Version} {moves sends : Nat} :
      x.headers.values versionHeader = [plainValue v.text] → server.Speaks v → moves ≤ 3 →
      sends ≤ 2 → Course server p bad (.send o) (.exchanging x) moves sends
  | early {o : Order} {x : Exchange} : o.hasOwnVersion = false →
      x.headers.values versionHeader = [plainValue p.text] → ¬server.Speaks p →
      Course server p bad (.send o) (.exchanging x) 1 1
  | refused {o : Order} {x : Exchange} {r : Response} : o.hasOwnVersion = false →
      x.headers.values versionHeader = [plainValue p.text] → ¬server.Speaks p → server.Tells r →
      Course server p bad (.send o) (.locking (.afterRefusal x r)) 2 1
  | responded {o : Order} {r : Response} {moves sends : Nat} : r.isSuccess = true → moves ≤ 4 →
      sends ≤ 2 → Course server p bad (.send o) (.finished (.ok (.response r))) moves sends
  | told {moves : Nat} : moves ≤ 3 →
      Course server p bad .agree (.finished (.ok (.version (server.agreement p).text))) moves 0
  | failed {job : Job} {e : Error} {moves sends : Nat} : bad e → moves ≤ 3 → sends ≤ 2 →
      Course server p bad job (.finished (.error e)) moves sends

theorem saidVersion?_request {o : Order} {x : Exchange} {v : Version}
    (h : x.headers.values versionHeader = [plainValue v.text]) :
    saidVersion? (request c o x) = some v := by
  simp [saidVersion?, request, Headers.get?, h]

theorem sentVersion_of_values {x : Exchange} {v : Version}
    (h : x.headers.values versionHeader = [plainValue v.text]) : sentVersion x = some v.text := by
  simp [sentVersion, Headers.get?, h]

/-- The turn leaves the client with what it speaks or with the agreement, and the task on its
course. -/
structure Keeps (server : Server) (p : Version) (n : Negotiator) (bad : Error → Prop)
    (moves sends : Nat) (progress : Progress) : Prop where
  negotiator : progress.negotiator = n ∨ progress.negotiator = .agreed (server.agreement p)
  course : Course server p bad progress.task.job progress.task.phase (moves + 1)
    (sends + progress.sent.length)

variable {bad : Error → Prop} {moves sends : Nat}

theorem keeps_fail {e : Error} (hu : Unusable token e) (hb : ∀ e, Unusable token e → bad e)
    (hm : moves ≤ 2) (hs : sends ≤ 2) :
    Keeps server p n bad moves sends (t.endAttempt c n (.error e)) := by
  rw [endAttempt_of_not_isRetriable hu.not_isRetriable]
  exact ⟨.inl rfl, .failed (hb e hu) (by omega) (by simpa using hs)⟩

/-- A request says the version that the client started with only while nothing is agreed on. -/
theorem keeps_firstExchange {o : Order} (hn : Meets server p n) (hj : t.job = .send o)
    (ho : o.hasOwnVersion = false) (hb : ∀ e, Unusable token e → bad e) :
    Keeps server p n bad 0 0 (t.firstExchange c token n o) := by
  unfold firstExchange
  cases hh : c.requestHeaders token n o.headers with
  | error e => exact keeps_fail (unusable_of_requestHeaders hh) hb (by omega) (by omega)
  | ok headers =>
    refine ⟨.inl rfl, ?_⟩
    simp only [task_exchange, hj, sent_exchange, List.length_singleton]
    rcases hn with ⟨-, -, hp⟩ | rfl
    · have hv := values_requestHeaders_of_spoken hh ho
        (by rw [Negotiator.headerText?, hp]; rfl : n.headerText? = some p.text)
      by_cases hsp : server.Speaks p
      · exact .sent hv hsp (by omega) (by omega)
      · exact .early ho hv hsp
    · exact .sent (values_requestHeaders_of_spoken hh ho (Negotiator.headerText?_agreed _))
        (server.speaks_agreement p) (by omega) (by omega)

theorem keeps_begin {job : Job} (hn : Meets server p n)
    (ho : ∀ o, job = .send o → o.hasOwnVersion = false) (hb : ∀ e, Unusable token e → bad e)
    (h : (fresh job).step c token n .wake = some progress) :
    Keeps server p n bad 0 0 progress := by
  cases h
  cases job with
  | agree => exact ⟨.inl rfl, .queued⟩
  | send o =>
    have hm : n.mustNegotiate = false := by
      rcases hn with ⟨-, hm, -⟩ | rfl
      · exact hm
      · rfl
    simp only [beginAttempt, fresh, hm, Bool.false_eq_true, if_false]
    exact keeps_firstExchange hn rfl (ho o rfl) hb

theorem keeps_onDemand (hn : Meets server p n) (hj : t.job = .agree)
    (hb : ∀ e, Unusable token e → bad e) :
    Keeps server p n bad 1 0 (t.locked c token n .onDemand) := by
  rcases hn with ⟨hs, -, hp⟩ | rfl
  · have hq : ¬(n.isPinnedByUser = true ∨ n.isNegotiated = true) := by
      simpa [Negotiator.isSettled, or_comm] using hs
    simp only [locked, if_neg hq, Inquiry.start, negotiate]
    split
    · next e he => exact keeps_fail (unusable_of_discoveryRequest he) hb (by omega) (by omega)
    · refine ⟨.inl rfl, ?_⟩
      rw [hj]
      exact .asking hs hp
  · simp only [locked, withVersion, hj, Negotiator.isNegotiated_agreed, or_true, if_true,
      Negotiator.currentText_agreed, endAttempt_ok]
    exact ⟨.inl rfl, .told (by omega)⟩

theorem keeps_asking {q : Inquiry} (hj : t.job = .agree) (hs : q.negotiator.isSettled = false)
    (hp : q.negotiator.requested = .pinned p) {r : Response}
    (hr : r.status < 400 ∨ r.status = 406) (ht : server.Tells r) :
    Keeps server p n bad 2 0
      (t.negotiate c token n .onDemand (q.resume (checkDiscovery q.major (.ok r)))) := by
  obtain ⟨min, max, ha, hset⟩ := Server.settleText_of_tells hs hp ht q.sent
  have hc : checkDiscovery q.major (.ok r) = .ok r := by
    rw [checkDiscovery, if_neg (by omega)]
  simp only [hc, Inquiry.resume, Inquiry.take, ha, Advertised.both?, hset, negotiate, withVersion,
    hj, endAttempt_ok]
  exact ⟨.inr rfl, .told (by omega)⟩

theorem keeps_accepted {o : Order} {x : Exchange} {r : Response} (hj : t.job = .send o)
    (hr : r.isSuccess = true) (hm : moves ≤ 3) (hs : sends ≤ 2) :
    Keeps server p n bad moves sends (t.received c n o x r) := by
  rw [received_of_isSuccess c t n o x hr]
  refine ⟨.inl rfl, ?_⟩
  rw [hj]
  exact .responded hr (by omega) hs

theorem keeps_resend (c : Client) {o : Order} {x : Exchange} (hj : t.job = .send o) :
    Course server p bad
      (t.resend c (.agreed (server.agreement p)) o x (server.agreement p).text).task.job
      (t.resend c (.agreed (server.agreement p)) o x (server.agreement p).text).task.phase 3 2 := by
  simp only [resend_eq, task_exchange, hj]
  exact .sent (by simp) (server.speaks_agreement p) (by omega) (by omega)

theorem keeps_refused {o : Order} {x : Exchange} {r : Response} (hn : Meets server p n)
    (hj : t.job = .send o) (ho : o.hasOwnVersion = false)
    (hx : x.headers.values versionHeader = [plainValue p.text]) (hsp : ¬server.Speaks p)
    (hr : server.Tells r) :
    Keeps server p n bad 2 1 (t.locked c token n (.afterRefusal x r)) := by
  rcases hn with ⟨hs, -, hp⟩ | rfl
  · have hnew : t.newerVersion? n x = none := by
      have hneg : n.isNegotiated = false := by
        simp only [Negotiator.isSettled, Bool.or_eq_false_iff] at hs
        exact hs.1
      simp [newerVersion?, hj, hneg]
    obtain ⟨min, max, ha, hset⟩ := Server.settleText_of_tells hs hp hr (sentVersion x)
    simp only [locked, hnew, Inquiry.start, Inquiry.take, ha, Advertised.both?, hset, negotiate,
      withVersion, hj]
    exact ⟨.inr rfl, keeps_resend c hj⟩
  · -- the request was sent before the agreement, and says something else
    have hne : p.text ≠ (server.agreement p).text := fun he =>
      hsp (Version.text_injective he ▸ server.speaks_agreement p)
    have hnew : t.newerVersion? (.agreed (server.agreement p)) x =
        some (server.agreement p).text := by
      simp [newerVersion?, hj, ho, sentVersion_of_values hx, hne]
    simp only [locked, hnew, withVersion, hj]
    exact ⟨.inl rfl, keeps_resend c hj⟩

/-- A task on its course stays on it. -/
theorem Course.step (h : Course server p bad t.job t.phase moves sends) (hn : Meets server p n)
    (hserve : server.Serves c t signal) (hb : ∀ e, Unusable token e → bad e)
    (hstep : t.step c token n signal = some progress) :
    Keeps server p n bad moves sends progress := by
  obtain ⟨job, attempt, phase⟩ := t
  cases h with
  | queued =>
    cases signal <;> cases hstep
    exact keeps_onDemand hn rfl hb
  | asking hs hp =>
    cases signal <;> cases hstep
    obtain ⟨r, rfl, hr, ht⟩ := hserve.tells _ _ _ rfl rfl
    exact keeps_asking rfl hs hp hr ht
  | @sent o x v _ _ hv hsp hm hs =>
    cases signal with
    | answer answer =>
      obtain ⟨r, rfl, hr⟩ := hserve.replies _ _ _ rfl rfl rfl
      cases hstep
      cases hr with
      | accepted _ hok => exact keeps_accepted rfl hok hm hs
      | refused hv' hno =>
        rw [saidVersion?_request hv] at hv'
        cases hv'
        exact absurd hsp hno
    | lock => cases hstep
    | wake => cases hstep
  | @early o x ho hx hsp =>
    cases signal with
    | answer answer =>
      obtain ⟨r, rfl, hr⟩ := hserve.replies _ _ _ rfl rfl rfl
      cases hstep
      cases hr with
      | accepted hall => exact absurd (hall p (saidVersion?_request hx)) hsp
      | refused _ _ h406 ht =>
        rw [received, if_pos h406]
        exact ⟨.inl rfl, .refused ho hx hsp ht⟩
    | lock => cases hstep
    | wake => cases hstep
  | refused ho hx hsp hr =>
    cases signal <;> cases hstep
    exact keeps_refused hn rfl ho hx hsp hr
  | responded => cases signal <;> cases hstep
  | told => cases signal <;> cases hstep
  | failed => cases signal <;> cases hstep

theorem Course.mono {bad' : Error → Prop} (hb : ∀ e, bad e → bad' e) {job : Job} {phase : Phase}
    (h : Course server p bad job phase moves sends) :
    Course server p bad' job phase moves sends := by
  cases h with
  | queued => exact .queued
  | asking hs hp => exact .asking hs hp
  | sent hv hsp hm hs => exact .sent hv hsp hm hs
  | early ho hx hsp => exact .early ho hx hsp
  | refused ho hx hsp hr => exact .refused ho hx hsp hr
  | responded hr hm hs => exact .responded hr hm hs
  | told hm => exact .told hm
  | failed he hm hs => exact .failed (hb _ he) hm hs

theorem Course.bounded {job : Job} {phase : Phase}
    (h : Course server p bad job phase moves sends) : moves ≤ 4 ∧ sends ≤ 2 := by
  cases h <;> omega

/-- A task that waits can be given something by the server. -/
theorem exists_served (server : Server) (c : Client) (hf : t.Fits) (h : t.result? = none) :
    ∃ signal, t.phase.awaits signal = true ∧ server.Serves c t signal := by
  have htells : ∀ status, server.Tells (rangeResponse status server.least server.newest) :=
    fun status => ⟨_, _, ofResponse_rangeResponse _ _ _, by simp, by simp⟩
  cases hp : t.phase with
  | locking purpose => exact ⟨.lock, rfl, Server.serves_of_not_answer (by rintro _ ⟨⟩)⟩
  | asking purpose q =>
    exact ⟨_, rfl, Server.serves_of_tells hp (.inl (by decide : 200 < 400)) (htells 200)⟩
  | exchanging x =>
    simp only [Fits, hp] at hf
    obtain ⟨o, hj⟩ := hf
    by_cases hall : ∀ v, saidVersion? (request c o x) = some v → server.Speaks v
    · exact ⟨.answer (.ok ⟨200, .empty, []⟩), rfl,
        Server.serves_of_replies hj hp (.accepted hall rfl)⟩
    · simp only [Classical.not_forall] at hall
      obtain ⟨v, hv, hno⟩ := hall
      exact ⟨_, rfl, Server.serves_of_replies hj hp (.refused hv hno rfl (htells 406))⟩
  | pausing => exact ⟨.wake, rfl, Server.serves_of_not_answer (by rintro _ ⟨⟩)⟩
  | finished result => simp [Task.result?, hp] at h

end Task

/-- The move is one of a call without a version of its own, to which the server replies. -/
structure Server.Hosts (server : Server) (c : Client) (m : Move) : Prop where
  plain : ∀ o : Order, m.before.job = .send o → o.hasOwnVersion = false
  serves : server.Serves c m.before m.signal

namespace System

variable {c : Client} {s : System} {ms : List Move} {m : Move} {server : Server} {p : Version}

/-- The session had a token for the call that cannot stand in a header, and that is the error. -/
def Rejects (ms : List Move) (k : Nat) (e : Error) : Prop :=
  ∃ m ∈ ms, m.number = k ∧ Unusable m.token e

theorem Rejects.concat {k : Nat} {e : Error} (h : Rejects ms k e) (m : Move) :
    Rejects (ms ++ [m]) k e := by
  obtain ⟨m', hm', hk, hu⟩ := h
  exact ⟨m', List.mem_append_left _ hm', hk, hu⟩

/-- What is known of a client that started with `p` while a server hosts its calls. -/
structure Approaches (server : Server) (p : Version) (ms : List Move) (s : System) : Prop where
  meets : Task.Meets server p s.negotiator
  course : ∀ (k : Nat) (t : Task), s.tasks[k]? = some t →
    Task.Course server p (Rejects ms k) t.job t.phase (tally (Move.isOf k) ms).moves
      (tally (Move.isOf k) ms).sends

theorem approaches_idle (hn : Task.Meets server p c.start) :
    Approaches server p [] (.idle c.start) where
  meets := hn
  course k t h := by simp [idle] at h

theorem Approaches.keeps (ha : Approaches server p ms s) (hr : Reaches c ms s)
    (hm : Makes c s m) (hh : server.Hosts c m) :
    Task.Keeps server p s.negotiator (Rejects (ms ++ [m]) m.number)
      (tally (Move.isOf m.number) ms).moves (tally (Move.isOf m.number) ms).sends m.progress := by
  have hb : ∀ e, Unusable m.token e → Rejects (ms ++ [m]) m.number e := fun e hu =>
    ⟨m, List.mem_append_right _ (List.mem_singleton_self m), rfl, hu⟩
  have hstep := hm.seen ▸ hm.step
  rcases hm.origin with ho | ⟨hk, job, ho⟩
  · exact ((ha.course _ _ ho).mono fun e he => he.concat m).step ha.meets hh.serves hb hstep
  · -- the call starts, and no move of it has been made before
    have hz : tally (Move.isOf m.number) ms = 0 := by
      refine tally_eq_zero fun m' hm' => ?_
      obtain ⟨t, ht, -⟩ := hr.affords.known m' hm'
      simp only [Move.isOf, beq_eq_false_iff_ne]
      intro he
      rw [he, hk, List.getElem?_eq_none (Nat.le_refl _)] at ht
      cases ht
    have hw := Task.awaits_of_step hm.step
    rw [ho] at hstep hw
    rw [hz]
    cases hs : m.signal with
    | wake =>
      rw [hs] at hstep
      exact Task.keeps_begin ha.meets (fun o hj => hh.plain o (by rw [ho]; exact hj)) hb hstep
    | _ => rw [hs] at hw; cases hw

theorem Approaches.after (ha : Approaches server p ms s) (hr : Reaches c ms s)
    (hm : Makes c s m) (hh : server.Hosts c m) : Approaches server p (ms ++ [m]) (s.after m) where
  meets := by
    rw [negotiator_after]
    rcases (ha.keeps hr hm hh).negotiator with hn | hn
    · exact hn ▸ ha.meets
    · exact .after hn
  course k t ht := by
    rw [getElem?_tasks_after hm.number_le] at ht
    split at ht
    · next hk =>
      cases ht
      subst hk
      have hc := (ha.keeps hr hm hh).course
      rw [tally_concat, show m.isOf m.number = true by simp [Move.isOf], if_pos rfl]
      exact hc
    · next hk =>
      rw [tally_concat_of_not (by simp [Move.isOf, Ne.symm hk])]
      exact (ha.course k t ht).mono fun e he => he.concat m

theorem Reaches.approaches (hr : Reaches c ms s) (hn : Task.Meets server p c.start)
    (hh : ∀ m ∈ ms, server.Hosts c m) : Approaches server p ms s := by
  induction hr with
  | idle => exact approaches_idle hn
  | @move ms s m hr hm ih =>
    exact (ih fun m' hm' => hh m' (List.mem_append_left _ hm')).after hr hm
      (hh m (List.mem_append_right _ (List.mem_singleton_self m)))

/-- How a call ends: with a response that is a success, or with the version that is spoken then. -/
inductive Ends (server : Server) (p : Version) (ms : List Move) (k : Nat) :
    Job → Except Error Reply → Prop where
  | response {o : Order} {r : Response} : r.isSuccess = true →
      Ends server p ms k (.send o) (.ok (.response r))
  | version : Ends server p ms k .agree (.ok (.version (server.agreement p).text))
  | token {job : Job} {e : Error} : Rejects ms k e → Ends server p ms k job (.error e)

theorem ends_of_course {k moves sends : Nat} {job : Job} {result : Except Error Reply}
    (h : Task.Course server p (Rejects ms k) job (.finished result) moves sends) :
    Ends server p ms k job result := by
  cases h with
  | responded hr => exact .response hr
  | told => exact .version
  | failed he => exact .token he

/-- The calls of a client come to an end with the server, under one version. -/
structure Converges (c : Client) (server : Server) (p : Version) (ms : List Move) (s : System) :
    Prop where
  spoken : s.negotiator = c.start ∨ s.negotiator = .agreed (server.agreement p)
  bounded : ∀ (k : Nat) (t : Task), s.tasks[k]? = some t →
    (tally (Move.isOf k) ms).moves ≤ 4 ∧ (tally (Move.isOf k) ms).sends ≤ 2
  ends : ∀ (k : Nat) (t : Task) (result : Except Error Reply), s.tasks[k]? = some t →
    t.phase = .finished result → Ends server p ms k t.job result
  /-- While a call is not finished, the server has something for one of the calls. -/
  returns : (∀ (token : Option String) (k : Nat) (signal : Signal),
      (∀ t, s.tasks[k]? = some t → server.Serves c t signal) →
      s.step c (.signal token k signal) = none) →
    ∀ (k : Nat) (t : Task), s.tasks[k]? = some t → t.result?.isSome = true

/-- Whatever the interleaving, the calls of a client converge on the range of its server. -/
theorem converges_of_run {es : List Event} (hp : c.start.requested = .pinned p)
    (hst : c.start.state = .cached ∨ c.start.state = .default)
    (h : run c (.idle c.start) es = some s)
    (hh : ∀ m ∈ history c (.idle c.start) es, server.Hosts c m) :
    Converges c server p (history c (.idle c.start) es) s := by
  have hr := reaches_of_run h
  have hn : Task.Meets server p c.start := by
    refine .before ?_ ?_ hp <;>
      rcases hst with hst | hst <;>
      simp [Negotiator.isSettled, Negotiator.isNegotiated, Negotiator.isPinnedByUser,
        Negotiator.mustNegotiate, hst]
  have ha := hr.approaches hn hh
  exact {
    spoken := by
      rcases hr.sound.agreed with ⟨-, he⟩ | ⟨v, -, he, -⟩
      · exact .inl he
      · refine .inr ?_
        rcases ha.meets with ⟨hu, -, -⟩ | hm
        · rw [he] at hu; cases hu
        · exact hm
    bounded := fun k t ht => (ha.course k t ht).bounded
    ends := fun k t result ht hph => ends_of_course (hph ▸ ha.course k t ht)
    returns := by
      intro hstuck k t ht
      cases hres : t.result? with
      | some result => rfl
      | none =>
        obtain ⟨j, u, hu, -, hun, hgo⟩ := hr.sound.goesOn ht hres
        obtain ⟨signal, haw, hserve⟩ := Task.exists_served server c (hr.sound.fits j u hu) hun
        have hnone := hstuck none j signal fun u' hu' => by
          rw [hu] at hu'
          cases hu'
          exact hserve
        have hsome := hgo none signal haw
        rw [hnone] at hsome
        cases hsome }

section Recent

/-- A server that has left the default version behind. -/
def recentServer : Server := ⟨⟨1, 20⟩, ⟨1, 50⟩, by decide⟩

/-- What it answers to a request that it refuses. -/
def recentRefusal : Response := rangeResponse 406 ⟨1, 20⟩ ⟨1, 50⟩

theorem tells_recentRefusal : recentServer.Tells recentRefusal :=
  ⟨_, _, ofResponse_rangeResponse _ _ _, Version.ofText?_text _, Version.ofText?_text _⟩

/-- Two calls are refused. The first one agrees on the beginning of the range before the second one
is given the lock. -/
def lateRefusal : List Event :=
  [.call none (.send ⟨"GET", "/v1/nodes", .empty, none⟩),
    .call none (.send ⟨"GET", "/v1/ports", .empty, none⟩),
    .signal none 0 (.answer (.ok recentRefusal)), .signal none 1 (.answer (.ok recentRefusal)),
    .signal none 0 .lock, .signal none 1 .lock, .signal none 1 (.answer (.ok ⟨200, .empty, []⟩))]

theorem hosts_lateRefusal : ∀ m ∈ history (plain ⟨.pinned .initial, .default⟩)
    (.idle ⟨.pinned .initial, .default⟩) lateRefusal,
    recentServer.Hosts (plain ⟨.pinned .initial, .default⟩) m := by
  intro m hm
  rw [show history (plain ⟨.pinned .initial, .default⟩) (.idle ⟨.pinned .initial, .default⟩)
    lateRefusal = [_, _, _, _, _, _, _] from rfl] at hm
  simp only [List.mem_cons, List.not_mem_nil, or_false] at hm
  rcases hm with rfl | rfl | rfl | rfl | rfl | rfl | rfl
  · exact ⟨by rintro o ⟨⟩; rfl, Server.serves_of_not_answer (by rintro _ ⟨⟩)⟩
  · exact ⟨by rintro o ⟨⟩; rfl, Server.serves_of_not_answer (by rintro _ ⟨⟩)⟩
  · refine ⟨by rintro o ⟨⟩; rfl, Server.serves_of_replies rfl rfl ?_⟩
    exact @Server.Replies.refused _ _ _ ⟨1, 9⟩ rfl (by decide) rfl tells_recentRefusal
  · refine ⟨by rintro o ⟨⟩; rfl, Server.serves_of_replies rfl rfl ?_⟩
    exact @Server.Replies.refused _ _ _ ⟨1, 9⟩ rfl (by decide) rfl tells_recentRefusal
  · exact ⟨by rintro o ⟨⟩; rfl, Server.serves_of_not_answer (by rintro _ ⟨⟩)⟩
  · exact ⟨by rintro o ⟨⟩; rfl, Server.serves_of_not_answer (by rintro _ ⟨⟩)⟩
  · refine ⟨by rintro o ⟨⟩; rfl, Server.serves_of_replies rfl rfl (.accepted ?_ rfl)⟩
    intro v hv
    obtain rfl : (⟨1, 20⟩ : Version) = v := Option.some.inj hv
    decide

theorem converges_of_lateRefusal :
    ∃ s, run (plain ⟨.pinned .initial, .default⟩) (.idle ⟨.pinned .initial, .default⟩)
        lateRefusal = some s ∧ s.negotiator = .agreed ⟨1, 20⟩ ∧
      Converges (plain ⟨.pinned .initial, .default⟩) recentServer .initial
        (history (plain ⟨.pinned .initial, .default⟩) (.idle ⟨.pinned .initial, .default⟩)
          lateRefusal) s := by
  obtain ⟨s, hs, hn⟩ : ∃ s, run (plain ⟨.pinned .initial, .default⟩)
    (.idle ⟨.pinned .initial, .default⟩) lateRefusal = some s ∧
      s.negotiator = .agreed ⟨1, 20⟩ := ⟨_, rfl, rfl⟩
  exact ⟨s, hs, hn, converges_of_run rfl (.inr rfl) hs hosts_lateRefusal⟩

/-- The token of the session ends with the line, so that the request never leaves the client. -/
def brokenToken : List Event := [.call (some "token\n") (.send ⟨"GET", "/v1/nodes", .empty, none⟩)]

theorem request_fails_of_brokenToken :
    (∀ m ∈ history (plain ⟨.pinned .initial, .default⟩) (.idle ⟨.pinned .initial, .default⟩)
      brokenToken, recentServer.Hosts (plain ⟨.pinned .initial, .default⟩) m) ∧
    ∃ s t o, run (plain ⟨.pinned .initial, .default⟩) (.idle ⟨.pinned .initial, .default⟩)
        brokenToken = some s ∧ s.tasks[0]? = some t ∧ t.job = .send o ∧ o.hasOwnVersion = false ∧
      t.phase = .finished (.error (.validation (.headerValue "token\n"))) := by
  refine ⟨?_, _, _, _, rfl, rfl, rfl, rfl, rfl⟩
  intro m hm
  obtain rfl := List.mem_singleton.mp hm
  exact ⟨by rintro o ⟨⟩; rfl, Server.serves_of_not_answer (by rintro _ ⟨⟩)⟩

end Recent

end System

end Client

end Microversion
