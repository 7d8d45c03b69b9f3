import Microversion.Proofs.Client.Building
import Microversion.Proofs.Client.Override

/-! # What leaves a client

A client is built with a version, or it has to negotiate one before anything
leaves it. Every request of a call without a version of its own says one version,
with which the client was built or on which it has agreed before; additional
headers have no say in it. A request for the range of the server says none.
-/

namespace Microversion

theorem Negotiator.mustNegotiate_of_isNegotiated {n : Negotiator} (h : n.isNegotiated = true) :
    n.mustNegotiate = false := by
  simp only [isNegotiated, beq_iff_eq] at h
  simp [mustNegotiate, h]

namespace Client

open Http

theorem values_discoveryRequest {c : Client} {token : Option String} {major : UInt32} {r : Request}
    (h : c.discoveryRequest token major = .ok r) : r.headers.values versionHeader = [] := by
  unfold discoveryRequest at h
  cases hw : withCredentials token .empty with
  | error e => rw [hw] at h; cases h
  | ok headers =>
    rw [hw] at h
    cases h
    exact values_withCredentials hw (by decide) (by decide)

namespace Task

variable {c : Client} {token : Option String} {t : Task} {n : Negotiator} {signal : Signal}
  {p : Progress}

theorem discoveries_firstExchange (o : Order) :
    (t.firstExchange c token n o).discoveries = [] := by
  rcases firstExchange_cases c token t n o with ⟨e, he⟩ | ⟨headers, -, he⟩ <;> rw [he] <;> simp

theorem discoveries_withVersion (purpose : Purpose) (version : String) :
    (t.withVersion c token n purpose version).discoveries = [] := by
  unfold withVersion
  split
  · simp
  · exact discoveries_firstExchange _
  · simp

/-- Only the request for the range is sent to discover it, and the task waits for the answer. -/
theorem discovery_of_negotiate {purpose : Purpose} {ip : Inquiry.Progress} {r : Request}
    (hr : r ∈ (t.negotiate c token n purpose ip).discoveries) :
    ∃ purpose' q, (t.negotiate c token n purpose ip).task.phase = .asking purpose' q ∧
      c.discoveryRequest token q.major = .ok r := by
  unfold negotiate at hr ⊢
  split at hr
  · simp at hr
  · simp [discoveries_withVersion] at hr
  · next q =>
    split at hr
    · simp at hr
    · next hd =>
      simp only [Progress.discoveries_discover, List.mem_singleton] at hr
      exact ⟨purpose, q, rfl, hr ▸ hd⟩

theorem discovery_of_locked {purpose : Purpose} {r : Request}
    (hr : r ∈ (t.locked c token n purpose).discoveries) :
    ∃ purpose' q, (t.locked c token n purpose).task.phase = .asking purpose' q ∧
      c.discoveryRequest token q.major = .ok r := by
  unfold locked at hr ⊢
  split at hr <;> split at hr
  · next hm =>
    rw [if_pos hm]
    exact discovery_of_negotiate hr
  · simp [discoveries_withVersion] at hr
  · simp [discoveries_withVersion] at hr
  · next hs =>
    rw [if_neg hs]
    exact discovery_of_negotiate hr
  · simp [discoveries_withVersion] at hr
  · exact discovery_of_negotiate hr

theorem discovery_of_step (h : t.step c token n signal = some p) {r : Request}
    (hr : r ∈ p.discoveries) : ∃ purpose q, p.task.phase = .asking purpose q ∧
      c.discoveryRequest token q.major = .ok r := by
  unfold step at h
  split at h
  · cases h; exact discovery_of_locked hr
  · cases h; exact discovery_of_negotiate hr
  · cases h; simp at hr
  · cases h
    next x r' o _ _ =>
    have hz : (t.received c n o x r').discoveries = [] := by
      unfold received
      split
      · rfl
      · split
        · unfold redirect
          split
          · simp
          · split <;> simp
        · split <;> simp
    simp [hz] at hr
  · cases h
    unfold beginAttempt at hr
    split at hr
    · simp at hr
    · split at hr
      · simp at hr
      · simp [discoveries_firstExchange] at hr
  · cases h

namespace Turn

/-- A request of the caller is the last thing that a turn does, after an agreement if there is
one. -/
theorem effects_of_sent (h : Turn c token n t signal p) {r : Request} (hr : r ∈ p.sent) :
    p.effects = p.agreed.map Effect.remember ++ [.send r] := by
  cases h with
  | first =>
    simp only [sent_exchange, List.mem_singleton] at hr
    rw [agreed_exchange, hr]
    rfl
  | redirect =>
    simp only [sent_exchange, List.mem_singleton] at hr
    rw [agreed_exchange, hr]
    rfl
  | adopt =>
    simp only [resend_eq, sent_exchange, List.mem_singleton] at hr
    rw [resend_eq, agreed_exchange, hr]
    rfl
  | agreeFirst v =>
    simp only [Progress.sent_after, sent_exchange, List.mem_singleton] at hr
    rw [Progress.agreed_after, agreed_exchange, hr]
    rfl
  | agreeResend v =>
    simp only [resend_eq, Progress.sent_after, sent_exchange, List.mem_singleton] at hr
    rw [resend_eq, Progress.agreed_after, agreed_exchange, hr]
    rfl
  | _ => simp at hr

/-- An exchange of a call without a version of its own says one version, be it what the client
speaks, what is agreed on, or what the exchange has said before. -/
theorem exists_spoken (h : Turn c token n t signal p) {o : Order} (hj : t.job = .send o)
    (ho : o.hasOwnVersion = false) {S : Version → Prop}
    (hn : n.mustNegotiate = false → ∃ v, n.requested = .pinned v ∧ S v)
    (ha : ∀ v ∈ p.agreed, S v)
    (hx : ∀ x, t.phase.exchange? = some x →
      ∃ v, x.headers.values versionHeader = [plainValue v.text] ∧ S v)
    {x : Exchange} (hp : p.task.phase.exchange? = some x) :
    ∃ v, x.headers.values versionHeader = [plainValue v.text] ∧ S v := by
  cases h with
  | refuse _ hph =>
    cases hp
    exact hx _ (by rw [hph]; rfl)
  | @redirect _ y _ target _ hph =>
    cases hp
    exact hx y (by rw [hph]; rfl)
  | first hj' _ hm hh =>
    cases hp
    obtain rfl : _ = o := by simpa [hj] using hj'.symm
    obtain ⟨v, hv, hs⟩ := hn hm
    exact ⟨v, values_requestHeaders_of_spoken hh ho (by rw [Negotiator.headerText?, hv]; rfl), hs⟩
  | @adopt _ y _ version _ _ hv =>
    cases hp
    obtain ⟨hneg, htext⟩ : n.isNegotiated = true ∧ n.headerText? = some version := by
      simp only [newerVersion?, hj] at hv
      split at hv
      · next hc => exact ⟨hc.1, hv⟩
      · cases hv
    obtain ⟨v, hr, hs⟩ := hn (Negotiator.mustNegotiate_of_isNegotiated hneg)
    rw [Negotiator.headerText?, hr] at htext
    cases htext
    exact ⟨v, by simp, hs⟩
  | @ask purpose _ hph =>
    cases purpose with
    | afterRefusal y r =>
      cases hp
      exact hx _ (by rw [hph]; rfl)
    | _ => cases hp
  | @askAgain purpose _ _ a hph =>
    cases purpose with
    | afterRefusal y r =>
      cases hp
      exact hx _ (by rw [hph]; rfl)
    | _ => cases hp
  | agreeFirst v hj' _ hh =>
    cases hp
    obtain rfl : _ = o := by simpa [hj] using hj'.symm
    exact ⟨v, values_requestHeaders_of_spoken hh ho (Negotiator.headerText?_agreed v),
      ha v (by simp)⟩
  | agreeResend v =>
    cases hp
    exact ⟨v, by simp, ha v (by simp)⟩
  | @queue purpose _ _ hpa =>
    cases purpose <;> cases hp
    cases hpa
  | _ => simp at hp

end Turn

end Task

namespace System

variable {c : Client} {s : System} {m : Move}

theorem mem_agreements {v : Version} : v ∈ s.agreements ↔ ∃ k, (k, .remember v) ∈ s.log := by
  simp only [agreements, List.mem_filterMap, Prod.exists]
  constructor
  · rintro ⟨k, e, he, hv⟩
    cases e <;> cases hv
    exact ⟨k, he⟩
  · rintro ⟨k, he⟩
    exact ⟨k, _, he, rfl⟩

/-- A version that a client began with, or that its calls have agreed on by the end of a log. -/
def Spoken (c : Client) (log : List (Nat × Effect)) (v : Version) : Prop :=
  c.start.requested = .pinned v ∨ ∃ k, (k, .remember v) ∈ log

theorem Spoken.append {log : List (Nat × Effect)} {v : Version} (h : Spoken c log v)
    (more : List (Nat × Effect)) : Spoken c (log ++ more) v :=
  h.imp_right fun ⟨k, hk⟩ => ⟨k, List.mem_append_left _ hk⟩

/-- Where an event stands in a log that has grown: among what was there, or in what has been
added. -/
theorem split_append {α : Type} {xs ys before after : List α} {e : α}
    (h : xs ++ ys = before ++ e :: after) :
    (∃ rest, xs = before ++ e :: rest) ∨
      ∃ more, before = xs ++ more ∧ ys = more ++ e :: after := by
  rcases List.append_eq_append_iff.mp h with ⟨more, hb, hy⟩ | ⟨rest, hx, he⟩
  · exact .inr ⟨more, hb, hy⟩
  · cases rest with
    | nil => exact .inr ⟨[], by simpa using hx.symm, by simpa using he.symm⟩
    | cons e' rest =>
      obtain ⟨rfl, -⟩ := List.cons_eq_cons.mp he
      exact .inl ⟨rest, hx⟩

section Utters

/-- The log at the time at which a move sends its request, if it sends one. -/
def heard (s : System) (m : Move) : List (Nat × Effect) :=
  s.log ++ m.progress.agreed.map fun v => (m.number, .remember v)

theorem spoken_after {v : Version} (h : Spoken c (s.heard m) v) : Spoken c (s.after m).log v := by
  refine h.imp_right fun ⟨k, hk⟩ => ?_
  rw [heard, List.mem_append, List.mem_map] at hk
  rw [log_after]
  rcases hk with hk | ⟨w, hw, he⟩
  · exact ⟨k, List.mem_append_left _ hk⟩
  · cases he
    obtain ⟨e, he, hv⟩ := List.mem_filterMap.mp hw
    cases e <;> cases hv
    exact ⟨m.number, List.mem_append_right _ (List.mem_map_of_mem he)⟩

/-- What a client speaks when it does not have to ask. -/
theorem Sound.exists_spoken (hs : Sound c s)
    (hc : c.start.mustNegotiate = false → ∃ v, c.start.requested = .pinned v)
    (hn : s.negotiator.mustNegotiate = false) :
    ∃ v, s.negotiator.requested = .pinned v ∧ Spoken c s.log v := by
  rcases hs.agreed with ⟨-, he⟩ | ⟨v, hv, he, -⟩
  · rw [he] at hn ⊢
    obtain ⟨v, hv⟩ := hc hn
    exact ⟨v, hv, .inl hv⟩
  · exact ⟨v, by rw [he]; rfl, .inr (mem_agreements.mp (by simp [hv]))⟩

/-- A call that goes on keeps its job. -/
theorem exists_task_after (hs : Sound c s) (hm : Makes c s m) {k : Nat} {t : Task}
    (ht : s.tasks[k]? = some t) :
    ∃ t', (s.after m).tasks[k]? = some t' ∧ t'.job = t.job := by
  rw [getElem?_tasks_after hm.number_le]
  split
  · next hk =>
    refine ⟨_, rfl, ?_⟩
    rw [(hs.turn hm).job_eq]
    rcases hm.origin with ho | ⟨ho, -⟩
    · rw [hk, ho] at ht
      rw [Option.some.inj ht]
    · rw [hk, ho, List.getElem?_eq_none (Nat.le_refl _)] at ht
      cases ht
  · exact ⟨t, ht, rfl⟩

/-- What is known of the requests that have left a client and of those that will. -/
structure Utters (c : Client) (s : System) : Prop where
  sent : ∀ (before after : List (Nat × Effect)) (k : Nat) (r : Request),
    s.log = before ++ (k, .send r) :: after →
    (c.start.mustNegotiate = true → ∃ j v, (j, .remember v) ∈ before) ∧
    ∃ t, s.tasks[k]? = some t ∧ ∀ o, t.job = .send o → o.hasOwnVersion = false →
      ∃ v : Version, r.headers.values versionHeader = [plainValue v.text] ∧ Spoken c before v
  waiting : ∀ (k : Nat) (t : Task) (o : Order) (x : Exchange), s.tasks[k]? = some t →
    t.job = .send o → o.hasOwnVersion = false → t.phase.exchange? = some x →
    ∃ v : Version, x.headers.values versionHeader = [plainValue v.text] ∧ Spoken c s.log v
  discovered : ∀ (k : Nat) (r : Request), (k, .discover r) ∈ s.log →
    r.headers.values versionHeader = []

theorem utters_idle (c : Client) : Utters c (.idle c.start) where
  sent before after k r h := by simp [idle] at h
  waiting k t o x h := by simp [idle] at h
  discovered k r h := by simp [idle] at h

variable {ms : List Move}

theorem Utters.exists_spoken (hu : Utters c s) (hs : Sound c s)
    (hc : c.start.mustNegotiate = false → ∃ v, c.start.requested = .pinned v)
    (hm : Makes c s m) {o : Order} (hj : m.before.job = .send o) (ho : o.hasOwnVersion = false)
    {x : Exchange} (hx : m.progress.task.phase.exchange? = some x) :
    ∃ v, x.headers.values versionHeader = [plainValue v.text] ∧ Spoken c (s.heard m) v := by
  refine (hs.turn hm).exists_spoken hj ho (fun hn => ?_) (fun v hv => ?_) (fun y hy => ?_) hx
  · obtain ⟨v, hv, hsp⟩ := hs.exists_spoken hc hn
    exact ⟨v, hv, hsp.append _⟩
  · exact .inr ⟨m.number, List.mem_append_right _ (List.mem_map.mpr ⟨v, hv, rfl⟩)⟩
  · rcases hm.origin with hb | ⟨-, job, hb⟩
    · obtain ⟨v, hv, hsp⟩ := hu.waiting _ _ o y hb hj ho hy
      exact ⟨v, hv, hsp.append _⟩
    · rw [hb] at hy; cases hy

/-- Where the server has to be asked, nothing is sent before something has been agreed on. -/
theorem Reaches.remembered (hr : Reaches c ms s) (hm : Makes c s m)
    (hc : c.start.mustNegotiate = true) {r : Request} (hsent : r ∈ m.progress.sent) :
    ∃ j v, (j, .remember v) ∈ s.heard m := by
  have ht := hr.sound.turn hm
  obtain ⟨x, hx, -⟩ := ht.exchange_of_sent hsent
  have hn : m.progress.negotiator.mustNegotiate = false :=
    ht.mustNegotiate_eq (fun y hy => hr.tracks.mustNegotiate_before hm hy) (by rw [hx]; rfl)
  rcases hr.sound.agreed_after hm with ⟨-, he⟩ | ⟨v, hv, -⟩
  · rw [← negotiator_after s m, he, hc] at hn
    cases hn
  · have hmem : v ∈ s.agreements ++ m.progress.agreed := by
      rw [← agreements_after, hv]
      exact List.mem_singleton_self v
    rcases List.mem_append.mp hmem with h | h
    · obtain ⟨j, hj⟩ := mem_agreements.mp h
      exact ⟨j, v, List.mem_append_left _ hj⟩
    · exact ⟨m.number, v, List.mem_append_right _ (List.mem_map.mpr ⟨v, h, rfl⟩)⟩

theorem mem_sent_of_effects {p : Progress} {r : Request} (h : .send r ∈ p.effects) :
    r ∈ p.sent := List.mem_filterMap.mpr ⟨_, h, rfl⟩

/-- The request that a move adds to the log, and what was there before. -/
theorem eq_of_sent_after (hs : Sound c s) (hm : Makes c s m)
    {before after : List (Nat × Effect)} {k : Nat} {r : Request}
    (h : m.progress.effects.map (m.number, ·) = before ++ (k, .send r) :: after) :
    k = m.number ∧ r ∈ m.progress.sent ∧ s.log ++ before = s.heard m := by
  have hmem : (k, Effect.send r) ∈ m.progress.effects.map (m.number, ·) := by simp [h]
  obtain ⟨e, he, heq⟩ := List.mem_map.mp hmem
  cases heq
  have hr := mem_sent_of_effects he
  refine ⟨rfl, hr, ?_⟩
  -- what was agreed on cannot be the request, which is therefore the last effect
  rw [(hs.turn hm).effects_of_sent hr, List.map_append, List.map_map] at h
  rcases split_append h with ⟨rest, hx⟩ | ⟨more, hb, hy⟩
  · have hin : (m.number, Effect.send r) ∈
        m.progress.agreed.map ((m.number, ·) ∘ Effect.remember) := by rw [hx]; simp
    obtain ⟨v, -, hv⟩ := List.mem_map.mp hin
    cases hv
  · cases more with
    | nil => rw [hb, heard, List.append_nil]; rfl
    | cons e es => simp at hy

theorem Utters.after (hr : Reaches c ms s) (hu : Utters c s)
    (hc : c.start.mustNegotiate = false → ∃ v, c.start.requested = .pinned v)
    (hm : Makes c s m) : Utters c (s.after m) where
  sent before after k r h := by
    rw [log_after] at h
    rcases split_append h with ⟨rest, hx⟩ | ⟨more, rfl, hy⟩
    · obtain ⟨hn, t, ht, hsay⟩ := hu.sent before rest k r hx
      obtain ⟨t', ht', hj⟩ := exists_task_after hr.sound hm ht
      exact ⟨hn, t', ht', fun o ho => hsay o (hj ▸ ho)⟩
    · obtain ⟨rfl, hsent, hb⟩ := eq_of_sent_after hr.sound hm hy
      rw [hb]
      refine ⟨fun hn => hr.remembered hm hn hsent, m.progress.task, ?_, fun o hj ho => ?_⟩
      · rw [getElem?_tasks_after hm.number_le, if_pos rfl]
      · obtain ⟨x, hx, hrx⟩ := (hr.sound.turn hm).exchange_of_sent hsent
        rw [hrx]
        exact hu.exists_spoken hr.sound hc hm ((hr.sound.turn hm).job_eq ▸ hj) ho (by rw [hx]; rfl)
  waiting k t o x ht hj ho hx := by
    rw [getElem?_tasks_after hm.number_le] at ht
    split at ht
    · cases ht
      obtain ⟨v, hv, hsp⟩ := hu.exists_spoken hr.sound hc hm ((hr.sound.turn hm).job_eq ▸ hj) ho hx
      exact ⟨v, hv, spoken_after hsp⟩
    · obtain ⟨v, hv, hsp⟩ := hu.waiting k t o x ht hj ho hx
      exact ⟨v, hv, hsp.append _⟩
  discovered k r h := by
    rw [log_after, List.mem_append] at h
    rcases h with h | h
    · exact hu.discovered k r h
    · obtain ⟨e, he, heq⟩ := List.mem_map.mp h
      cases heq
      obtain ⟨_, _, -, hd⟩ := Task.discovery_of_step hm.step (List.mem_filterMap.mpr ⟨_, he, rfl⟩)
      exact values_discoveryRequest hd

theorem Reaches.utters (hr : Reaches c ms s)
    (hc : c.start.mustNegotiate = false → ∃ v, c.start.requested = .pinned v) : Utters c s := by
  induction hr with
  | idle => exact utters_idle c
  | move hr hm ih => exact ih.after hr hc hm

end Utters

/-- Whatever has left a client goes with the version that it was asked to speak. -/
structure SaysVersions (c : Client) (asked : Option Requested) (s : System) : Prop where
  /-- A request says one version, from the beginning or agreed on before; neither the word for the
  newest version nor an additional header gets there. -/
  concrete : ∀ (before after : List (Nat × Effect)) (k : Nat) (t : Task) (o : Order) (r : Request),
    s.log = before ++ (k, .send r) :: after → s.tasks[k]? = some t → t.job = .send o →
    o.hasOwnVersion = false →
    ∃ v : Version, r.headers.values versionHeader = [plainValue v.text] ∧ Spoken c before v
  negotiated : ∀ requested : Requested, asked = some requested →
    requested.requiresDiscovery = true →
    ∀ (before after : List (Nat × Effect)) (k : Nat) (r : Request),
      s.log = before ++ (k, .send r) :: after → ∃ j v, (j, .remember v) ∈ before
  pinned : ∀ v : Version, asked = some (.pinned v) →
    ∀ (k : Nat) (t : Task) (o : Order) (r : Request), (k, .send r) ∈ s.log →
      s.tasks[k]? = some t → t.job = .send o → o.hasOwnVersion = false →
      r.headers.values versionHeader = [plainValue v.text]
  discovered : ∀ (k : Nat) (r : Request), (k, .discover r) ∈ s.log →
    r.headers.values versionHeader = []
  discovery : ∀ (token : Option String) (major : UInt32) (r : Request),
    c.discoveryRequest token major = .ok r → r.headers.values versionHeader = []

theorem saysVersions_of_run {settings : Settings} {found : Except Error (Option String)}
    {shared : Option Cache} {now : Nat} {fs : Storage.FileSystem} {es : List Event}
    (hb : build settings found shared now fs = .ok c) (hs : settings.selectState = none)
    (h : run c (.idle c.start) es = some s) : SaysVersions c settings.version s := by
  have hr := reaches_of_run h
  have hu := hr.utters fun hn => exists_pinned_of_build hb hs hn
  have concrete : ∀ (before after : List (Nat × Effect)) (k : Nat) (t : Task) (o : Order)
      (r : Request), s.log = before ++ (k, .send r) :: after → s.tasks[k]? = some t →
      t.job = .send o → o.hasOwnVersion = false →
      ∃ v : Version, r.headers.values versionHeader = [plainValue v.text] ∧ Spoken c before v := by
    intro before after k t o r hl ht hj ho
    obtain ⟨-, t', ht', hsay⟩ := hu.sent before after k r hl
    rw [ht] at ht'
    cases ht'
    exact hsay o hj ho
  exact {
    concrete
    negotiated := by
      intro requested ha hd before after k r hl
      refine (hu.sent before after k r hl).1 ?_
      rw [start_of_version hb hs ha]
      exact hd
    pinned := by
      intro v ha k t o r hl ht hj ho
      have hst := start_of_version hb hs ha
      obtain ⟨before, after, hl⟩ := List.append_of_mem hl
      obtain ⟨w, hw, hsp⟩ := concrete before after k t o r hl ht hj ho
      rcases hsp with hsp | ⟨j, hj⟩
      · rw [hst] at hsp
        cases hsp
        exact hw
      -- the version of the user is settled, so that nothing has been agreed on
      · have hmem : w ∈ s.agreements := mem_agreements.mpr ⟨j, by rw [hl]; simp [hj]⟩
        rcases hr.sound.agreed with ⟨he, -⟩ | ⟨u, -, -, hu⟩
        · rw [he] at hmem; cases hmem
        · rw [hst] at hu; cases hu
    discovered := hu.discovered
    discovery := fun token major r hd => values_discoveryRequest hd }

/-- The newest version is asked for, and another one given as an additional header. -/
def newestSettings : Settings :=
  .ofList [.endpoint "http://ironic:6385", .version .latest, .withoutCache,
    .header "X-OpenStack-Ironic-API-Version" "1.99"]

/-- The client of these settings. -/
def newestClient : Client :=
  ⟨"http://ironic:6385", .default, .resolved .unset, ⟨[(versionHeader, plainValue "1.99")]⟩, none,
    none, none, ⟨.latest, .user⟩⟩

/-- The version is negotiated ahead of the request. -/
def negotiatedRun : List Event :=
  [.call none (.send ⟨"GET", "/v1/nodes", .empty, none⟩), .signal none 0 .lock,
    .signal none 0 (.answer (.ok (rangeResponse 200 ⟨1, 1⟩ ⟨1, 50⟩)))]

theorem saysVersions_of_negotiatedRun :
    build newestSettings (.ok none) none 0 .empty = .ok newestClient ∧
      newestSettings.selectState = none ∧
      ∃ s, run newestClient (.idle newestClient.start) negotiatedRun = some s ∧
        (s.log.filterMap fun e => e.2.sent?).map (fun r => r.headers.values versionHeader) =
          [[plainValue "1.50"]] ∧
        SaysVersions newestClient (some .latest) s := by
  have hb : build newestSettings (.ok none) none 0 .empty = .ok newestClient := rfl
  obtain ⟨s, hr, hsent⟩ : ∃ s, run newestClient (.idle newestClient.start) negotiatedRun = some s ∧
      (s.log.filterMap fun e => e.2.sent?).map (fun r => r.headers.values versionHeader) =
        [[plainValue "1.50"]] := ⟨_, rfl, by decide +kernel⟩
  exact ⟨hb, rfl, s, hr, hsent, saysVersions_of_run hb rfl hr⟩

end System

end Client

end Microversion
