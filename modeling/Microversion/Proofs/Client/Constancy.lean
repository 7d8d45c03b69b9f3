import Microversion.Proofs.Client.Building
import Microversion.Proofs.Client.Dialogue

/-! # What stays the same within a call

Headers that agree except under one name still do after whatever the client adds
to them. So all requests of a call carry the same headers but for the version,
as long as the session keeps its token, and with them the method and the body of
the call and the endpoint of the client. Only redirects change the target.
-/

namespace Microversion

namespace Http.Headers

/-- The headers agree in everything that has another name. -/
def AgreeExcept (name : String) (hs hs' : Headers) : Prop := hs.erase name = hs'.erase name

section AgreeExcept

variable {name other : String} {hs hs' : Headers} {v : HeaderValue}

theorem erase_append_self (hs : Headers) (name : String) (v : HeaderValue) :
    (hs.append name v).erase name = hs.erase name := by
  simp [append, erase]

theorem erase_append_of_ne (hs : Headers) (v : HeaderValue) (h : other ≠ name) :
    (hs.append other v).erase name = (hs.erase name).append other v := by
  simp [append, erase, h]

theorem erase_comm (hs : Headers) (name other : String) :
    (hs.erase other).erase name = (hs.erase name).erase other := by
  simp only [erase, List.filter_filter, Bool.and_comm]

namespace AgreeExcept

theorem symm (h : AgreeExcept name hs hs') : AgreeExcept name hs' hs := Eq.symm h

theorem trans {hs'' : Headers} (h : AgreeExcept name hs hs') (h' : AgreeExcept name hs' hs'') :
    AgreeExcept name hs hs'' := Eq.trans h h'

theorem contains_eq (h : AgreeExcept name hs hs') (hne : other ≠ name) :
    hs.contains other = hs'.contains other := by
  refine contains_congr ?_
  rw [← values_erase_of_ne hs hne, h, values_erase_of_ne hs' hne]

theorem erase (h : AgreeExcept name hs hs') (other : String) :
    AgreeExcept name (hs.erase other) (hs'.erase other) := by
  rw [AgreeExcept, erase_comm, h, ← erase_comm]

theorem append (h : AgreeExcept name hs hs') (other : String) (v : HeaderValue) :
    AgreeExcept name (hs.append other v) (hs'.append other v) := by
  by_cases hne : other = name
  · rw [AgreeExcept, hne, erase_append_self, erase_append_self]
    exact h
  · rw [AgreeExcept, erase_append_of_ne _ _ hne, erase_append_of_ne _ _ hne, h]

theorem insert (h : AgreeExcept name hs hs') (other : String) (v : HeaderValue) :
    AgreeExcept name (hs.insert other v) (hs'.insert other v) :=
  (h.erase other).append other v

theorem append_self (hs : Headers) (name : String) (v : HeaderValue) :
    AgreeExcept name (hs.append name v) hs := erase_append_self hs name v

theorem insert_self (hs : Headers) (name : String) (v : HeaderValue) :
    AgreeExcept name (hs.insert name v) hs := by
  rw [AgreeExcept, Headers.insert, erase_append_self]
  simp [Headers.erase]

theorem orInsert_self (hs : Headers) (name : String) (v : HeaderValue) :
    AgreeExcept name (hs.orInsert name v) hs := by
  unfold orInsert
  split
  · rfl
  · exact append_self hs name v

theorem orInsert (h : AgreeExcept name hs hs') (other : String) (v : HeaderValue) :
    AgreeExcept name (hs.orInsert other v) (hs'.orInsert other v) := by
  by_cases hne : other = name
  · subst hne
    exact (orInsert_self hs other v).trans (h.trans (orInsert_self hs' other v).symm)
  · unfold Headers.orInsert
    rw [h.contains_eq hne]
    split
    · exact h
    · exact h.append other v

theorem foldl_orInsert (h : AgreeExcept name hs hs') (es : List (String × HeaderValue)) :
    AgreeExcept name (es.foldl (fun hs e => hs.orInsert e.1 e.2) hs)
      (es.foldl (fun hs e => hs.orInsert e.1 e.2) hs') := by
  induction es generalizing hs hs' with
  | nil => exact h
  | cons e es ih => exact ih (h.orInsert e.1 e.2)

end AgreeExcept

end AgreeExcept

end Http.Headers

namespace Client

open Http Headers

section Added

variable {name : String} {hs hs' out out' : Headers} {token : Option String}

theorem agreeExcept_withAdditional (c : Client) (h : AgreeExcept name hs hs') :
    AgreeExcept name (c.withAdditional hs) (c.withAdditional hs') := by
  have hf := h.foldl_orInsert c.additional.entries
  unfold withAdditional
  cases c.requestId with
  | none => exact hf
  | some id => exact hf.orInsert _ id

theorem agreeExcept_withCredentials (hne : tokenHeader ≠ name) (h : AgreeExcept name hs hs')
    (ho : withCredentials token hs = .ok out) (ho' : withCredentials token hs' = .ok out') :
    AgreeExcept name out out' := by
  unfold withCredentials at ho ho'
  cases token with
  | none =>
    cases ho
    cases ho'
    exact h.orInsert _ _
  | some text =>
    dsimp only at ho ho'
    rw [h.contains_eq hne] at ho
    split at ho
    · next hc =>
      rw [if_pos hc] at ho'
      cases ho
      cases ho'
      exact h.orInsert _ _
    · next hc =>
      rw [if_neg hc] at ho'
      cases hv : headerValue text with
      | error e =>
        rw [hv] at ho
        cases ho
      | ok v =>
        rw [hv] at ho ho'
        cases ho
        cases ho'
        exact (h.insert _ _).orInsert _ _

theorem agreeExcept_withVersion (n : Negotiator) (hs : Headers) :
    AgreeExcept versionHeader (withVersion n hs) hs := by
  unfold withVersion
  split
  · exact .orInsert_self hs _ _
  · rfl

/-- What a client speaks makes no difference to a request but in its version. -/
theorem agreeExcept_requestHeaders {c : Client} {n n' : Negotiator} {own : Headers}
    (h : c.requestHeaders token n own = .ok out) (h' : c.requestHeaders token n' own = .ok out') :
    AgreeExcept versionHeader out out' := by
  obtain ⟨hs, hw, rfl⟩ := exists_of_requestHeaders h
  obtain ⟨hs', hw', rfl⟩ := exists_of_requestHeaders h'
  have hv := (agreeExcept_withVersion n own).trans (agreeExcept_withVersion n' own).symm
  exact agreeExcept_withAdditional c (agreeExcept_withCredentials (by decide) hv hw hw')

end Added

/-- The headers are those of a first request of the call, whatever version they say. -/
def Dressed (c : Client) (token : Option String) (o : Order) (hs : Headers) : Prop :=
  ∃ n out, c.requestHeaders token n o.headers = .ok out ∧ AgreeExcept versionHeader hs out

section Dressed

variable {c : Client} {token : Option String} {o : Order} {hs hs' : Headers}

theorem dressed_of_requestHeaders {n : Negotiator}
    (h : c.requestHeaders token n o.headers = .ok hs) : Dressed c token o hs :=
  ⟨n, hs, h, rfl⟩

theorem Dressed.agreeExcept (h : Dressed c token o hs) (h' : Dressed c token o hs') :
    AgreeExcept versionHeader hs hs' := by
  obtain ⟨n, out, hout, ha⟩ := h
  obtain ⟨n', out', hout', ha'⟩ := h'
  exact ha.trans ((agreeExcept_requestHeaders hout hout').trans ha'.symm)

theorem Dressed.insert (h : Dressed c token o hs) (v : HeaderValue) :
    Dressed c token o (hs.insert versionHeader v) := by
  obtain ⟨n, out, hout, ha⟩ := h
  exact ⟨n, out, hout, (AgreeExcept.insert_self hs _ v).trans ha⟩

/-- An exchange goes on with the headers with which its attempt began, but for the version. -/
theorem Task.Turn.wears {P : Headers → Prop} {t : Task} {n : Negotiator} {signal : Signal}
    {p : Progress} (h : Turn c token n t signal p) (hj : t.job = .send o)
    (hfirst : ∀ n hs, c.requestHeaders token n o.headers = .ok hs → P hs)
    (hinsert : ∀ hs v, P hs → P (hs.insert versionHeader v))
    (hx : ∀ x, t.phase.exchange? = some x → P x.headers) {x : Exchange}
    (hp : p.task.phase.exchange? = some x) : P x.headers := by
  cases h with
  | refuse _ hph =>
    cases hp
    exact hx _ (by rw [hph]; rfl)
  | @redirect _ y _ target _ hph =>
    cases hp
    exact hx y (by rw [hph]; rfl)
  | first hj' _ _ hh =>
    cases hp
    obtain rfl : _ = o := by simpa [hj] using hj'.symm
    exact hfirst _ _ hh
  | @adopt _ y _ version _ hph =>
    cases hp
    exact hinsert _ _ (hx y (by rw [hph]; rfl))
  | @ask purpose _ hph =>
    cases purpose with
    | afterRefusal y r =>
      cases hp
      exact hx _ (by rw [hph]; rfl)
    | _ => cases hp
  | @askAgain purpose _ _ a hph =>
    cases purpose with
    | afterRefusal y r =>
      cases hp
      exact hx _ (by rw [hph]; rfl)
    | _ => cases hp
  | agreeFirst v hj' _ hh =>
    cases hp
    obtain rfl : _ = o := by simpa [hj] using hj'.symm
    exact hfirst _ _ hh
  | @agreeResend _ _ y _ v _ hc =>
    cases hp
    refine hinsert _ _ (hx y ?_)
    cases hc with
    | refusal hph => rw [hph]; rfl
    | answer a hph => rw [hph]; rfl
  | @queue purpose _ _ hpa =>
    cases purpose <;> cases hp
    cases hpa
  | _ => simp at hp

end Dressed

namespace System

variable {c : Client} {ms : List Move} {s : System} {m : Move} {k : Nat} {token : Option String}

/-- The headers of the requests that a call has sent, and of those that it will send. -/
structure Wears (P : Order → Headers → Prop) (c : Client) (k : Nat) (s : System) : Prop where
  sent : ∀ r : Request, (k, .send r) ∈ s.log → ∃ t o x, s.tasks[k]? = some t ∧ t.job = .send o ∧
    r = Task.request c o x ∧ P o x.headers
  waiting : ∀ (t : Task) (o : Order) (x : Exchange), s.tasks[k]? = some t → t.job = .send o →
    t.phase.exchange? = some x → P o x.headers

section Wears

variable {P : Order → Headers → Prop}

theorem wears_idle (P : Order → Headers → Prop) (c : Client) (k : Nat) :
    Wears P c k (.idle c.start) where
  sent r h := by cases h
  waiting t o x h := by simp [idle] at h

theorem Wears.next (hd : Wears P c m.number s) (hs : Sound c s) (hm : Makes c s m)
    (hfirst : ∀ n o hs, c.requestHeaders m.token n o.headers = .ok hs → P o hs)
    (hinsert : ∀ o hs v, P o hs → P o (hs.insert versionHeader v)) {o : Order}
    (hj : m.before.job = .send o) {x : Exchange}
    (hx : m.progress.task.phase.exchange? = some x) : P o x.headers := by
  refine (hs.turn hm).wears hj (fun n => hfirst n o) (hinsert o) (fun y hy => ?_) hx
  rcases hm.origin with ho | ⟨-, job, ho⟩
  · exact hd.waiting _ _ _ ho hj hy
  · rw [ho] at hy
    cases hy

theorem Wears.after (hd : Wears P c k s) (hs : Sound c s) (hm : Makes c s m)
    (hfirst : m.number = k → ∀ n o hs, c.requestHeaders m.token n o.headers = .ok hs → P o hs)
    (hinsert : ∀ o hs v, P o hs → P o (hs.insert versionHeader v)) : Wears P c k (s.after m) where
  sent r h := by
    rw [log_after, List.mem_append] at h
    rcases h with h | h
    · obtain ⟨t, o, x, ht, hj, hr, hx⟩ := hd.sent r h
      obtain ⟨t', ht', hj'⟩ := exists_task_after hs hm ht
      exact ⟨t', o, x, ht', hj'.trans hj, hr, hx⟩
    · obtain ⟨e, he, heq⟩ := List.mem_map.mp h
      cases heq
      have turn := hs.turn hm
      obtain ⟨o, x, hj, hx, -, hr⟩ := turn.request_of_sent (mem_sent_of_effects he)
      refine ⟨m.progress.task, o, x, ?_, turn.job_eq.trans hj, hr, ?_⟩
      · rw [getElem?_tasks_after hm.number_le, if_pos rfl]
      · exact hd.next hs hm (hfirst rfl) hinsert hj (by rw [hx]; rfl)
  waiting t o x ht hj hx := by
    rw [getElem?_tasks_after hm.number_le] at ht
    split at ht
    · next hk =>
      subst hk
      cases ht
      exact hd.next hs hm (hfirst rfl) hinsert ((hs.turn hm).job_eq ▸ hj) hx
    · exact hd.waiting t o x ht hj hx

theorem Reaches.wears (h : Reaches c ms s)
    (hfirst : ∀ m ∈ ms, m.number = k → ∀ n o hs,
      c.requestHeaders m.token n o.headers = .ok hs → P o hs)
    (hinsert : ∀ o hs v, P o hs → P o (hs.insert versionHeader v)) : Wears P c k s := by
  induction h with
  | idle => exact wears_idle P c k
  | move hr hm ih =>
    have ih := ih fun m' hm' => hfirst m' (List.mem_append_left _ hm')
    exact ih.after hr.sound hm
      (hfirst _ (List.mem_append_right _ (List.mem_singleton_self _))) hinsert

end Wears

/-- A call is dressed with the token that all its moves come with; other calls may have others. -/
theorem Reaches.dresses (h : Reaches c ms s) (htoken : ∀ m ∈ ms, m.number = k → m.token = token) :
    Wears (Dressed c token) c k s := by
  refine h.wears ?_ fun _ _ v hd => hd.insert v
  intro m hm hk n o hs hh
  rw [htoken m hm hk] at hh
  exact dressed_of_requestHeaders hh

/-- What a call sends differs in the version only, and where redirects lead. -/
structure KeepsForm (c : Client) (filter : EndpointFilter) (base : String) (o : Order) (k : Nat)
    (ms : List Move) (s : System) : Prop where
  form : ∀ r : Request, (k, .send r) ∈ s.log →
    r.method = o.method ∧ r.body = o.body ∧ r.filter = filter ∧ r.base = some base
  headers : ∀ r r' : Request, (k, .send r) ∈ s.log → (k, .send r') ∈ s.log →
    AgreeExcept versionHeader r.headers r'.headers
  attempts : ∀ r : Request, (k, .send r) ∈ s.log → ∃ a, .sent r ∈ exchanges k a ms
  targets : ∀ (a : UInt32) (before after : List Utterance) (r : Request),
    exchanges k a ms = before ++ .sent r :: after → Prompts c o before r

theorem keepsForm_of_run {settings : Settings} {found : Except Error (Option String)}
    {shared : Option Cache} {now : Nat} {fs : Storage.FileSystem} {es : List Event} {t : Task}
    {o : Order} (hb : build settings found shared now fs = .ok c)
    (h : run c (.idle c.start) es = some s) (ht : s.tasks[k]? = some t) (hj : t.job = .send o)
    (htoken : ∀ m ∈ history c (.idle c.start) es, m.number = k → m.token = token) :
    ∃ url, settings.endpointUrl found = .ok url ∧
      KeepsForm c settings.filter (Endpoint.trim url) o k (history c (.idle c.start) es) s := by
  have built := built_of_build hb
  have hr := reaches_of_run h
  have hd := hr.dresses htoken
  obtain ⟨url, hu, he⟩ := built.exists_url
  have sent : ∀ r : Request, (k, .send r) ∈ s.log →
      ∃ x, r = Task.request c o x ∧ Dressed c token o x.headers := by
    intro r hlog
    obtain ⟨t', o', x, ht', hj', hr', hx⟩ := hd.sent r hlog
    rw [ht] at ht'
    cases ht'
    rw [hj] at hj'
    cases hj'
    exact ⟨x, hr', hx⟩
  refine ⟨url, hu, ?_⟩
  constructor
  case form =>
    intro r hlog
    obtain ⟨x, rfl, -⟩ := sent r hlog
    exact ⟨rfl, rfl, built.filter, congrArg some he⟩
  case headers =>
    intro r r' hlog hlog'
    obtain ⟨x, rfl, hx⟩ := sent r hlog
    obtain ⟨x', rfl, hx'⟩ := sent r' hlog'
    exact hx.agreeExcept hx'
  case attempts => exact fun r hlog => hr.exists_mem_exchanges hlog
  case targets =>
    intro a before after r hx
    obtain ⟨t', o', -, ht', hj', -, hp⟩ := hr.traces.prompted k a before after r hx
    rw [ht] at ht'
    cases ht'
    rw [hj] at hj'
    cases hj'
    exact hp

/-- An endpoint with a version, and a header of the client's own. -/
def steadySettings : Settings :=
  .ofList [.endpoint "http://ironic:6385/v1/", .withoutCache, .header "X-Client" "steady"]

/-- The client of these settings. -/
def steadyClient : Client :=
  ⟨"http://ironic:6385", .default, .resolved .unset, ⟨[("x-client", plainValue "steady")]⟩, none,
    none, none, ⟨.pinned .initial, .default⟩⟩

/-- A request is refused, sent again, redirected and not served, so that a second attempt is
made. -/
def windingRun : List Event :=
  [.call (some "secret") (.send ⟨"PUT", "/v1/nodes", .empty, some [1]⟩),
    .signal (some "secret") 0 (.answer (.ok (rangeResponse 406 ⟨1, 1⟩ ⟨1, 5⟩))),
    .signal (some "secret") 0 .lock,
    .signal (some "secret") 0 (.answer (.ok (redirection "/other"))),
    .signal (some "secret") 0 (.answer (.ok ⟨503, .empty, []⟩)),
    .signal (some "secret") 0 .wake]

theorem keepsForm_of_windingRun :
    build steadySettings (.ok none) none 0 .empty = .ok steadyClient ∧
      (∀ m ∈ history steadyClient (.idle steadyClient.start) windingRun, m.number = 0 →
        m.token = some "secret") ∧
      ∃ s t, run steadyClient (.idle steadyClient.start) windingRun = some s ∧
        s.tasks[0]? = some t ∧ t.job = .send ⟨"PUT", "/v1/nodes", .empty, some [1]⟩ ∧
        (s.log.filterMap fun e => e.2.sent?).map (fun r => (r.target,
            r.headers.values versionHeader)) =
          [("/v1/nodes", [plainValue "1.9"]), ("/v1/nodes", [plainValue "1.5"]),
            ("http://ironic:6385/other", [plainValue "1.5"]), ("/v1/nodes", [plainValue "1.5"])] ∧
        ∃ url, steadySettings.endpointUrl (.ok none) = .ok url ∧
          KeepsForm steadyClient steadySettings.filter (Endpoint.trim url)
            ⟨"PUT", "/v1/nodes", .empty, some [1]⟩ 0
            (history steadyClient (.idle steadyClient.start) windingRun) s := by
  have hb : build steadySettings (.ok none) none 0 .empty = .ok steadyClient := rfl
  have htoken : ∀ m ∈ history steadyClient (.idle steadyClient.start) windingRun, m.number = 0 →
      m.token = some "secret" := by decide +kernel
  obtain ⟨s, hr, t, ht, hj, hsent⟩ :
      ∃ s, run steadyClient (.idle steadyClient.start) windingRun = some s ∧
        ∃ t, s.tasks[0]? = some t ∧ t.job = .send ⟨"PUT", "/v1/nodes", .empty, some [1]⟩ ∧
        (s.log.filterMap fun e => e.2.sent?).map (fun r => (r.target,
            r.headers.values versionHeader)) =
          [("/v1/nodes", [plainValue "1.9"]), ("/v1/nodes", [plainValue "1.5"]),
            ("http://ironic:6385/other", [plainValue "1.5"]),
            ("/v1/nodes", [plainValue "1.5"])] :=
    ⟨_, rfl, _, rfl, rfl, by decide +kernel⟩
  exact ⟨hb, htoken, s, t, hr, ht, hj, hsent, keepsForm_of_run hb hr ht hj htoken⟩

end System

end Client

end Microversion
