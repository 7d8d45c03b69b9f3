import Microversion.Client.Call
import Microversion.Proofs.Client.Constancy

/-! # Headers of the call and of the settings

Every request of a call carries the headers of the call as they are. The headers of
the settings come after all else that the client adds, and reach a request under the
names that are free by then. The client's own agent is never among these.
-/

namespace Microversion

namespace Http.Headers

section Values

variable {hs hs' : Headers} {name : String} {v : HeaderValue}

theorem AgreeExcept.values_eq {other : String} (h : AgreeExcept name hs hs') (hne : other ≠ name) :
    hs.values other = hs'.values other := by
  rw [← values_erase_of_ne hs hne, h, values_erase_of_ne hs' hne]

theorem contains_of_values (h : hs.values name = [v]) : hs.contains name = true :=
  contains_iff.mpr (by rw [h]; exact List.cons_ne_nil _ _)

/-- A name that is free gets the only value that is offered under it. -/
theorem values_foldl_orInsert_of_free (es : List (String × HeaderValue))
    (hfree : hs.contains name = false) (hv : values ⟨es⟩ name = [v]) :
    (es.foldl (fun hs e => hs.orInsert e.1 e.2) hs).values name = [v] := by
  induction es generalizing hs with
  | nil => cases hv
  | cons e es ih =>
    rw [List.foldl_cons]
    by_cases he : e.1 = name
    · have hself : (hs.orInsert e.1 e.2).values name = [e.2] := by
        rw [he]
        exact values_orInsert_self hfree
      have hfirst : e.2 = v := by
        simp only [values, List.filter_cons, he, beq_self_eq_true, if_true, List.map_cons] at hv
        exact (List.cons.inj hv).1
      rw [values_foldl_orInsert es (contains_of_values hself), hself, hfirst]
    · have hother : (hs.orInsert e.1 e.2).values name = hs.values name :=
        values_orInsert_of_ne hs e.2 (Ne.symm he)
      refine ih (by rw [contains_congr hother, hfree]) ?_
      simpa [values, List.filter_cons, he] using hv

end Values

end Http.Headers

namespace Client

open Http Headers

/-- A caller has given the headers of a request. -/
inductive Order.IsOf (own : Headers) : Order → Prop where
  | json (method target : String) (body : Option Json.Value) :
      IsOf own (jsonOrder method target body own)
  | raw (method target : String) : IsOf own (rawOrder method target own)

/-- The settings give the header a value; of names that differ in case only the last one counts. -/
def Settings.Gives (s : Settings) (name : String) (v : HeaderValue) : Prop :=
  ∃ before key text after, s.headers = before ++ (key, text) :: after ∧
    headerName? key = some name ∧ headerValue text = .ok v ∧
    ∀ e ∈ after, headerName? e.1 ≠ some name

/-- The names under which the client may add something of its own. -/
def occupied : List String :=
  ["content-type", "accept", tokenHeader, versionHeader, agentHeader]

/-- The request carries the headers of its call, and those of the settings beside them. -/
structure Carries (s : Settings) (own : Headers) (r : Request) : Prop where
  call : ∀ name, own.contains name = true → name ≠ versionHeader →
    r.headers.values name = own.values name
  settings : ∀ name v, s.Gives name v → own.contains name = false → name ∉ occupied →
    r.headers.values name = [v]
  /-- The agent of the client comes before one of the settings. -/
  agent : own.contains agentHeader = false → r.headers.values agentHeader = [plainValue agent]

section Requests

variable {c : Client} {token : Option String} {n : Negotiator} {own hs hs' : Headers}
  {name : String} {v : HeaderValue} {o : Order}

theorem Order.IsOf.values_of_contains (ho : o.IsOf own) (h : own.contains name = true) :
    o.headers.values name = own.values name := by
  cases ho with
  | json =>
    have htype := values_orInsert h "content-type" (plainValue jsonType)
    exact (values_orInsert (by rw [contains_congr htype, h]) "accept" _).trans htype
  | raw => exact values_orInsert h "content-type" _

theorem Order.IsOf.values_of_ne (ho : o.IsOf own) (htype : name ≠ "content-type")
    (haccept : name ≠ "accept") : o.headers.values name = own.values name := by
  cases ho with
  | json => exact (values_orInsert_of_ne _ _ haccept).trans (values_orInsert_of_ne _ _ htype)
  | raw => exact values_orInsert_of_ne _ _ htype

theorem values_withVersion (n : Negotiator) (hs : Headers) (h : name ≠ versionHeader) :
    (withVersion n hs).values name = hs.values name := by
  unfold withVersion
  split
  · exact values_orInsert_of_ne _ _ h
  · rfl

theorem values_withCredentials_of_contains (h : withCredentials token hs = .ok hs')
    (hc : hs.contains name = true) : hs'.values name = hs.values name := by
  obtain ⟨middle, rfl, hmiddle⟩ := exists_of_withCredentials h
  have hvalues : middle.values name = hs.values name := by
    rcases hmiddle with rfl | ⟨hfree, v, rfl⟩
    · rfl
    · -- the token of the session takes the place of nothing
      apply values_insert_of_ne
      rintro rfl
      rw [hc] at hfree
      cases hfree
  rw [values_orInsert (by rw [contains_congr hvalues, hc]), hvalues]

theorem values_agent_of_withCredentials (h : withCredentials token hs = .ok hs')
    (hfree : hs.contains agentHeader = false) : hs'.values agentHeader = [plainValue agent] := by
  obtain ⟨middle, rfl, hmiddle⟩ := exists_of_withCredentials h
  apply values_orInsert_self
  rcases hmiddle with rfl | ⟨-, v, rfl⟩
  · exact hfree
  · rw [contains_congr (values_insert_of_ne hs v (by decide)), hfree]

theorem values_withAdditional_of_free (hfree : hs.contains name = false)
    (hv : c.additional.values name = [v]) : (c.withAdditional hs).values name = [v] := by
  have hfold := values_foldl_orInsert_of_free c.additional.entries hfree hv
  unfold withAdditional
  cases c.requestId with
  | none => exact hfold
  | some id => exact (values_orInsert (contains_of_values hfold) _ _).trans hfold

theorem values_requestHeaders_of_contains (h : c.requestHeaders token n own = .ok hs)
    (hc : own.contains name = true) (hne : name ≠ versionHeader) :
    hs.values name = own.values name := by
  obtain ⟨out, hout, rfl⟩ := exists_of_requestHeaders h
  have hversion := values_withVersion n own hne
  have hcredentials := values_withCredentials_of_contains hout
    (by rw [contains_congr hversion, hc])
  rw [values_withAdditional c (by rw [contains_congr (hcredentials.trans hversion), hc]),
    hcredentials, hversion]

theorem values_requestHeaders_of_free (h : c.requestHeaders token n own = .ok hs)
    (hfree : own.contains name = false) (hversion : name ≠ versionHeader)
    (htoken : name ≠ tokenHeader) (hagent : name ≠ agentHeader)
    (hv : c.additional.values name = [v]) : hs.values name = [v] := by
  obtain ⟨out, hout, rfl⟩ := exists_of_requestHeaders h
  have hvalues : out.values name = own.values name :=
    (values_withCredentials hout htoken hagent).trans (values_withVersion n own hversion)
  exact values_withAdditional_of_free (by rw [contains_congr hvalues, hfree]) hv

theorem values_agent_of_requestHeaders (h : c.requestHeaders token n own = .ok hs)
    (hfree : own.contains agentHeader = false) : hs.values agentHeader = [plainValue agent] := by
  obtain ⟨out, hout, rfl⟩ := exists_of_requestHeaders h
  have hversion := values_withVersion n own (by decide : agentHeader ≠ versionHeader)
  have hagent := values_agent_of_withCredentials hout (by rw [contains_congr hversion, hfree])
  rw [values_withAdditional c (contains_of_values hagent), hagent]

end Requests

/-! ## The headers of the settings -/

section Build

variable {s : Settings} {found : Except Error (Option String)} {shared : Option Cache} {now : Nat}
  {fs : Storage.FileSystem} {c : Client} {hs hs' : Headers} {name : String} {v : HeaderValue}
  {e : String × String}

/-- The fields with one more header of the settings. -/
def addField (hs : Headers) (e : String × String) : Except Error Headers :=
  match headerName? e.1 with
  | none => .error (.validation (.headerName e.1))
  | some field => (headerValue e.2).map (hs.insert field)

theorem headerFields_eq (entries : Table String) :
    Settings.headerFields entries = entries.foldlM addField .empty := rfl

theorem exists_of_addField (h : addField hs e = .ok hs') :
    ∃ field w, headerName? e.1 = some field ∧ headerValue e.2 = .ok w ∧
      hs' = hs.insert field w := by
  unfold addField at h
  split at h
  · cases h
  · next field hfield =>
    cases hw : headerValue e.2 with
    | error e =>
      rw [hw] at h
      cases h
    | ok w =>
      rw [hw] at h
      exact ⟨field, w, hfield, rfl, (Except.ok.inj h).symm⟩

theorem values_foldlM_addField (entries : List (String × String))
    (h : entries.foldlM addField hs = .ok hs') (hne : ∀ e ∈ entries, headerName? e.1 ≠ some name) :
    hs'.values name = hs.values name := by
  induction entries generalizing hs with
  | nil =>
    cases h
    rfl
  | cons e entries ih =>
    rw [List.foldlM_cons] at h
    obtain ⟨middle, hmiddle, h⟩ := exists_of_bind h
    obtain ⟨field, w, hfield, -, rfl⟩ := exists_of_addField hmiddle
    have hother : name ≠ field := by
      rintro rfl
      exact hne e List.mem_cons_self hfield
    rw [ih h fun e' he' => hne e' (List.mem_cons_of_mem _ he'), values_insert_of_ne hs w hother]

/-- A client has what its settings give. -/
theorem values_additional_of_build (h : build s found shared now fs = .ok c)
    (hv : s.Gives name v) : c.additional.values name = [v] := by
  have hfields := additional_of_build h
  obtain ⟨before, key, text, after, hentries, hname, hvalue, hlast⟩ := hv
  rw [headerFields_eq, hentries, List.foldlM_append] at hfields
  obtain ⟨front, -, hfields⟩ := exists_of_bind hfields
  rw [List.foldlM_cons] at hfields
  obtain ⟨middle, hmiddle, hfields⟩ := exists_of_bind hfields
  obtain ⟨field, w, hfield, hw, rfl⟩ := exists_of_addField hmiddle
  obtain rfl : name = field := Option.some.inj (hname.symm.trans hfield)
  obtain rfl : v = w := Except.ok.inj (hvalue.symm.trans hw)
  rw [values_foldlM_addField after hfields hlast, values_insert_self]

end Build

namespace System

variable {settings : Settings} {found : Except Error (Option String)} {shared : Option Cache}
  {now k : Nat} {fs : Storage.FileSystem} {c : Client} {es : List Event} {s : System} {t : Task}
  {o : Order} {own : Headers}

/-- The token may be another one in each attempt. -/
theorem Reaches.wears_dressed {ms : List Move} (h : Reaches c ms s) (k : Nat) :
    Wears (fun o hs => ∃ token, Dressed c token o hs) c k s := by
  refine h.wears ?_ ?_
  · intro m _ _ n o hs hh
    exact ⟨m.token, dressed_of_requestHeaders hh⟩
  · rintro o hs v ⟨token, hd⟩
    exact ⟨token, hd.insert v⟩

theorem carries_of_dressed {token : Option String} {x : Exchange}
    (hb : build settings found shared now fs = .ok c) (ho : o.IsOf own)
    (hx : Dressed c token o x.headers) : Carries settings own (Task.request c o x) := by
  obtain ⟨n, out, hout, hagree⟩ := hx
  constructor
  case call =>
    intro name hname hversion
    have hvalues := ho.values_of_contains hname
    refine (hagree.values_eq hversion).trans ?_
    rw [values_requestHeaders_of_contains hout (by rw [contains_congr hvalues, hname]) hversion,
      hvalues]
  case settings =>
    intro name v hgives hfree hname
    simp only [occupied, List.mem_cons, List.not_mem_nil, or_false, not_or] at hname
    obtain ⟨htype, haccept, htoken, hversion, hagent⟩ := hname
    refine (hagree.values_eq hversion).trans ?_
    have hvalues := ho.values_of_ne htype haccept
    exact values_requestHeaders_of_free hout (by rw [contains_congr hvalues, hfree]) hversion
      htoken hagent (values_additional_of_build hb hgives)
  case agent =>
    intro hfree
    refine (hagree.values_eq (by decide)).trans ?_
    have hvalues := @Order.IsOf.values_of_ne _ agentHeader _ ho (by decide) (by decide)
    exact values_agent_of_requestHeaders hout (by rw [contains_congr hvalues, hfree])

/-- All requests of a call carry the headers of the call and those of the settings, but for an agent
that the settings name. -/
theorem carries_of_run (hb : build settings found shared now fs = .ok c)
    (h : run c (.idle c.start) es = some s) (ht : s.tasks[k]? = some t) (hj : t.job = .send o)
    (ho : o.IsOf own) : ∀ r : Request, (k, .send r) ∈ s.log → Carries settings own r := by
  intro r hr
  obtain ⟨t', o', x, ht', hj', rfl, token, hx⟩ := ((reaches_of_run h).wears_dressed k).sent r hr
  rw [ht] at ht'
  cases ht'
  rw [hj] at hj'
  cases hj'
  exact carries_of_dressed hb ho hx

/-- A client with three headers of its own, one of which names an agent. -/
def teamSettings : Settings :=
  .ofList [.endpoint "http://ironic:6385/v1/", .withoutCache, .header "X-Team" "blue",
    .header "X-Tool" "probe", .header "User-Agent" "probe/1"]

/-- The client of these settings. -/
def teamClient : Client :=
  ⟨"http://ironic:6385", .default, .resolved .unset,
    ⟨[("user-agent", plainValue "probe/1"), ("x-team", plainValue "blue"),
      ("x-tool", plainValue "probe")]⟩, none, none, none, ⟨.pinned .initial, .default⟩⟩

/-- A call for another team. -/
def redTeam : Headers := Headers.empty.insert "x-team" (plainValue "red")

/-- A request is refused, sent again and not served, and the next attempt is made with another
token. -/
def teamRun : List Event :=
  [.call (some "first") (.send (rawOrder "PUT" "/v1/nodes" redTeam)),
    .signal (some "first") 0 (.answer (.ok (rangeResponse 406 ⟨1, 1⟩ ⟨1, 5⟩))),
    .signal (some "first") 0 .lock,
    .signal (some "first") 0 (.answer (.ok ⟨503, .empty, []⟩)),
    .signal (some "second") 0 .wake]

theorem build_teamSettings :
    build teamSettings (.ok none) none 0 .empty = .ok teamClient := rfl

theorem gives_teamSettings : teamSettings.Gives "x-tool" (plainValue "probe") ∧
    teamSettings.Gives agentHeader (plainValue "probe/1") := by
  constructor
  · exact ⟨[("User-Agent", "probe/1"), ("X-Team", "blue")], "X-Tool", "probe", [],
      rfl, rfl, rfl, by simp⟩
  · exact ⟨[], "User-Agent", "probe/1", [("X-Team", "blue"), ("X-Tool", "probe")],
      rfl, rfl, rfl, by decide⟩

/-- The three requests of the run. -/
theorem run_teamRun :
    ∃ s t, run teamClient (.idle teamClient.start) teamRun = some s ∧ s.tasks[0]? = some t ∧
      t.job = .send (rawOrder "PUT" "/v1/nodes" redTeam) ∧
      (s.log.filterMap fun e => e.2.sent?).map (fun r => (r.headers.values "x-team",
        r.headers.values "x-tool", r.headers.values agentHeader)) =
          List.replicate 3 ([plainValue "red"], [plainValue "probe"], [plainValue agent]) := by
  exact ⟨_, _, rfl, rfl, rfl, rfl⟩

theorem carries_of_teamRun :
    build teamSettings (.ok none) none 0 .empty = .ok teamClient ∧
      teamSettings.Gives "x-tool" (plainValue "probe") ∧
      ∃ s t, run teamClient (.idle teamClient.start) teamRun = some s ∧ s.tasks[0]? = some t ∧
        t.job = .send (rawOrder "PUT" "/v1/nodes" redTeam) ∧
        (s.log.filterMap fun e => e.2.sent?).length = 3 ∧
        ∀ r : Request, (0, .send r) ∈ s.log → Carries teamSettings redTeam r := by
  obtain ⟨s, t, hr, ht, hj, hsent⟩ := run_teamRun
  refine ⟨build_teamSettings, gives_teamSettings.1, s, t, hr, ht, hj, ?_, ?_⟩
  · simpa using congrArg List.length hsent
  · exact carries_of_run build_teamSettings hr ht hj (.raw "PUT" "/v1/nodes")

/-- The settings name an agent, and the request goes out under that of the client. -/
theorem agent_of_teamRun :
    teamSettings.Gives agentHeader (plainValue "probe/1") ∧
      redTeam.contains agentHeader = false ∧
      agentHeader ∉ ["content-type", "accept", tokenHeader, versionHeader] ∧
      build teamSettings (.ok none) none 0 .empty = .ok teamClient ∧
      ∃ s r, run teamClient (.idle teamClient.start) (teamRun.take 1) = some s ∧
        (0, .send r) ∈ s.log ∧ r.headers.values agentHeader ≠ [plainValue "probe/1"] := by
  refine ⟨gives_teamSettings.2, rfl, by decide, build_teamSettings, _, _, rfl,
    List.mem_cons_self, ?_⟩
  decide

end System

end Client

end Microversion
