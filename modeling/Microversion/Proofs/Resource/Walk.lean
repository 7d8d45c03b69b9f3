import Mathlib.Data.List.Chain
import Mathlib.Order.Bounds.Basic
import Microversion.Proofs.Client.Override
import Microversion.Proofs.Resource.Paging

/-! # Walks through the pages of a collection

A listing asks for one page after the other, each where the page before it leads,
until a page leads nowhere or the limit is reached. What it gives is what was found
on the pages, in their order, and every page counts: one that fails fails the
listing.
-/

namespace Microversion.Resource.Listing

open Client Http

/-- What was asked for on the way, and what came. -/
abbrev Fetch := Order × Except Error Response

/-- A listing in progress after the given fetches, whatever they bring. -/
inductive Walks (l : Listing) : List Fetch → Progress → Prop where
  | start : Walks l [] l.start
  | fetch {fetches : List Fetch} {target : String} {gathered : List Json.Value} {o : Order}
      (h : Walks l fetches (.fetching target gathered)) (ho : l.order target = .ok o)
      (answer : Except Error Response) :
      Walks l (fetches ++ [(o, answer)]) (l.resume gathered answer)
  /-- There is no request for a version that cannot be written into a header. -/
  | refuse {fetches : List Fetch} {target : String} {gathered : List Json.Value} {e : Error}
      (h : Walks l fetches (.fetching target gathered)) (ho : l.order target = .error e) :
      Walks l fetches (l.resume gathered (.error e))

/-- A page that came, with the request for it. -/
structure Page where
  order : Order
  response : Response

namespace Page

def body (p : Page) : Json.Value := jsonValue p.response

def fetch (p : Page) : Fetch := (p.order, .ok p.response)

/-- The page links to a URL with the given path and query. -/
def LeadsTo (p : Page) (target : String) : Prop :=
  ∃ link u, nextLink? p.body = some link ∧ Url.parse link = .ok u ∧ u.target = target

end Page

/-- What the pages hold, in their order. -/
def found (l : Listing) (pages : List Page) : List Json.Value :=
  pages.flatMap fun p => l.items p.body

/-- The listing needs no page beyond these. -/
def Suffices (l : Listing) (pages : List Page) : Prop :=
  (∃ p ∈ pages.getLast?, nextLink? p.body = none) ∨
    ∃ n, l.limit? = some n ∧ n ≤ (l.found pages).length

/-- What a move after others sends for an order with a version of its own: requests under that
version, until the same attempt of the call has agreed on another one after a refusal. Only a
client whose version was remembered or is the default lets it do so. -/
structure Carries (version : String) (c : Client) (ms : List Move) (m : Move) : Prop where
  own : adoptions m.number m.attempt (ms ++ [m]) = [] →
    ∀ r ∈ m.progress.sent, r.headers.values versionHeader = [plainValue version]
  agreed : ∀ v ∈ (adoptions m.number m.attempt (ms ++ [m])).getLast?,
    (c.start.state = .cached ∨ c.start.state = .default) ∧
    ∀ r ∈ m.progress.sent, r.headers.values versionHeader = [plainValue v.text]
  /-- A version is agreed on only as long as none has been settled. -/
  unsettled : m.progress.agreed ≠ [] → m.seen.isSettled = false

/-- The pages are those of the listing, and the items what it takes from them. -/
structure Gathers (l : Listing) (pages : List Page) (items : List Json.Value) : Prop where
  first : ∃ p ∈ pages.head?,
    (l.limit? = none → p.order.target = collectionTarget l.kind) ∧
    ∀ n, l.limit? = some n →
      p.order.target = collectionTarget l.kind ++ "?limit=" ++ String.ofList (Text.decimal n)
  next : pages.IsChain fun p q => p.LeadsTo q.order.target
  plain : ∀ p ∈ pages, p.order.method = "GET" ∧ p.order.body = none
  /-- The order for each page has the version of the listing, and whatever client the call for it
  is made on, all its requests carry that version as far as the call agrees on no other one. -/
  carried : ∀ version, l.version = some version → ∀ p ∈ pages,
    p.order.headers.values versionHeader = [plainValue version] ∧
    ∀ (c : Client) (es : List Event) (s : System), System.run c (.idle c.start) es = some s →
      ∀ (e : Event) (m : Move), s.move? c e = some m → m.before.job = .send p.order →
        Carries version c (System.history c (.idle c.start) es) m
  items_eq : items = match l.limit? with
    | some n => (l.found pages).take n
    | none => l.found pages
  isLeast : IsLeast {k | 1 ≤ k ∧ l.Suffices (pages.take k)} pages.length

section Walk

variable {l : Listing} {pages : List Page} {p : Page} {fetches : List Fetch} {o : Order}
  {target : String} {gathered : List Json.Value}

@[simp] theorem found_concat (l : Listing) (pages : List Page) (p : Page) :
    l.found (pages ++ [p]) = l.found pages ++ l.items p.body := by
  simp [found]

theorem isFull_iff : l.isFull gathered = true ↔ ∃ n, l.limit? = some n ∧ n ≤ gathered.length := by
  unfold isFull
  split
  · next n h => simp [h]
  · next h => simp [h]

theorem cut_of_not_isFull (h : l.isFull gathered = false) : l.cut gathered = gathered := by
  unfold isFull at h
  unfold cut
  split
  · next n hl =>
    rw [hl, decide_eq_false_iff_not, Nat.not_le] at h
    exact List.take_of_length_le h.le
  · rfl

theorem suffices_concat_iff : l.Suffices (pages ++ [p]) ↔
    nextLink? p.body = none ∨ l.isFull (l.found (pages ++ [p])) = true := by
  simp [Suffices, isFull_iff]

/-! ## The request for a page -/

theorem exists_of_order (h : l.order target = .ok o) :
    ∃ headers, versionHeaders l.version = .ok headers ∧
      o = jsonOrder "GET" target none headers := by
  unfold order at h
  cases hheaders : versionHeaders l.version with
  | error e =>
    rw [hheaders] at h
    cases h
  | ok headers =>
    rw [hheaders] at h
    exact ⟨headers, rfl, (Except.ok.inj h).symm⟩

theorem plain_of_order (h : l.order target = .ok o) : o.method = "GET" ∧ o.body = none := by
  obtain ⟨headers, -, rfl⟩ := exists_of_order h
  exact ⟨rfl, rfl⟩

theorem values_versionHeaders {version : String} {headers : Headers}
    (h : versionHeaders (some version) = .ok headers) :
    headers.values versionHeader = [plainValue version] := by
  unfold versionHeaders HeaderValue.ofText? HeaderValue.ofBytes? at h
  dsimp only at h
  split at h
  · cases h
  · next v hv =>
    split at hv
    · cases hv
      cases h
      exact Headers.values_insert_self ..
    · cases hv

theorem values_of_order {version : String} (h : l.order target = .ok o)
    (hv : l.version = some version) : o.headers.values versionHeader = [plainValue version] := by
  obtain ⟨headers, hheaders, rfl⟩ := exists_of_order h
  rw [hv] at hheaders
  rw [jsonOrder, Headers.values_orInsert_of_ne _ _ (by decide),
    Headers.values_orInsert_of_ne _ _ (by decide), values_versionHeaders hheaders]

/-- An order with a version of its own is carried out under it. -/
theorem carriesOverride_of_run {c : Client} {es : List Event} {s : System} {e : Event} {m : Move}
    {version : String} (h : System.run c (.idle c.start) es = some s) (hmove : s.move? c e = some m)
    (hj : m.before.job = .send o) (hv : o.headers.values versionHeader = [plainValue version]) :
    Carries version c (System.history c (.idle c.start) es) m := by
  have hr := System.reaches_of_run h
  have hm := System.makes_of_move? hmove
  have hown : o.hasOwnVersion = true :=
    Headers.contains_iff.mpr (by rw [hv]; exact List.cons_ne_nil _ _)
  constructor
  · intro hnone r hsent
    rw [hr.values_of_sent hm hj hown hsent, hnone, saying_nil, hv]
  · intro v hlast
    constructor
    · exact (hr.move hm).state_of_adoptions fun hnone => by rw [hnone] at hlast; cases hlast
    · intro r hsent
      rw [hr.values_of_sent hm hj hown hsent, saying, Option.mem_def.mp hlast]
  · intro hagreed
    rcases hr.sound.writes hm with ⟨-, hnone⟩ | ⟨v, -, hunsettled, -⟩
    · exact absurd hnone hagreed
    · rw [hm.seen, hunsettled]

/-! ## What a listing has come to -/

/-- The pages of a listing that goes on at the target. -/
inductive Leads (l : Listing) : List Page → String → Prop where
  | nil : Leads l [] l.firstTarget
  | concat {pages : List Page} {p : Page} {target next : String} (h : Leads l pages target)
      (ho : l.order target = .ok p.order) (hnext : p.LeadsTo next)
      (hmore : l.isFull (l.found (pages ++ [p])) = false) : Leads l (pages ++ [p]) next

/-- What a listing has come to, seen from the pages it has read. -/
inductive Stands (l : Listing) : List Fetch → Progress → Prop where
  | going {pages : List Page} {target : String} (h : Leads l pages target) :
      Stands l (pages.map Page.fetch) (.fetching target (l.found pages))
  | whole {pages : List Page} {target : String} {p : Page} (h : Leads l pages target)
      (ho : l.order target = .ok p.order) (hlast : l.Suffices (pages ++ [p])) :
      Stands l ((pages ++ [p]).map Page.fetch) (.finished (.ok (l.cut (l.found (pages ++ [p])))))
  | unsent {pages : List Page} {target : String} {e : Error} (h : Leads l pages target)
      (ho : l.order target = .error e) : Stands l (pages.map Page.fetch) (.finished (.error e))
  | failed {pages : List Page} {target : String} {o : Order} (h : Leads l pages target)
      (ho : l.order target = .ok o) (e : Error) :
      Stands l (pages.map Page.fetch ++ [(o, .error e)]) (.finished (.error e))
  | astray {pages : List Page} {target link : String} {p : Page} {e : Url.ParseError}
      (h : Leads l pages target) (ho : l.order target = .ok p.order)
      (hlink : nextLink? p.body = some link) (he : Url.parse link = .error e)
      (hmore : l.isFull (l.found (pages ++ [p])) = false) :
      Stands l ((pages ++ [p]).map Page.fetch) (.finished (.error (.invalidUrl e)))

/-- One more fetch. -/
theorem Leads.stands_resume (h : Leads l pages target) (ho : l.order target = .ok o)
    (answer : Except Error Response) :
    Stands l (pages.map Page.fetch ++ [(o, answer)]) (l.resume (l.found pages) answer) := by
  cases answer with
  | error e => exact .failed h ho e
  | ok r =>
    let p : Page := ⟨o, r⟩
    have hfetches : pages.map Page.fetch ++ [(o, .ok r)] = (pages ++ [p]).map Page.fetch := by
      simp [Page.fetch, p]
    have hresume : l.resume (l.found pages) (.ok r) =
        l.afterPage (l.found (pages ++ [p])) p.body := by
      rw [found_concat]
      rfl
    rw [hfetches, hresume]
    unfold afterPage
    split
    · next hfull => exact .whole h ho (suffices_concat_iff.mpr (.inr hfull))
    · next hfull =>
      rw [Bool.not_eq_true] at hfull
      split
      · next hlink =>
        have hlast := Stands.whole h ho (suffices_concat_iff.mpr (.inl hlink))
        rwa [cut_of_not_isFull hfull] at hlast
      · next link hlink =>
        unfold linkTarget
        cases hu : Url.parse link with
        | error e => exact .astray h ho hlink hu hfull
        | ok u => exact .going (.concat h ho ⟨link, u, hlink, hu, rfl⟩ hfull)

theorem Walks.stands {progress : Progress} (h : Walks l fetches progress) :
    Stands l fetches progress := by
  induction h with
  | start => exact .going .nil
  | fetch h ho answer ih =>
    cases ih with
    | going hleads => exact hleads.stands_resume ho answer
  | refuse h ho ih =>
    cases ih with
    | going hleads => exact .unsent hleads ho

/-! ## What the pages of a listing are like -/

theorem Leads.not_suffices (h : Leads l pages target) {k : Nat} (hk : 1 ≤ k)
    (hle : k ≤ pages.length) : ¬l.Suffices (pages.take k) := by
  induction h with
  | nil => exact absurd (Nat.le_trans hk hle) (by simp)
  | @concat pages p _ _ h _ hnext hmore ih =>
    rw [List.length_append, List.length_singleton] at hle
    rcases Nat.le_succ_iff.mp hle with hle | rfl
    · rw [List.take_append_of_le_length hle]
      exact ih hle
    · rw [List.take_of_length_le (by simp), suffices_concat_iff]
      obtain ⟨link, u, hlink, -⟩ := hnext
      rintro (hnone | hfull)
      · rw [hlink] at hnone
        cases hnone
      · rw [hmore] at hfull
        cases hfull

theorem Leads.target_of_head? (h : Leads l pages target) (ho : l.order target = .ok p.order) :
    ∀ q ∈ (pages ++ [p]).head?, q.order.target = l.firstTarget := by
  induction h generalizing p with
  | nil =>
    rintro q ⟨⟩
    exact target_of_order ho
  | concat _ ho' _ _ ih =>
    rw [List.head?_append_of_ne_nil _ (by simp)]
    exact ih ho'

theorem Leads.isChain (h : Leads l pages target) (ho : l.order target = .ok p.order) :
    (pages ++ [p]).IsChain fun p q => p.LeadsTo q.order.target := by
  induction h generalizing p with
  | nil => exact List.isChain_singleton p
  | concat _ ho' hnext _ ih =>
    refine List.isChain_append.mpr ⟨ih ho', List.isChain_singleton p, ?_⟩
    rw [List.getLast?_concat]
    rintro q ⟨⟩ q' ⟨⟩
    rw [target_of_order ho]
    exact hnext

/-- Each page was asked for, and leads on. -/
theorem Leads.of_mem (h : Leads l pages target) :
    ∀ q ∈ pages, (∃ t, l.order t = .ok q.order) ∧ ∃ next, q.LeadsTo next := by
  induction h with
  | nil => simp
  | concat _ ho hnext _ ih =>
    intro q hq
    rcases List.mem_append.mp hq with hq | hq
    · exact ih q hq
    · rw [List.mem_singleton.mp hq]
      exact ⟨⟨_, ho⟩, _, hnext⟩

theorem firstTarget_eq : (l.limit? = none → l.firstTarget = collectionTarget l.kind) ∧
    ∀ n, l.limit? = some n →
      l.firstTarget = collectionTarget l.kind ++ "?limit=" ++ String.ofList (Text.decimal n) := by
  unfold firstTarget
  constructor
  · intro h
    rw [h]
  · intro n h
    rw [h]

theorem Leads.gathers (h : Leads l pages target) (ho : l.order target = .ok p.order)
    (hlast : l.Suffices (pages ++ [p])) :
    Gathers l (pages ++ [p]) (l.cut (l.found (pages ++ [p]))) := by
  have horders : ∀ q ∈ pages ++ [p], ∃ t, l.order t = .ok q.order := by
    intro q hq
    rcases List.mem_append.mp hq with hq | hq
    · exact (h.of_mem q hq).1
    · rw [List.mem_singleton.mp hq]
      exact ⟨target, ho⟩
  refine ⟨?_, h.isChain ho, ?_, ?_, rfl, ?_, ?_⟩
  · obtain ⟨q, hq⟩ := Option.isSome_iff_exists.mp
      (List.isSome_head?.mpr (List.append_ne_nil_of_right_ne_nil pages (List.cons_ne_nil p [])))
    refine ⟨q, hq, ?_⟩
    rw [h.target_of_head? ho q hq]
    exact firstTarget_eq
  · intro q hq
    obtain ⟨t, ht⟩ := horders q hq
    exact plain_of_order ht
  · intro version hv q hq
    obtain ⟨t, ht⟩ := horders q hq
    have hvalues := values_of_order ht hv
    exact ⟨hvalues, fun c es s hrun e m hmove hj => carriesOverride_of_run hrun hmove hj hvalues⟩
  · rw [List.length_append, List.length_singleton, Set.mem_ofPred_eq]
    exact ⟨Nat.le_add_left 1 _, by rwa [List.take_of_length_le (by simp)]⟩
  · -- no proper prefix suffices, since the listing went on after it
    rintro k ⟨hk, hsuffices⟩
    by_contra hlt
    rw [List.length_append, List.length_singleton, Nat.not_le, Nat.lt_succ_iff] at hlt
    rw [List.take_append_of_le_length hlt] at hsuffices
    exact h.not_suffices hk hlt hsuffices

theorem not_mem_map_fetch {e : Error} : (o, .error e) ∉ pages.map Page.fetch := by
  simp [Page.fetch]

/-- A listing gives what the pages of its walk hold, in their order and up to the limit, and walks
no further than it must. Whatever fails on the way fails the listing. -/
theorem gathers_of_walks {result : Except Error (List Json.Value)}
    (h : Walks l fetches (.finished result)) :
    (∀ o e, (o, .error e) ∈ fetches → result = .error e) ∧
      ∀ items, result = .ok items →
        ∃ pages, fetches = pages.map Page.fetch ∧ Gathers l pages items := by
  cases h.stands with
  | @whole pages _ p hleads ho hlast =>
    refine ⟨fun o e he => absurd he not_mem_map_fetch, ?_⟩
    rintro items ⟨⟩
    exact ⟨pages ++ [p], rfl, hleads.gathers ho hlast⟩
  | unsent => exact ⟨fun o e he => absurd he not_mem_map_fetch, by simp⟩
  | failed hleads ho e =>
    refine ⟨?_, by simp⟩
    intro o e' he
    rcases List.mem_append.mp he with he | he
    · exact absurd he not_mem_map_fetch
    · cases List.mem_singleton.mp he
      rfl
  | astray => exact ⟨fun o e he => absurd he not_mem_map_fetch, by simp⟩

end Walk

section Samples

/-- A response with a JSON text. -/
def jsonResponse (text : String) : Response :=
  ⟨200, Headers.empty.insert "content-type" (plainValue jsonType), Utf8.encode text⟩

/-- Three connectors under a version of their own. -/
def threeConnectors : Listing := ⟨.volumeConnector, some 3, some "1.31"⟩

/-- A page with two connectors. -/
def firstConnectors : Response :=
  jsonResponse ("\x7b\"connectors\":[1,2]," ++
    "\"next\":\"http://ironic:6385/v1/volume/connectors?limit=3&marker=2\"\x7d")

/-- A page with two more, and a link to a page that is not needed. -/
def secondConnectors : Response :=
  jsonResponse ("\x7b\"connectors\":[3,4]," ++
    "\"next\":\"http://ironic:6385/v1/volume/connectors?limit=3&marker=4\"\x7d")

theorem resume_of_isFull {l : Listing} {gathered : List Json.Value} {r : Response}
    (hfull : l.isFull (gathered ++ l.items (jsonValue r)) = true) :
    l.resume gathered (.ok r) =
      .finished (.ok (l.cut (gathered ++ l.items (jsonValue r)))) := by
  simp [resume, afterPage, hfull]

theorem resume_of_nextLink?_eq_none {l : Listing} {gathered : List Json.Value} {r : Response}
    (h : nextLink? (jsonValue r) = none)
    (hfull : l.isFull (gathered ++ l.items (jsonValue r)) = false) :
    l.resume gathered (.ok r) = .finished (.ok (gathered ++ l.items (jsonValue r))) := by
  simp [resume, afterPage, h, hfull]

theorem order_of_plain {l : Listing} {version : String} (hv : l.version = some version)
    (h : (Utf8.encode version).all HeaderValue.isAllowed = true) (target : String) :
    l.order target = .ok (jsonOrder "GET" target none
      (Headers.empty.insert versionHeader (plainValue version))) := by
  unfold order versionHeaders HeaderValue.ofText? HeaderValue.ofBytes?
  rw [hv]
  dsimp only
  rw [if_pos h]
  rfl

/-- The limit falls inside the second page. -/
theorem gathers_threeConnectors :
    ∃ o o' items, let fetches := [(o, .ok firstConnectors), (o', .ok secondConnectors)]
      Walks threeConnectors fetches (.finished (.ok items)) ∧
      items.map Json.Value.compact = ["1", "2", "3"] ∧
      ∃ pages, fetches = pages.map Page.fetch ∧ Gathers threeConnectors pages items := by
  let u : Url := ⟨"http".toList, some ⟨[], none, .domain "ironic".toList, some 6385⟩,
    .rooted ["v1".toList, "volume".toList, "connectors".toList],
    some "limit=3&marker=2".toList, none⟩
  have hlink : nextLink? (jsonValue firstConnectors) =
      some "http://ironic:6385/v1/volume/connectors?limit=3&marker=2" := by decide +kernel
  have hu : Url.parse "http://ironic:6385/v1/volume/connectors?limit=3&marker=2" = .ok u := by
    decide +kernel
  have hplain : (Utf8.encode "1.31").all HeaderValue.isAllowed = true := by decide +kernel
  have ho := order_of_plain (l := threeConnectors) rfl hplain threeConnectors.firstTarget
  have ho' := order_of_plain (l := threeConnectors) rfl hplain u.target
  have hfirst := Walks.start.fetch ho (.ok firstConnectors)
  rw [resume_of_link hlink hu (by decide +kernel)] at hfirst
  have hsecond := hfirst.fetch ho' (.ok secondConnectors)
  rw [resume_of_isFull (by decide +kernel)] at hsecond
  exact ⟨_, _, _, hsecond, by decide +kernel, (gathers_of_walks hsecond).2 _ rfl⟩

/-- All nodes, under a version of the listing's own. -/
def recentNodes : Listing := ⟨.node, none, some "1.50"⟩

/-- A page with one node that leads nowhere. -/
def oneNode : Response := jsonResponse "\x7b\"nodes\":[1]\x7d"

/-- The version of the call for a page is refused before the page comes. -/
def refusedPage (o : Order) : List Event :=
  [.call none (.send o), .signal none 0 (.answer (.ok (rangeResponse 406 ⟨1, 1⟩ ⟨1, 20⟩))),
    .signal none 0 .lock, .signal none 0 (.answer (.ok oneNode))]

/-- The page of a listing with a version of its own comes under the default one of the client. -/
theorem listedVersion_replaced :
    ∃ o s items, Walks recentNodes [(o, .ok oneNode)] (.finished (.ok items)) ∧
      items.map Json.Value.compact = ["1"] ∧
      System.run (plain ⟨.pinned .initial, .default⟩) (.idle ⟨.pinned .initial, .default⟩)
        (refusedPage o) = some s ∧
      s.tasks.map Task.phase = [.finished (.ok (.response oneNode))] ∧
      (s.log.filterMap fun e => e.2.sent?).map (fun r => r.headers.values versionHeader) =
        [[plainValue "1.50"], [plainValue "1.9"]] := by
  have hplain : (Utf8.encode "1.50").all HeaderValue.isAllowed = true := by decide +kernel
  have ho := order_of_plain (l := recentNodes) rfl hplain recentNodes.firstTarget
  have hwalks := Walks.start.fetch ho (.ok oneNode)
  rw [resume_of_nextLink?_eq_none (by rfl) (by rfl)] at hwalks
  exact ⟨_, _, _, hwalks, by rfl, rfl, rfl, by decide +kernel⟩

end Samples

end Microversion.Resource.Listing
