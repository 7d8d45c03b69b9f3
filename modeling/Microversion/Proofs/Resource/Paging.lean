import Microversion.Proofs.Client.Building
import Microversion.Proofs.Client.VersionHeader
import Microversion.Proofs.Endpoint
import Microversion.Proofs.Url.Below
import Microversion.Resource.Listing
import Microversion.Session.Transport

/-! # Where the next page is asked for

A page links to the next one by a URL, of which the client takes the path and the
query and its session puts them below the endpoint. That is the URL again if the
endpoint has no path of its own; else its path comes twice.
-/

namespace Microversion

namespace Resource

open Client Http

/-- After a page the next one is asked for, by a request that goes to the URL. -/
structure AsksFor (c : Client) (l : Listing) (gathered : List Json.Value) (r : Response)
    (target : String) (u : Url) : Prop where
  fetching : l.resume gathered (.ok r) = .fetching target (gathered ++ l.items (jsonValue r))
  sent : ∀ o, l.order target = .ok o → ∀ (token : Option String) (t : Task) (n : Negotiator)
    (request : Request), .send request ∈ (t.firstExchange c token n o).effects →
    ∀ endpoint, ∃ url, Session.resolve endpoint request = .ok url ∧ Url.parse url = .ok u

section Paging

variable {s : Settings} {found : Except Error (Option String)} {shared : Option Cache} {now : Nat}
  {fs : Storage.FileSystem} {c : Client} {base u : Url} {target : String} {l : Listing}

theorem send_of_firstExchange {token : Option String} {t : Task} {n : Negotiator} {o : Order}
    {request : Request} (h : Effect.send request ∈ (t.firstExchange c token n o).effects) :
    request.target = o.target ∧ request.base = some c.endpoint := by
  unfold Task.firstExchange at h
  split at h
  · next e _ =>
    unfold Task.endAttempt at h
    split at h
    · cases h
    · split at h <;> simp at h
  · simp only [Task.exchange, List.mem_singleton, Effect.send.injEq] at h
    rw [h]
    exact ⟨rfl, rfl⟩

theorem target_of_order {o : Order} (h : l.order target = .ok o) : o.target = target := by
  unfold Listing.order at h
  cases hheaders : versionHeaders l.version with
  | error e =>
    rw [hheaders] at h
    cases h
  | ok headers =>
    rw [hheaders] at h
    cases h
    rfl

/-- A target that starts with a slash goes below the endpoint. -/
theorem resolve_of_slash {request : Request} {rest : List Char}
    (h : request.target.toList = '/' :: rest) (hbase : request.base = some c.endpoint)
    (endpoint : Option String) :
    Session.resolve endpoint request = .ok (Endpoint.join c.endpoint request.target) := by
  have habsolute : Session.isAbsolute request.target = false := by
    rw [Session.isAbsolute, h]
    rfl
  rw [Session.resolve, habsolute, hbase]
  rfl

theorem resume_of_link {gathered : List Json.Value} {r : Response} {link : String}
    (hlink : Listing.nextLink? (jsonValue r) = some link) (hu : Url.parse link = .ok u)
    (hmore : l.isFull (gathered ++ l.items (jsonValue r)) = false) :
    l.resume gathered (.ok r) = .fetching u.target (gathered ++ l.items (jsonValue r)) := by
  have htarget : Listing.linkTarget link = .ok u.target := by rw [Listing.linkTarget, hu]
  simp only [Listing.resume, Listing.afterPage, hmore, hlink, htarget]
  rfl

/-- Directories before the path of a URL make it another one. -/
theorem path_append_iff {dirs : List (List Char)} (hu : u.path = .rooted u.path.segments) :
    ({ u with path := .rooted (dirs ++ u.path.segments) } : Url) = u ↔ dirs = [] := by
  constructor
  · intro h
    have hpath := congrArg (fun v : Url => v.path.segments) h
    exact List.append_left_eq_self.mp hpath
  · rintro rfl
    rw [List.nil_append, ← hu]

/-- A link below the endpoint of a client leads the client to the same URL with the directories of
the endpoint before its path, which is another one unless the endpoint has none. -/
theorem asksFor_of_build (h : build s found shared now fs = .ok c)
    (hbase : Url.parse (c.endpoint ++ "/") = .ok base) (hkind : base.kind = .special)
    (hquery : base.query = none) (hfragment : base.fragment = none) (l : Listing)
    (gathered : List Json.Value) (r : Response) (rest : String)
    (hlink : Listing.nextLink? (jsonValue r) = some (c.endpoint ++ "/" ++ rest))
    (hhash : '#' ∉ rest.toList) (hmore : l.isFull (gathered ++ l.items (jsonValue r)) = false) :
    ∃ u target, Url.parse (c.endpoint ++ "/" ++ rest) = .ok u ∧
      AsksFor c l gathered r target
        { u with path := .rooted (base.path.segments.dropLast ++ u.path.segments) } ∧
      ({ u with path := .rooted (base.path.segments.dropLast ++ u.path.segments) } = u ↔
        base.path = .rooted [[]]) := by
  obtain ⟨url, -, hurl⟩ := (built_of_build h).exists_url
  have htrim : Endpoint.dropSlashes c.endpoint.toList = c.endpoint.toList :=
    hurl ▸ Endpoint.dropSlashes_trim url
  have hslash : (c.endpoint ++ "/").toList = c.endpoint.toList ++ ['/'] := String.toList_append
  have hmore' : (c.endpoint ++ "/" ++ rest).toList = c.endpoint.toList ++ '/' :: rest.toList := by
    rw [String.toList_append, hslash, List.append_assoc]
    rfl
  rw [Url.parse, hslash] at hbase
  obtain ⟨a, dirs, hbelow, hpath⟩ := Url.exists_isBase hbase hkind hquery hfragment
  obtain ⟨u, after, hu, hrooted, htarget, hagain⟩ := hbelow.read_target hhash
  have hdirs : base.path.segments.dropLast = dirs.reverse := by
    rw [hpath]
    exact List.dropLast_concat
  have hlinked : Url.parse (c.endpoint ++ "/" ++ rest) = .ok u := by
    rw [Url.parse, hmore', hu]
  rw [hdirs]
  refine ⟨u, u.target, hlinked, ⟨resume_of_link hlink hlinked hmore, ?_⟩, ?_⟩
  · intro o horder token t n request hsend endpoint
    obtain ⟨hrequest, hendpoint⟩ := send_of_firstExchange hsend
    rw [target_of_order horder] at hrequest
    rw [← hrequest] at htarget
    refine ⟨_, resolve_of_slash htarget hendpoint endpoint, ?_⟩
    rw [Url.parse, Endpoint.toList_join htrim htarget]
    exact hagain
  · rw [path_append_iff hrooted, hpath, Url.Path.rooted.injEq]
    exact List.append_left_eq_self.symm

section Samples

/-- A page without items that links to the next one. -/
def page (link : String) : Response :=
  ⟨200, Headers.empty.insert "content-type" (plainValue jsonType),
    Utf8.encode ("\x7b\"next\":\"" ++ link ++ "\"\x7d")⟩

/-- Settings of an endpoint, without a cache. -/
def pagingSettings (url : String) : Settings := .ofList [.endpoint url, .withoutCache]

/-- The client that they make. -/
def pagingClient (endpoint : String) : Client :=
  ⟨endpoint, .default, .resolved .unset, .empty, none, none, none, ⟨.pinned .initial, .default⟩⟩

theorem asksFor_of_page :
    let c := pagingClient "http://ironic:6385"
    let l : Listing := ⟨.node, none, none⟩
    let r := page "http://ironic:6385/v1/nodes?marker=a"
    build (pagingSettings "http://ironic:6385/v1/") (.ok none) none 0 .empty = .ok c ∧
      Listing.nextLink? (jsonValue r) = some (c.endpoint ++ "/" ++ "v1/nodes?marker=a") ∧
      '#' ∉ "v1/nodes?marker=a".toList ∧ l.isFull ([] ++ l.items (jsonValue r)) = false ∧
      ∃ base u target, Url.parse (c.endpoint ++ "/") = .ok base ∧ base.kind = .special ∧
        base.query = none ∧ base.fragment = none ∧
        Url.parse "http://ironic:6385/v1/nodes?marker=a" = .ok u ∧ AsksFor c l [] r target u := by
  intro c l r
  have hb : build (pagingSettings "http://ironic:6385/v1/") (.ok none) none 0 .empty = .ok c := rfl
  have hbase : Url.parse (c.endpoint ++ "/") = .ok ⟨"http".toList,
      some ⟨[], none, .domain "ironic".toList, some 6385⟩, .rooted [[]], none, none⟩ := by
    decide +kernel
  have hlink : Listing.nextLink? (jsonValue r) =
      some (c.endpoint ++ "/" ++ "v1/nodes?marker=a") := by decide +kernel
  have hhash : '#' ∉ "v1/nodes?marker=a".toList := by decide +kernel
  have hmore : l.isFull ([] ++ l.items (jsonValue r)) = false := rfl
  obtain ⟨u, target, hu, hasks, hsame⟩ :=
    asksFor_of_build hb hbase rfl rfl rfl l [] r "v1/nodes?marker=a" hlink hhash hmore
  rw [hsame.mpr rfl] at hasks
  exact ⟨hb, hlink, hhash, hmore, _, u, target, hbase, rfl, rfl, rfl, hu, hasks⟩

/-- Where the endpoint has a path of its own, that path comes twice. -/
theorem not_asksFor_of_prefix :
    let c := pagingClient "http://ironic:6385/baremetal"
    let link := "http://ironic:6385/baremetal/v1/nodes?marker=a"
    build (pagingSettings "http://ironic:6385/baremetal/v1/") (.ok none) none 0 .empty = .ok c ∧
      Listing.nextLink? (jsonValue (page link)) = some link ∧
      ∃ u, Url.parse link = .ok u ∧
        ∀ target, ¬AsksFor c ⟨.node, none, none⟩ [] (page link) target u := by
  intro c link
  have hlink : Listing.nextLink? (jsonValue (page link)) = some link := by decide +kernel
  have hu : Url.parse link = .ok ⟨"http".toList,
      some ⟨[], none, .domain "ironic".toList, some 6385⟩,
      .rooted ["baremetal".toList, "v1".toList, "nodes".toList], some "marker=a".toList, none⟩ := by
    decide +kernel
  refine ⟨rfl, hlink, _, hu, ?_⟩
  intro target hasks
  have htarget := hasks.fetching
  rw [resume_of_link hlink hu rfl, Listing.Progress.fetching.injEq] at htarget
  obtain ⟨rfl, -⟩ := htarget
  obtain ⟨request, hsend⟩ : ∃ request, Effect.send request ∈
      (Task.firstExchange c none ⟨.agree, 1, .pausing⟩ c.start
        (jsonOrder "GET" "/baremetal/v1/nodes?marker=a" none .empty)).effects :=
    ⟨_, List.mem_cons_self⟩
  obtain ⟨url, hresolve, hparse⟩ := hasks.sent _ rfl none _ _ request hsend none
  obtain ⟨hrequest, hendpoint⟩ := send_of_firstExchange hsend
  rw [resolve_of_slash (congrArg String.toList hrequest) hendpoint, hrequest] at hresolve
  rw [← Except.ok.inj hresolve] at hparse
  exact absurd hparse (by decide +kernel)

end Samples

end Paging

end Resource

end Microversion
