import Microversion.Proofs.Resource.Walk

/-! # Listings that end too early

A page that cannot be read counts as one without items and without a link. So a
listing without a limit ends well at the first such page, and its result does not
tell it from a collection that ends there. It fails only where a request fails or
cannot be made, or where a link is no URL.
-/

namespace Microversion.Resource.Listing

open Client Http

/-- The response has a JSON body of the given value. -/
structure Decodes (r : Response) (value : Json.Value) : Prop where
  content : r.status ≠ 204 ∧ r.status ≠ 205
  type : ∃ type, r.contentType? = some type ∧
    Text.occursIn jsonType.toList type.toList = true
  parsed : Json.Value.parse? r.body = some value

/-- The response is a page with the given items of the collection. -/
def Holds (l : Listing) (r : Response) (items : List Json.Value) : Prop :=
  ∃ ms, Decodes r (.object ms) ∧ Table.get? l.kind.itemsKey ms = some (.array items)

/-- The response is a page that links to another one. -/
def HasLink (r : Response) : Prop :=
  ∃ ms link, Decodes r (.object ms) ∧ Table.get? "next" ms = some (.string link) ∧ link ≠ ""

/-- A listing has ended after pages with a link at one without, which may be no page at all, and
whatever page does not hold its items is passed over. -/
structure EndsAt (l : Listing) (front : List Page) (last : Page) (items : List Json.Value) :
    Prop where
  linked : ∀ p ∈ front, HasLink p.response
  unlinked : ¬HasLink last.response
  items_eq : items = (front ++ [last]).flatMap fun p => l.items p.body
  held : ∀ p ∈ front ++ [last], ∀ vs, l.Holds p.response vs → l.items p.body = vs
  missed : ∀ p ∈ front ++ [last], (∀ vs, ¬l.Holds p.response vs) → l.items p.body = []

/-- What a listing can fail for. -/
inductive FailsFor (l : Listing) (fetches : List Fetch) : Error → Prop where
  | request {o : Order} {e : Error} (h : fetches.getLast? = some (o, .error e)) :
      FailsFor l fetches e
  | version {version : String} (h : l.version = some version) (hnone : fetches = []) :
      FailsFor l fetches (.invalidVersion version)
  | link {o : Order} {r : Response} {link : String} {e : Url.ParseError}
      (h : fetches.getLast? = some (o, .ok r)) (hlink : nextLink? (jsonValue r) = some link)
      (he : Url.parse link = .error e) : FailsFor l fetches (.invalidUrl e)

section Truncation

variable {l : Listing} {r : Response} {fetches : List Fetch} {pages : List Page} {p : Page}
  {target : String}

theorem jsonValue_eq_object_iff {ms : List (String × Json.Value)} :
    jsonValue r = .object ms ↔ Decodes r (.object ms) := by
  constructor
  · intro h
    unfold jsonValue at h
    split at h
    · cases h
    · next hstatus =>
      split at h
      · cases h
      · next type htype =>
        split at h
        · next hjson =>
          cases hparse : Json.Value.parse? r.body with
          | none =>
            rw [hparse] at h
            cases h
          | some value =>
            rw [hparse] at h
            exact ⟨not_or.mp hstatus, ⟨type, htype, hjson⟩, hparse.trans (congrArg some h)⟩
        · cases h
  · rintro ⟨hcontent, ⟨type, htype, hjson⟩, hparse⟩
    rw [jsonValue, if_neg (not_or.mpr hcontent), htype]
    dsimp only
    rw [if_pos hjson, hparse]
    rfl

theorem member?_eq_some_iff {key : String} {page value : Json.Value} :
    page.member? key = some value ↔ ∃ ms, page = .object ms ∧ Table.get? key ms = some value := by
  cases page <;> simp [Json.Value.member?]

theorem nextLink?_eq_some_iff {page : Json.Value} {link : String} :
    nextLink? page = some link ↔ page.member? "next" = some (.string link) ∧ link ≠ "" := by
  have hstring : ∀ value : Json.Value, value.string? = some link ↔ value = .string link := by
    intro value
    cases value <;> simp [Json.Value.string?]
  simp [nextLink?, Option.filter_eq_some_iff, Option.bind_eq_some_iff, hstring]

theorem hasLink_iff : HasLink r ↔ ∃ link, nextLink? (jsonValue r) = some link := by
  constructor
  · rintro ⟨ms, link, hms, hlink, hne⟩
    have hmember := member?_eq_some_iff.mpr ⟨ms, jsonValue_eq_object_iff.mpr hms, hlink⟩
    exact ⟨link, nextLink?_eq_some_iff.mpr ⟨hmember, hne⟩⟩
  · rintro ⟨link, hlink⟩
    obtain ⟨hmember, hne⟩ := nextLink?_eq_some_iff.mp hlink
    obtain ⟨ms, hms, hget⟩ := member?_eq_some_iff.mp hmember
    exact ⟨ms, link, jsonValue_eq_object_iff.mp hms, hget, hne⟩

theorem not_hasLink_iff : ¬HasLink r ↔ nextLink? (jsonValue r) = none := by
  rw [hasLink_iff, Option.eq_none_iff_forall_ne_some, not_exists]

theorem items_of_holds {vs : List Json.Value} (h : l.Holds r vs) : l.items (jsonValue r) = vs := by
  obtain ⟨ms, hms, hvs⟩ := h
  rw [items, member?_eq_some_iff.mpr ⟨ms, jsonValue_eq_object_iff.mpr hms, hvs⟩]
  rfl

theorem items_of_not_holds (h : ∀ vs, ¬l.Holds r vs) : l.items (jsonValue r) = [] := by
  rw [items]
  cases hvs : ((jsonValue r).member? l.kind.itemsKey).bind Json.Value.array? with
  | none => rfl
  | some vs =>
    obtain ⟨value, hvalue, harray⟩ := Option.bind_eq_some_iff.mp hvs
    obtain ⟨ms, hms, hget⟩ := member?_eq_some_iff.mp hvalue
    cases value <;> cases harray
    exact absurd ⟨ms, jsonValue_eq_object_iff.mp hms, hget⟩ (h vs)

theorem isFull_of_unlimited (hlimit : l.limit? = none) (gathered : List Json.Value) :
    l.isFull gathered = false := by
  rw [isFull, hlimit]

/-- Whatever comes without a link ends the listing well. -/
theorem resume_of_not_hasLink (h : ¬HasLink r) (gathered : List Json.Value) :
    l.resume gathered (.ok r) = .finished (.ok (l.cut (gathered ++ l.items (jsonValue r)))) := by
  unfold resume afterPage
  dsimp only
  split
  · rfl
  · next hfull =>
    rw [not_hasLink_iff.mp h, cut_of_not_isFull (Bool.not_eq_true _ ▸ hfull)]

theorem exists_of_versionHeaders_error {version : Option String} {e : Error}
    (h : versionHeaders version = .error e) : ∃ s, version = some s ∧ e = .invalidVersion s := by
  unfold versionHeaders at h
  split at h
  · cases h
  · next s =>
    split at h
    · exact ⟨s, rfl, (Except.error.inj h).symm⟩
    · cases h

theorem order_eq_error_iff {e : Error} :
    l.order target = .error e ↔ versionHeaders l.version = .error e := by
  unfold order
  cases versionHeaders l.version <;> simp [Except.map]

/-- No request goes before the one whose version cannot be written. -/
theorem Leads.eq_nil_of_order_error {e : Error} (h : Leads l pages target)
    (he : l.order target = .error e) : pages = [] := by
  cases h with
  | nil => rfl
  | concat _ ho =>
    rw [order_eq_error_iff.mpr (order_eq_error_iff.mp he)] at ho
    cases ho

theorem Leads.hasLink (h : Leads l pages target) : ∀ p ∈ pages, HasLink p.response := by
  intro p hp
  obtain ⟨-, next, link, u, hlink, -⟩ := h.of_mem p hp
  exact hasLink_iff.mpr ⟨link, hlink⟩

theorem Leads.endsAt (h : Leads l pages target) (hlimit : l.limit? = none)
    (hlast : l.Suffices (pages ++ [p])) :
    EndsAt l pages p (l.cut (l.found (pages ++ [p]))) where
  linked := h.hasLink
  unlinked := by
    rcases suffices_concat_iff.mp hlast with hnone | hfull
    · exact not_hasLink_iff.mpr hnone
    · rw [isFull_of_unlimited hlimit] at hfull
      cases hfull
  items_eq := cut_of_not_isFull (isFull_of_unlimited hlimit _)
  held _ _ _ := items_of_holds
  missed _ _ := items_of_not_holds

theorem fetch_injective : Function.Injective Page.fetch := by
  rintro ⟨o, r⟩ ⟨o', r'⟩ ⟨⟩
  rfl

theorem EndsAt.not_failsFor {front : List Page} {last : Page} {items : List Json.Value}
    {e : Error} (h : EndsAt l front last items) :
    ¬FailsFor l ((front ++ [last]).map Page.fetch) e := by
  have hlast : ((front ++ [last]).map Page.fetch).getLast? = some last.fetch := by
    rw [List.map_append]
    exact List.getLast?_concat
  rintro (hrequest | ⟨-, hnone⟩ | ⟨hpage, hlink, -⟩)
  · rw [hlast] at hrequest
    cases hrequest
  · rw [hnone] at hlast
    cases hlast
  · rw [hlast] at hpage
    cases hpage
    exact h.unlinked (hasLink_iff.mpr ⟨_, hlink⟩)

theorem Stands.failsFor {e : Error} (h : Stands l fetches (.finished (.error e))) :
    FailsFor l fetches e := by
  cases h with
  | unsent hleads he =>
    obtain ⟨version, hv, rfl⟩ := exists_of_versionHeaders_error (order_eq_error_iff.mp he)
    refine .version hv ?_
    rw [hleads.eq_nil_of_order_error he, List.map_nil]
  | failed => exact .request List.getLast?_concat
  | astray _ _ hlink he =>
    rw [List.map_append]
    exact .link List.getLast?_concat hlink he

/-- A listing without a limit ends well exactly at a page without a link, be it that the collection
ends there or that the page cannot be read. -/
theorem endsAt_of_walks {result : Except Error (List Json.Value)}
    (hlimit : l.limit = none ∨ l.limit = some 0) (h : Walks l fetches (.finished result)) :
    (∀ items, result = .ok items ↔ ∃ front last,
      fetches = (front ++ [last]).map Page.fetch ∧ EndsAt l front last items) ∧
    ∀ e, result = .error e → FailsFor l fetches e := by
  have hnone : l.limit? = none := by
    rcases hlimit with hlimit | hlimit <;> rw [limit?, hlimit] <;> rfl
  have hok : ∀ items, result = .ok items → ∃ front last,
      fetches = (front ++ [last]).map Page.fetch ∧ EndsAt l front last items := by
    rintro items rfl
    cases h.stands with
    | @whole front _ last hleads _ hlast =>
      exact ⟨front, last, rfl, hleads.endsAt hnone hlast⟩
  have herror : ∀ e, result = .error e → FailsFor l fetches e := by
    rintro e rfl
    exact h.stands.failsFor
  refine ⟨fun items => ⟨hok items, ?_⟩, herror⟩
  rintro ⟨front, last, hfetches, hends⟩
  cases result with
  | ok items' =>
    obtain ⟨front', last', hfetches', hends'⟩ := hok items' rfl
    have hpages := List.map_injective_iff.mpr fetch_injective (hfetches'.symm.trans hfetches)
    rw [hends'.items_eq, hends.items_eq, hpages]
  | error e => exact absurd (herror e rfl) (hfetches ▸ hends.not_failsFor)

end Truncation

section Samples

/-- All nodes, under the version of the client. -/
def allNodes : Listing := ⟨.node, none, none⟩

/-- A page with a node and a link to the next page. -/
def firstNodes : Response :=
  jsonResponse ("\x7b\"nodes\":[\x7b\"uuid\":\"a\"\x7d]," ++
    "\"next\":\"http://ironic:6385/v1/nodes?marker=a\"\x7d")

/-- The next page, of which only the beginning came. -/
def brokenNodes : Response := jsonResponse "\x7b\"nodes\":[\x7b\"uuid\":\"b\"\x7d"

theorem not_decodes_brokenNodes (value : Json.Value) : ¬Decodes brokenNodes value := by
  intro h
  have hparse : (Json.Value.parse? brokenNodes.body).isNone = true := rfl
  rw [h.parsed] at hparse
  cases hparse

theorem walks_brokenNodes : ∃ o o' items,
    Walks allNodes [(o, .ok firstNodes), (o', .ok brokenNodes)] (.finished (.ok items)) ∧
      items.map Json.Value.compact = ["\x7b\"uuid\":\"a\"\x7d"] := by
  let u : Url := ⟨"http".toList, some ⟨[], none, .domain "ironic".toList, some 6385⟩,
    .rooted ["v1".toList, "nodes".toList], some "marker=a".toList, none⟩
  have hlink : nextLink? (jsonValue firstNodes) =
      some "http://ironic:6385/v1/nodes?marker=a" := rfl
  have hu : Url.parse "http://ironic:6385/v1/nodes?marker=a" = .ok u := rfl
  have hend : ¬HasLink brokenNodes := by
    rintro ⟨ms, link, hms, -⟩
    exact not_decodes_brokenNodes _ hms
  have hfirst := Walks.start.fetch (l := allNodes) rfl (.ok firstNodes)
  rw [resume_of_link hlink hu rfl] at hfirst
  have hsecond := hfirst.fetch rfl (.ok brokenNodes)
  rw [resume_of_not_hasLink hend] at hsecond
  exact ⟨_, _, _, hsecond, rfl⟩

theorem endsAt_brokenNodes : ∃ fetches items front last,
    (allNodes.limit = none ∨ allNodes.limit = some 0) ∧
      Walks allNodes fetches (.finished (.ok items)) ∧
      fetches.map Prod.snd = [.ok firstNodes, .ok brokenNodes] ∧
      fetches = (front ++ [last]).map Page.fetch ∧ EndsAt allNodes front last items := by
  obtain ⟨o, o', items, hwalks, -⟩ := walks_brokenNodes
  obtain ⟨front, last, hfetches, hends⟩ := ((endsAt_of_walks (.inl rfl) hwalks).1 items).mp rfl
  exact ⟨_, items, front, last, .inl rfl, hwalks, rfl, hfetches, hends⟩

/-- The second page is no JSON, and the listing gives what the first one holds. -/
theorem truncated_brokenNodes : ∃ o o' items,
    Walks allNodes [(o, .ok firstNodes), (o', .ok brokenNodes)] (.finished (.ok items)) ∧
      items.map Json.Value.compact = ["\x7b\"uuid\":\"a\"\x7d"] ∧
      ∀ vs, ¬allNodes.Holds brokenNodes vs := by
  obtain ⟨o, o', items, hwalks, hitems⟩ := walks_brokenNodes
  refine ⟨o, o', items, hwalks, hitems, ?_⟩
  rintro vs ⟨ms, hms, -⟩
  exact not_decodes_brokenNodes _ hms

end Samples

end Microversion.Resource.Listing
