import Microversion.Client.Schedule
import Microversion.Proofs.Cache.Persistence
import Microversion.Proofs.Client.Building
import Microversion.Proofs.Client.VersionHeader

/-! # What a client starts with

Valid settings without a version make a client whatever is in the file of its
cache. The client starts with the version of an entry for its server that is
young enough, and else with the initial one. So it starts with what an earlier
client of the same server has agreed on and saved.
-/

namespace Microversion.Client

open Http

namespace Settings

/-- The endpoint is set to a URL, which names the server, and no version is set; what goes into
headers may stand there. -/
structure IsValid (s : Settings) (url : String) (key : ServerKey) : Prop where
  endpoint : s.endpoint = some url
  server : ServerKey.parse url = .ok key
  trimmed : ∃ u, Url.parse (Endpoint.trim url) = .ok u
  version : s.version = none
  headers : ∀ e ∈ s.headers,
    (headerName? e.1).isSome = true ∧ (HeaderValue.ofText? e.2).isSome = true
  requestId : ∀ id ∈ s.requestId, (HeaderValue.ofText? id).isSome = true

variable {s : Settings} {url : String} {key : ServerKey}

theorem exists_headerValue {text : String} (h : (HeaderValue.ofText? text).isSome = true) :
    ∃ v, headerValue text = .ok v := by
  obtain ⟨v, hv⟩ := Option.isSome_iff_exists.mp h
  exact ⟨v, by rw [headerValue, hv]⟩

theorem exists_headerFields {entries : Table String}
    (h : ∀ e ∈ entries, (headerName? e.1).isSome = true ∧ (HeaderValue.ofText? e.2).isSome = true) :
    ∃ hs, headerFields entries = .ok hs := by
  unfold headerFields
  generalize Headers.empty = hs
  induction entries generalizing hs with
  | nil => exact ⟨hs, rfl⟩
  | cons e es ih =>
    obtain ⟨hname, hvalue⟩ := h e List.mem_cons_self
    obtain ⟨name, hname⟩ := Option.isSome_iff_exists.mp hname
    obtain ⟨v, hv⟩ := exists_headerValue hvalue
    rw [List.foldlM_cons]
    simp only [hname, hv]
    exact ih (fun e he => h e (List.mem_cons_of_mem _ he)) (hs.insert name v)

namespace IsValid

theorem trimmedEndpoint_eq (h : s.IsValid url key) (found : Except Error (Option String)) :
    s.trimmedEndpoint found = .ok (Endpoint.trim url) := by
  obtain ⟨u, hu⟩ := h.trimmed
  unfold trimmedEndpoint endpointUrl
  rw [h.endpoint]
  dsimp only
  rw [hu]

theorem serverKey_eq (h : s.IsValid url key) : s.serverKey = .ok (some key) := by
  unfold serverKey
  rw [h.endpoint]
  dsimp only
  rw [h.server]

theorem build_eq (h : s.IsValid url key) (found found' : Except Error (Option String))
    (shared : Option Cache) (now : Nat) (fs : Storage.FileSystem) :
    build s found shared now fs = build s found' shared now fs := by
  rw [build, build, h.trimmedEndpoint_eq found, h.trimmedEndpoint_eq found']

/-- The settings make one client, whatever the session would find. -/
theorem exists_client (h : s.IsValid url key) (shared : Option Cache) (now : Nat)
    (fs : Storage.FileSystem) : ∃ c, ∀ found, build s found shared now fs = .ok c := by
  have hsome : ∃ c, build s (.ok none) shared now fs = .ok c := by
    obtain ⟨additional, ha⟩ := exists_headerFields h.headers
    unfold build
    rw [h.trimmedEndpoint_eq, h.serverKey_eq, ha]
    cases hr : s.requestId with
    | none => exact ⟨_, rfl⟩
    | some id =>
      obtain ⟨v, hv⟩ := exists_headerValue (h.requestId id hr)
      dsimp only
      rw [hv]
      exact ⟨_, rfl⟩
  obtain ⟨c, hc⟩ := hsome
  exact ⟨c, fun found => (h.build_eq found (.ok none) shared now fs).trans hc⟩

theorem start_eq (h : s.IsValid url key) {found : Except Error (Option String)}
    {shared : Option Cache} {now : Nat} {fs : Storage.FileSystem} {c : Client}
    (hb : build s found shared now fs = .ok c) :
    c.start = remembered (cachedText (s.chosenCache shared) (some key) now fs) := by
  have built := built_of_build hb
  obtain ⟨server, hserver, -, hstart⟩ := built.speaks
  rw [h.serverKey_eq] at hserver
  cases hserver
  rw [hstart, built.cache, startingNegotiator, h.version]

end IsValid

theorem remembered_eq_cached_iff {cached : Option String} {v : Version} :
    remembered cached = ⟨.pinned v, .cached⟩ ↔ cached.bind Version.ofText? = some v := by
  unfold remembered
  constructor
  · intro h
    split at h
    · next w hw =>
      cases h
      exact hw
    · cases h
  · intro h
    rw [h]

theorem remembered_eq_default {cached : Option String} (h : cached.bind Version.ofText? = none) :
    remembered cached = ⟨.pinned .initial, .default⟩ := by
  rw [remembered, h]

end Settings

/-- The cache holds the version for the server, in an entry that is young enough. -/
def Holds (cache : Option Cache) (key : ServerKey) (now : Nat) (fs : Storage.FileSystem)
    (v : Version) : Prop :=
  ∃ c bs doc e, cache = some c ∧ fs.read c.file = .ok bs ∧ Cache.Document.decode? bs = some doc ∧
    Table.get? key.text doc = some e ∧ (now - e.storedAt) * 1000000 < c.expiry.nanoseconds ∧
    Version.ofText? e.version = some v

section Holds

variable {cache : Option Cache} {key : ServerKey} {now : Nat} {fs : Storage.FileSystem}
  {v : Version}

theorem cachedText_bind_iff :
    (Settings.cachedText cache (some key) now fs).bind Version.ofText? = some v ↔
      Holds cache key now fs v := by
  cases cache with
  | none =>
    constructor
    · rintro ⟨⟩
    · rintro ⟨c, bs, doc, e, hc, -⟩
      cases hc
  | some c =>
    rw [Settings.cachedText, Cache.retrieve_eq, Option.bind_eq_some_iff]
    simp only [Option.bind_eq_some_iff, Cache.held?_eq_some, Cache.fresh?_eq]
    constructor
    · rintro ⟨text, ⟨e, ⟨bs, doc, hread, hdoc, he⟩, hyoung⟩, hv⟩
      split at hyoung
      · next hlt =>
        cases hyoung
        exact ⟨c, bs, doc, e, rfl, hread, hdoc, he, hlt, hv⟩
      · cases hyoung
    · rintro ⟨c', bs, doc, e, hc, hread, hdoc, he, hlt, hv⟩
      cases hc
      exact ⟨e.version, ⟨e, ⟨bs, doc, hread, hdoc, he⟩, if_pos hlt⟩, hv⟩

end Holds

/-- A client of the server has agreed on the version and saved it at the time, in the files that
there were then. -/
structure Leaves (c : Client) (cache : Cache) (key : ServerKey) (v : Version) (time : UInt64)
    (fs : Storage.FileSystem) : Prop where
  built : ∃ s url found shared now fs₀, s.endpoint = some url ∧ ServerKey.parse url = .ok key ∧
    s.chosenCache shared = some cache ∧ build s found shared now fs₀ = .ok c
  agreed : ∃ es s k, System.run c (.idle c.start) es = some s ∧ (k, .remember v) ∈ s.log
  hosted : cache.IsHosted fs
  saved : (cache.save time.toNat key v.text fs).2 = .ok ()

namespace Leaves

variable {c : Client} {cache : Cache} {key : ServerKey} {v : Version} {time : UInt64}
  {fs : Storage.FileSystem}

theorem remember_eq (h : Leaves c cache key v time fs) :
    c.remember time.toNat v fs = (cache.save time.toNat key v.text fs).1 := by
  obtain ⟨s, url, found, shared, now, fs₀, hendpoint, hkey, hcache, hb⟩ := h.built
  have built := built_of_build hb
  obtain ⟨server, hserver, hc, -⟩ := built.speaks
  unfold Settings.serverKey at hserver
  rw [hendpoint] at hserver
  dsimp only at hserver
  rw [hkey] at hserver
  cases hserver
  rw [built.cache, hcache] at hc
  rw [remember, built.cache, hcache, hc]
  rfl

theorem held?_eq (h : Leaves c cache key v time fs) :
    cache.IsHosted (c.remember time.toNat v fs) ∧
      cache.held? (c.remember time.toNat v fs) key.text = some ⟨v.text, time.toNat⟩ := by
  rw [h.remember_eq]
  refine ⟨h.hosted.save time.toNat key v.text, ?_⟩
  rw [Cache.held?, Cache.content_of_save h.hosted time.toNat_lt h.saved]
  exact Table.get?_insert_self _ _ _

/-- What the client has saved counts for every other cache at the path of the file. -/
theorem cachedText_eq (h : Leaves c cache key v time fs) {cache' : Cache} {key' : ServerKey}
    (hpath : cache.path = cache'.path) (hkey : key.text = key'.text) {uses : List Cache.Use}
    (huses : Cache.lastSaved? key'.text uses = none) {now : Nat}
    (hyoung : (now - time.toNat) * 1000000 < cache'.expiry.nanoseconds) :
    Settings.cachedText (some cache') (some key') now
      (cache'.filesAfter (c.remember time.toNat v fs) uses) = some v.text := by
  obtain ⟨hhosted, hheld⟩ := h.held?_eq
  obtain ⟨path, expiry⟩ := cache
  obtain ⟨path', expiry'⟩ := cache'
  obtain rfl : path = path' := hpath
  -- the two caches differ in nothing that the file system sees
  have hhosted' : (⟨path, expiry'⟩ : Cache).IsHosted (c.remember time.toNat v fs) :=
    ⟨hhosted.tree, hhosted.temporary, hhosted.file⟩
  have hkept := Cache.held?_of_lastSaved? hhosted' huses (hkey ▸ hheld)
  rw [Settings.cachedText, Cache.retrieve_eq, hkept, Option.bind_some, Cache.fresh?_eq,
    if_pos hyoung]

end Leaves

/-- Clients of the settings start with what the cache holds for the server, be it from an earlier
client, and else with the initial version; the session is not asked for anything. -/
structure StartsFromCache (s : Settings) (key : ServerKey) : Prop where
  asksNobody : s.endpointQuery? = none
  starts : ∀ (shared : Option Cache) (now : Nat) (fs : Storage.FileSystem),
    ∃ c, (∀ found, build s found shared now fs = .ok c) ∧
      (∀ v, c.start = ⟨.pinned v, .cached⟩ ↔ Holds (s.chosenCache shared) key now fs v) ∧
      ((∀ v, ¬Holds (s.chosenCache shared) key now fs v) →
        c.start = ⟨.pinned .initial, .default⟩)
  continues : ∀ (shared : Option Cache) (cache : Cache), s.chosenCache shared = some cache →
    ∀ (earlier : Client) (cache' : Cache) (key' : ServerKey) (v : Version) (time : UInt64)
      (fs : Storage.FileSystem), Leaves earlier cache' key' v time fs →
    cache'.path = cache.path → key'.text = key.text →
    ∀ uses : List Cache.Use, Cache.lastSaved? key.text uses = none →
    ∀ now : Nat, (now - time.toNat) * 1000000 < cache.expiry.nanoseconds →
    ∃ c, (∀ found, build s found shared now
        (cache.filesAfter (earlier.remember time.toNat v fs) uses) = .ok c) ∧
      c.start = ⟨.pinned v, .cached⟩

theorem startsFromCache_of_isValid {s : Settings} {url : String} {key : ServerKey}
    (h : s.IsValid url key) : StartsFromCache s key := by
  constructor
  case asksNobody =>
    unfold Settings.endpointQuery?
    rw [h.endpoint]
  case starts =>
    intro shared now fs
    obtain ⟨c, hb⟩ := h.exists_client shared now fs
    have hstart := h.start_eq (hb (.ok none))
    refine ⟨c, hb, ?_, ?_⟩
    · intro v
      rw [hstart, Settings.remembered_eq_cached_iff, cachedText_bind_iff]
    · intro hnone
      rw [hstart]
      refine Settings.remembered_eq_default (Option.eq_none_iff_forall_ne_some.mpr ?_)
      intro v hv
      exact hnone v (cachedText_bind_iff.mp hv)
  case continues =>
    intro shared cache hcache earlier cache' key' v time fs hleaves hpath hkey uses huses now hyoung
    obtain ⟨c, hb⟩ := h.exists_client shared now
      (cache.filesAfter (earlier.remember time.toNat v fs) uses)
    refine ⟨c, hb, ?_⟩
    rw [h.start_eq (hb (.ok none)), hcache, Settings.remembered_eq_cached_iff,
      hleaves.cachedText_eq hpath hkey huses hyoung, Option.bind_some, Version.ofText?_text]

section Samples

/-- A cache whose file stands at the root. -/
def rootCache : Cache := ⟨"v.json", .ofSeconds 300⟩

/-- Settings of an endpoint and of this cache. -/
def cachingSettings (url : String) (more : List Setting) : Settings :=
  .ofList (.endpoint url :: .cache rootCache :: more)

/-- The client that negotiates with the server of the cache. -/
def negotiatingClient : Client :=
  ⟨"http://ironic:6385", .default, .resolved .unset, .empty, none, some rootCache,
    some ⟨some "ironic", some "6385"⟩, ⟨.latest, .user⟩⟩

theorem leaves_negotiatingClient :
    Leaves negotiatingClient rootCache ⟨some "ironic", some "6385"⟩ ⟨1, 50⟩ 1000
      (Cache.Saving.oneFile "v.json" [0x7B]) := by
  have hready : (Cache.Saving.mk rootCache ⟨some "ironic", some "6385"⟩ (⟨1, 50⟩ : Version).text
      1000).ReadyIn (Cache.Saving.oneFile "v.json" [0x7B]) [] .root "v.json" "v.tmp" :=
    (Cache.Saving.readyIn_sample [0x7B]).of_cache rfl
  constructor
  case built =>
    exact ⟨cachingSettings "http://ironic:6385/v1/" [.version .latest], "http://ironic:6385/v1/",
      .ok none, none, 0, .empty, rfl, rfl, rfl, rfl⟩
  case agreed =>
    exact ⟨[.call none .agree, .signal none 0 .lock,
      .signal none 0 (.answer (.ok (rangeResponse 200 ⟨1, 1⟩ ⟨1, 50⟩)))], _, 0, rfl,
      by decide⟩
  case hosted => exact hready.hosted
  case saved => exact hready.save.1

theorem isValid_cachingSettings :
    (cachingSettings "http://ironic:6385" []).IsValid "http://ironic:6385"
      ⟨some "ironic", some "6385"⟩ where
  endpoint := rfl
  server := rfl
  trimmed := ⟨_, rfl⟩
  version := rfl
  headers := by rintro e ⟨⟩
  requestId := by rintro id ⟨⟩

theorem startsFromCache_of_cachingSettings :
    (cachingSettings "http://ironic:6385" []).IsValid "http://ironic:6385"
        ⟨some "ironic", some "6385"⟩ ∧
      StartsFromCache (cachingSettings "http://ironic:6385" [])
        ⟨some "ironic", some "6385"⟩ ∧
      ∃ c, (∀ found, build (cachingSettings "http://ironic:6385" []) found none 4000
          (rootCache.filesAfter
            (negotiatingClient.remember 1000 ⟨1, 50⟩ (Cache.Saving.oneFile "v.json" [0x7B]))
            [.save 2000 ⟨some "ironic", none⟩ "1.46"]) = .ok c) ∧
        c.start = ⟨.pinned ⟨1, 50⟩, .cached⟩ := by
  have hstarts := startsFromCache_of_isValid isValid_cachingSettings
  refine ⟨isValid_cachingSettings, hstarts, ?_⟩
  exact hstarts.continues none rootCache rfl negotiatingClient rootCache
    ⟨some "ironic", some "6385"⟩ ⟨1, 50⟩ 1000 (Cache.Saving.oneFile "v.json" [0x7B])
    leaves_negotiatingClient rfl rfl [.save 2000 ⟨some "ironic", none⟩ "1.46"] rfl 4000 (by decide)

end Samples

end Microversion.Client
