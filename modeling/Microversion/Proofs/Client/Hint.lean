import Microversion.Proofs.Cache.Entries
import Microversion.Proofs.Client.Beginning
import Microversion.Proofs.Client.World

/-! # The cache is a hint

Once a client has started, its cache makes no difference to what it does, whatever
becomes of the files. It writes there only the version that it agrees on, for a
server whose endpoint was set, and it leaves the entries of other servers.
-/

namespace Microversion.Client

open Storage

/-- What a happening does to the files of a client with some settings. -/
inductive Touches (s : Settings) (chosen : Option Cache) : World → Happening → World → Prop
  | others {world : World} {fs : FileSystem} :
      Touches s chosen world (.files fs) { world with files := fs }
  | nothing {world world' : World} {w : Weather} {e : Event}
      (files : world'.files = world.files) : Touches s chosen world (.event w e) world'
  /-- The first and only version is agreed on, and saved for the server of the endpoint set. -/
  | saved {world world' : World} {w : Weather} {e : Event} {url : String} {key : ServerKey}
      {cache : Cache} {v : Version}
      (endpoint : s.endpoint = some url) (server : ServerKey.parse url = .ok key)
      (chooses : chosen = some cache) (first : world.system.agreements = [])
      (agreed : world'.system.agreements = [v])
      (spoken : world'.system.negotiator = .agreed v)
      (files : world'.files =
        ((Cache.Saving.mk cache key v.text w.now.toNat).after w.failures world.files 7).2)
      (records : (Cache.Saving.mk cache key v.text w.now.toNat).Records w.failures world.files) :
      Touches s chosen world (.event w e) world'

/-- A client with a cache does what one without a cache does, whatever becomes of the files; and
what it does to them is to record the version that it agrees on. -/
structure IsHint (s : Settings) (chosen : Option Cache) (c c' : Client) : Prop where
  alike : ∀ (hs hs' : List Happening) (fs fs' : FileSystem),
    hs.filterMap (·.event?) = hs'.filterMap (·.event?) →
    (World.run c (.idle c fs) hs).map World.system =
      (World.run c' (.idle c' fs') hs').map World.system
  touches : ∀ (fs : FileSystem) (hs : List Happening) (world : World) (h : Happening)
    (world' : World), World.run c' (.idle c' fs) hs = some world →
    world.step c' h = some world' → Touches s chosen world h world'

section Hint

variable {s : Settings} {found : Except Error (Option String)} {shared shared' : Option Cache}
  {now now' : Nat} {fs fs' : FileSystem} {c c' : Client}

theorem Settings.exists_url_of_serverKey {key : ServerKey} (h : s.serverKey = .ok (some key)) :
    ∃ url, s.endpoint = some url ∧ ServerKey.parse url = .ok key := by
  unfold serverKey at h
  split at h
  · cases h
  · next url hurl =>
    split at h
    · cases h
    · next key' hkey =>
      cases h
      exact ⟨url, hurl, hkey⟩

/-- A client remembers versions for the server of the endpoint that was set, if at all. -/
theorem Built.remembers (h : Built s found shared now fs c) :
    (∃ url key cache, s.endpoint = some url ∧ ServerKey.parse url = .ok key ∧
      s.chosenCache shared = some cache ∧ ∀ w v files, c.rememberIn w v files =
        ((Cache.Saving.mk cache key v.text w.now.toNat).after w.failures files 7).2) ∨
      ∀ w v files, c.rememberIn w v files = files := by
  obtain ⟨server, hserver, hc, -⟩ := h.speaks
  cases hcache : c.cache with
  | none =>
    right
    intro w v files
    rw [rememberIn, hcache]
  | some cache =>
    rw [hcache, Option.bind_some] at hc
    cases server with
    | none =>
      right
      intro w v files
      rw [rememberIn, hcache, hc]
    | some key =>
      obtain ⟨url, hurl, hkey⟩ := Settings.exists_url_of_serverKey hserver
      refine .inl ⟨url, key, cache, hurl, hkey, h.cache.symm.trans hcache, ?_⟩
      intro w v files
      rw [rememberIn, hcache, hc]

theorem Built.touches (h : Built s found shared now fs c) {world world' : World}
    {happening : Happening} (hsound : System.Sound c world.system)
    (hstep : world.step c happening = some world') :
    Touches s (s.chosenCache shared) world happening world' := by
  cases happening with
  | files fs =>
    cases hstep
    exact .others
  | event w e =>
    rcases World.files_of_step hsound hstep with hsame | ⟨v, hfirst, hagreed, hspoken, hfiles⟩
    · exact .nothing hsame
    · rcases h.remembers with ⟨url, key, cache, hurl, hkey, hcache, hremember⟩ | hremember
      · exact .saved hurl hkey hcache hfirst hagreed hspoken (hfiles.trans (hremember w v _))
          (Cache.Saving.records w.now.toNat_lt _ _)
      · exact .nothing (hfiles.trans (hremember w v _))

theorem isHint_of_build {choice : CacheChoice}
    (h : build { s with cache := .nowhere } found shared now fs = .ok c)
    (h' : build { s with cache := choice } found shared' now' fs' = .ok c')
    (hstart : c.start = c'.start) :
    IsHint { s with cache := choice } (Settings.chosenCache { s with cache := choice } shared')
      c c' := by
  have halike := actsAlike_of_build h h'
  constructor
  case alike =>
    intro hs hs' files files' hevents
    rw [World.system_run, World.system_run, hevents, halike.run_eq]
    exact congrArg (fun n => System.run c' (.idle n) _) hstart
  case touches =>
    intro files hs world happening world' hrun hstep
    exact (built_of_build h').touches (World.sound_of_run hrun) hstep

end Hint

section Samples

/-- A client agrees on a version with a server that goes up to 1.50. -/
def negotiation (w : Weather) : List Happening :=
  [.event w (.call none .agree), .event w (.signal none 0 .lock),
    .event w (.signal none 0 (.answer (.ok (rangeResponse 200 ⟨1, 1⟩ ⟨1, 50⟩))))]

theorem run_negotiation (w : Weather) (fs : FileSystem) : ∃ system,
    World.run negotiatingClient (.idle negotiatingClient fs) (negotiation w) = some ⟨system,
      ((Cache.Saving.mk rootCache ⟨some "ironic", some "6385"⟩ "1.50" w.now.toNat).after
        w.failures fs 7).2⟩ ∧ system.agreements = [⟨1, 50⟩] :=
  ⟨_, rfl, rfl⟩

theorem isHint_of_negotiatingClient :
    let s := Settings.ofList [.endpoint "http://ironic:6385/v1/", .version .latest]
    let c := { negotiatingClient with cache := none, server := none }
    let corrupt := Cache.Saving.oneFile "v.json" [0x7B]
    let full : Weather := ⟨1000, fun n => if n = 3 then some ⟨.noSpace, 5⟩ else none⟩
    build { s with cache := .nowhere } (.ok none) none 0 .empty = .ok c ∧
      build { s with cache := .given rootCache } (.ok none) none 0 corrupt =
        .ok negotiatingClient ∧
      c.start = negotiatingClient.start ∧
      IsHint { s with cache := .given rootCache } (some rootCache) c negotiatingClient ∧
      ∃ world, World.run negotiatingClient (.idle negotiatingClient corrupt) (negotiation full) =
        some world ∧ world.system.agreements = [⟨1, 50⟩] := by
  intro s c corrupt full
  have hb : build { s with cache := .nowhere } (.ok none) none 0 .empty = .ok c := rfl
  have hb' : build { s with cache := .given rootCache } (.ok none) none 0 corrupt =
      .ok negotiatingClient := rfl
  obtain ⟨system, hrun, hagreed⟩ := run_negotiation full corrupt
  exact ⟨hb, hb', rfl, isHint_of_build hb hb' rfl, _, hrun, hagreed⟩

end Samples

section Link

open FileSystem Location

/-- The file of the cache, and a link to it at the place of its temporary file. -/
structure IsLinked (fs : FileSystem) (content : Bytes) : Prop where
  link : fs.node? (root.child "v.tmp") = some (.link "v.json")
  file : fs.node? (root.child "v.json") = some (.file content)

variable {fs : FileSystem} {follow : Ending → Bool} {content : Bytes}

theorem locate_cache (fs : FileSystem) (follow : Ending → Bool) :
    fs.locate follow rootCache.file = fs.walk follow maxLinks root ["v.json"] .bare := by
  have hparts : rootCache.file.parts = ["v.json"] := rfl
  have hending : rootCache.file.ending = .bare := rfl
  rw [locate, if_neg (by decide), if_neg (by decide), hparts, hending]

theorem locate_temporary (fs : FileSystem) (follow : Ending → Bool) :
    fs.locate follow (rootCache.file.withExtension "tmp") =
      fs.walk follow maxLinks root ["v.tmp"] .bare := by
  have hparts : (rootCache.file.withExtension "tmp").parts = ["v.tmp"] := rfl
  have hending : (rootCache.file.withExtension "tmp").ending = .bare := rfl
  rw [locate, if_neg (by decide), if_neg (by decide), hparts, hending]

theorem walk_file {links : Nat} (h : fs.node? (root.child "v.json") = some (.file content)) :
    fs.walk follow links root ["v.json"] .bare = .ok (root.child "v.json", .bare) := by
  rw [walk_leaf (by decide) (by decide) h (by rintro ⟨⟩) (by rintro target ⟨⟩)]
  rfl

/-- What is found when a link to the cache file is followed. -/
theorem walk_through {part : String} {links : Nat} (hdots : part ≠ "..")
    (hlong : ¬maxNameLength < part.utf8ByteSize)
    (h : fs.node? (root.child part) = some (.link "v.json")) (hfollow : follow .bare = true) :
    fs.walk follow links root [part] .bare =
      match links with
      | 0 => .error .linkLoop
      | links + 1 => fs.walk follow links root ["v.json"] .bare := by
  have hparts : (Path.ofText "v.json").parts = ["v.json"] := rfl
  have hending : (Path.ofText "v.json").ending = .bare := rfl
  have habsolute : (Path.ofText "v.json").absolute = false := rfl
  rw [walk_link hdots hlong h, if_neg (by simp [hfollow]), hparts, hending, habsolute]
  cases links <;> rfl

/-- A link to itself leads nowhere. -/
theorem read_loop (h : fs.node? (root.child "v.json") = some (.link "v.json")) :
    fs.read rootCache.file = .error .linkLoop := by
  have hwalk : ∀ links, fs.walk (fun _ => true) links root ["v.json"] .bare =
      .error .linkLoop := by
    intro links
    induction links with
    | zero => exact walk_through (by decide) (by decide) h rfl
    | succ links ih => exact (walk_through (by decide) (by decide) h rfl).trans ih
  rw [FileSystem.read, locate_cache, hwalk]

namespace IsLinked

theorem put (h : IsLinked fs content) (data : Bytes) :
    IsLinked (fs.put (root.child "v.json") (.file data)) data where
  link := by rw [node?_put_of_ne (by decide), h.link]
  file := node?_put_self (child_ne_root _ _)

theorem read (h : IsLinked fs content) : fs.read rootCache.file = .ok content := by
  simp only [FileSystem.read, locate_cache, walk_file h.file, h.file, if_true]

/-- The temporary file is opened where the link leads. -/
theorem openEmpty (h : IsLinked fs content) :
    fs.openEmpty (rootCache.file.withExtension "tmp") =
      .ok (fs.put (root.child "v.json") (.file []), root.child "v.json") := by
  have hlocate : fs.locate (· != .slash) (rootCache.file.withExtension "tmp") =
      .ok (root.child "v.json", .bare) := by
    rw [locate_temporary, walk_through (by decide) (by decide) h.link rfl]
    exact walk_file h.file
  rw [FileSystem.openEmpty, hlocate]
  simp only [h.file]
  rfl

/-- The link takes the place of the file. -/
theorem rename (h : IsLinked fs content) :
    fs.rename (rootCache.file.withExtension "tmp") rootCache.file =
      .ok ((fs.erase (root.child "v.tmp")).put (root.child "v.json") (.link "v.json")) := by
  have hsource : fs.locate (fun _ => false) (rootCache.file.withExtension "tmp") =
      .ok (root.child "v.tmp", .bare) := by
    rw [locate_temporary, walk_link (by decide) (by decide) h.link]
    rfl
  have htarget : fs.locate (fun _ => false) rootCache.file = .ok (root.child "v.json", .bare) :=
    (locate_cache fs _).trans (walk_file h.file)
  rw [rename_leaf hsource htarget h.link (isLeaf_of_file h.file), if_neg (by decide)]

/-- The cache file is emptied through the link, and then the link takes its place. -/
theorem stored?_after {s : Cache.Saving} (hs : s.cache = rootCache) (h : IsLinked fs content) :
    s.cache.stored? (s.after (fun _ => none) fs 7).2 = none := by
  have htemporary : s.temporary = rootCache.file.withExtension "tmp" := by
    rw [Cache.Saving.temporary, hs]
  obtain ⟨doc, hload⟩ : ∃ doc, s.afterLoad (rootCache.content fs) = .directories doc := by
    rw [Cache.content, h.read]
    simp only [Cache.Content.ofRead]
    split <;> exact ⟨_, rfl⟩
  have hmake : s.makeParent fs = (fs, .ok ()) := by
    have hparent : s.cache.file.parent? = some ⟨[""]⟩ := by rw [hs]; rfl
    simp only [Cache.Saving.makeParent, hparent]
    exact if_pos (.inr rfl)
  have hopen := h.openEmpty
  have hwrite := write_file (h.put []).file doc.encode
  have hrename := ((h.put []).put doc.encode).rename
  have hafter : (s.after (fun _ => none) fs 7).2.node? (root.child "v.json") =
      some (.link "v.json") := by
    simp only [Cache.Saving.after, Cache.Saving.step, hs, hload, hmake, htemporary, hopen, hwrite,
      hrename]
    exact node?_put_self (child_ne_root _ _)
  rw [Cache.stored?, hs, read_loop hafter]
  rfl

end IsLinked

/-- A cache with an entry of another server, and a link to it at the place of its temporary
file. -/
def linked : FileSystem :=
  (Cache.Saving.oneFile "v.json" (Cache.Document.encode [("other:1", ⟨"1.20", 5⟩)])).put
    (root.child "v.tmp") (.link "v.json")

theorem isLinked_linked :
    IsLinked linked (Cache.Document.encode [("other:1", ⟨"1.20", 5⟩)]) where
  link := node?_put_self (child_ne_root _ _)
  file := by
    rw [linked, node?_put_of_ne (by decide)]
    exact node?_put_self (child_ne_root _ _)

/-- Where the temporary file is a link to the cache file the entries of other servers are lost. -/
theorem entries_lost_through_link :
    build (cachingSettings "http://ironic:6385" [.version .latest]) (.ok none) none 0 linked =
        .ok negotiatingClient ∧
      rootCache.content linked = .entries [("other:1", ⟨"1.20", 5⟩)] ∧
      "other:1" ≠ (⟨some "ironic", some "6385"⟩ : ServerKey).text ∧
      rootCache.held? linked "other:1" = some ⟨"1.20", 5⟩ ∧
      ∃ world, World.run negotiatingClient (.idle negotiatingClient linked)
          (negotiation ⟨1000, fun _ => none⟩) = some world ∧
        rootCache.held? world.files "other:1" = none := by
  have hproper : Cache.Document.IsProper [("other:1", ⟨"1.20", 5⟩)] :=
    Cache.Document.isProper_nil.insert _ (by decide)
  have hcontent : rootCache.content linked = .entries [("other:1", ⟨"1.20", 5⟩)] :=
    Cache.content_of_stored? (Cache.stored?_eq_some.mpr isLinked_linked.read)
      (Cache.Document.decode?_encode hproper)
  have hlost := isLinked_linked.stored?_after
    (s := ⟨rootCache, ⟨some "ironic", some "6385"⟩, "1.50", (1000 : UInt64).toNat⟩) rfl
  obtain ⟨system, hrun, -⟩ := run_negotiation ⟨1000, fun _ => none⟩ linked
  refine ⟨rfl, hcontent, by decide, ?_, _, hrun, ?_⟩
  · rw [Cache.Saving.held?_of_content hcontent]
    rfl
  · rw [Cache.held?, Cache.document?_content]
    exact congrArg (fun bs => (Option.bind bs Cache.Document.decode?).bind (Table.get? "other:1"))
      hlost

end Link

end Microversion.Client
