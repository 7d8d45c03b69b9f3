import Microversion.Client.Build

/-! # What a client is built from

A client that has been built holds what its settings say. What it speaks at the
beginning is the version that they set, else it depends on its server and its cache.
-/

namespace Microversion.Client

/-- What the settings have made of a client. -/
structure Built (s : Settings) (found : Except Error (Option String)) (shared : Option Cache)
    (now : Nat) (fs : Storage.FileSystem) (c : Client) : Prop where
  endpoint : s.trimmedEndpoint found = .ok c.endpoint
  filter : c.filter = s.filter
  cache : c.cache = s.chosenCache shared
  speaks : ∃ server, s.serverKey = .ok server ∧ c.server = c.cache.bind (fun _ => server) ∧
    c.start = s.startingNegotiator (Settings.cachedText c.cache server now fs)

variable {s : Settings} {found : Except Error (Option String)} {shared : Option Cache} {now : Nat}
  {fs : Storage.FileSystem} {c : Client}

theorem exists_of_bind {α β : Type} {x : Except Error α} {f : α → Except Error β} {b : β}
    (h : x >>= f = .ok b) : ∃ a, x = .ok a ∧ f a = .ok b := by
  cases x with
  | error e => cases h
  | ok a => exact ⟨a, rfl, h⟩

/-- What has been found out on the way to a client. -/
theorem exists_of_build (h : build s found shared now fs = .ok c) :
    ∃ endpoint server additional requestId, s.trimmedEndpoint found = .ok endpoint ∧
      s.serverKey = .ok server ∧ Settings.headerFields s.headers = .ok additional ∧
      c = ⟨endpoint, s.filter, s.budget.resolved, additional, requestId, s.chosenCache shared,
        (s.chosenCache shared).bind fun _ => server,
        s.startingNegotiator (Settings.cachedText (s.chosenCache shared) server now fs)⟩ := by
  unfold build at h
  obtain ⟨endpoint, he, h⟩ := exists_of_bind h
  obtain ⟨server, hk, h⟩ := exists_of_bind h
  obtain ⟨additional, ha, h⟩ := exists_of_bind h
  cases hr : s.requestId with
  | none =>
    rw [hr] at h
    cases h
    exact ⟨endpoint, server, additional, none, he, hk, ha, rfl⟩
  | some id =>
    rw [hr] at h
    obtain ⟨requestId, -, h⟩ := exists_of_bind h
    cases h
    exact ⟨endpoint, server, additional, requestId, he, hk, ha, rfl⟩

theorem built_of_build (h : build s found shared now fs = .ok c) :
    Built s found shared now fs c := by
  obtain ⟨endpoint, server, additional, requestId, he, hk, -, rfl⟩ := exists_of_build h
  exact ⟨he, rfl, rfl, server, hk, rfl, rfl⟩

theorem additional_of_build (h : build s found shared now fs = .ok c) :
    Settings.headerFields s.headers = .ok c.additional := by
  obtain ⟨endpoint, server, additional, requestId, -, -, ha, rfl⟩ := exists_of_build h
  exact ha

/-- The endpoint is kept trimmed. -/
theorem Built.exists_url (h : Built s found shared now fs c) :
    ∃ url, s.endpointUrl found = .ok url ∧ c.endpoint = Endpoint.trim url := by
  have he := h.endpoint
  unfold Settings.trimmedEndpoint at he
  split at he
  · cases he
  · next url hu =>
    split at he
    · cases he
    · exact ⟨url, hu, (Except.ok.inj he).symm⟩

theorem start_of_build (h : build s found shared now fs = .ok c) :
    ∃ cached, c.start = s.startingNegotiator cached := by
  obtain ⟨server, -, -, hstart⟩ := (built_of_build h).speaks
  exact ⟨_, hstart⟩

/-- What is spoken at the beginning is the user's version, if there is one. -/
theorem start_of_version {requested : Requested} (h : build s found shared now fs = .ok c)
    (hs : s.selectState = none) (hv : s.version = some requested) :
    c.start = ⟨requested, .user⟩ := by
  obtain ⟨cached, hc⟩ := start_of_build h
  rw [hc, Settings.startingNegotiator, hv, hs]
  rfl

/-- A client that does not have to ask its server starts with one version. -/
theorem exists_pinned_of_build (h : build s found shared now fs = .ok c)
    (hs : s.selectState = none) (hn : c.start.mustNegotiate = false) :
    ∃ v, c.start.requested = .pinned v := by
  cases hv : s.version with
  | none =>
    obtain ⟨cached, hc⟩ := start_of_build h
    simp only [Settings.startingNegotiator, hv, Settings.remembered] at hc
    split at hc
    · exact ⟨_, by rw [hc]⟩
    · exact ⟨_, by rw [hc]⟩
  | some requested =>
    rw [start_of_version h hs hv] at hn ⊢
    cases requested with
    | pinned v => exact ⟨v, rfl⟩
    | latest => cases hn
    | anyOf vs => cases hn

end Microversion.Client
