import Microversion.Proofs.Cache.Separation
import Microversion.Proofs.Url.Host

/-! # The keys of URLs

The key of a URL of HTTP is written with its host, and with its port if that is not
the one that its scheme means anyway. So it names the host, and the port as well
unless all that is known of the port is that the scheme, which the key leaves out,
means it.
-/

namespace Microversion

namespace Url

/-- The host that a URL names. -/
def host? (u : Url) : Option Host := u.authority.map (·.host)

/-- The host and the port that a URL leads to. -/
def server? (u : Url) : Option (Host × ℕ) :=
  u.host?.bind fun host => u.effectivePort?.map fun port => (host, port)

/-- The ports of two URLs can be told from each other without their schemes. -/
def Comparable (u w : Url) : Prop := u.scheme = w.scheme ∨ u.port? ≠ none ∨ w.port? ≠ none

section Web

variable {s : String} {u w : Url}

theorem IsWeb.kind_eq (h : u.IsWeb) : u.kind = .special := by
  rcases h with h | h <;> rw [kind, h] <;> rfl

theorem IsWeb.exists_effectivePort (h : u.IsWeb) : ∃ port, u.effectivePort? = some port := by
  unfold effectivePort?
  split
  · exact ⟨_, rfl⟩
  · rcases h with h | h <;> rw [h] <;> exact ⟨_, rfl⟩

/-- A URL of HTTP has a host that has been read. -/
theorem IsWeb.exists_host (h : parse s = .ok u) (hu : u.IsWeb) :
    ∃ host, u.host? = some host ∧ host.IsRead ∧
      u.hostText? = some (String.ofList host.chars) := by
  obtain ⟨a, ha, hread⟩ := exists_authority h hu.kind_eq
  refine ⟨a.host, by rw [host?, ha]; rfl, hread, ?_⟩
  rw [hostText?, ha]
  dsimp only
  rw [hread.isEmpty_eq]
  rfl

theorem effectivePort?_eq (hport : u.port? = w.port?) (h : Comparable u w) :
    u.effectivePort? = w.effectivePort? := by
  unfold effectivePort?
  rw [← hport]
  cases hu : u.port? with
  | some port => rfl
  | none =>
    rcases h with hscheme | hne | hne
    · rw [hscheme]
    · exact absurd hu hne
    · exact absurd (hport ▸ hu) hne

end Web

end Url

namespace ServerKey

variable {s t : String} {u w : Url}

theorem parse_eq (h : Url.parse s = .ok u) : ServerKey.parse s = .ok (ofUrl u) := by
  rw [ServerKey.parse, h]
  rfl

theorem absentPart_ne_decimal (n : ℕ) : absentPart ≠ String.ofList (Text.decimal n) := by
  intro h
  have hn : 'n' ∈ Text.decimal n := by
    rw [← @String.toList_ofList (Text.decimal n), ← h]
    decide
  exact absurd (Text.isDigit_of_mem_decimal hn) (by decide)

theorem colon_not_mem_portText (u : Url) : ':' ∉ (ofUrl u).portText.toList := by
  rw [portText, ofUrl]
  cases u.port? with
  | none =>
    show ':' ∉ absentPart.toList
    decide
  | some port =>
    intro h
    rw [Option.map_some, Option.getD_some, String.toList_ofList] at h
    exact absurd (Text.isDigit_of_mem_decimal h) (by decide)

theorem port?_eq_of_portText (h : (ofUrl u).portText = (ofUrl w).portText) :
    u.port? = w.port? := by
  simp only [portText, ofUrl] at h
  cases hu : u.port? with
  | none =>
    cases hw : w.port? with
    | none => rfl
    | some port =>
      rw [hu, hw] at h
      exact absurd h (absentPart_ne_decimal port)
  | some port =>
    cases hw : w.port? with
    | none =>
      rw [hu, hw] at h
      exact absurd h.symm (absentPart_ne_decimal port)
    | some port' =>
      rw [hu, hw] at h
      exact congrArg some (Text.decimal_injective (String.ofList_injective h))

/-- The keys of two URLs have the same text only if the URLs name the same host and write the same
port. -/
theorem names_of_text (hs : Url.parse s = .ok u) (ht : Url.parse t = .ok w) (hu : u.IsWeb)
    (hw : w.IsWeb) (h : (ofUrl u).text = (ofUrl w).text) :
    u.host? = w.host? ∧ u.port? = w.port? := by
  obtain ⟨host, hhost, hread, htext⟩ := hu.exists_host hs
  obtain ⟨host', hhost', hread', htext'⟩ := hw.exists_host ht
  rcases text_eq_iff.mp h with ⟨hhosts, hports⟩ | hshifts | hshifts
  · constructor
    · simp only [hostText, ofUrl, htext, htext', Option.getD_some] at hhosts
      rw [hhost, hhost', hread.eq_of_chars hread' (String.ofList_injective hhosts)]
    · exact port?_eq_of_portText hports
  · exact absurd hshifts (not_shifts_of_not_mem (colon_not_mem_portText w))
  · exact absurd hshifts (not_shifts_of_not_mem (colon_not_mem_portText u))

/-- Keys that are written alike are those of one host, and of one server where the ports can be
compared; and nothing that is saved for one server is found for another one. -/
structure NamesServers (u w : Url) : Prop where
  host : (ofUrl u).text = (ofUrl w).text → ∃ host, u.host? = some host ∧ w.host? = some host
  server : (ofUrl u).text = (ofUrl w).text → Url.Comparable u w →
    ∃ server, u.server? = some server ∧ w.server? = some server
  otherHost : u.host? ≠ w.host? → Cache.KeepsApart (ofUrl u) (ofUrl w)
  otherServer : u.server? ≠ w.server? → Url.Comparable u w → Cache.KeepsApart (ofUrl u) (ofUrl w)

theorem exists_server (hs : Url.parse s = .ok u) (hu : u.IsWeb) :
    ∃ server, u.server? = some server := by
  obtain ⟨host, hhost, -⟩ := hu.exists_host hs
  obtain ⟨port, hport⟩ := hu.exists_effectivePort
  rw [Url.server?, hhost, hport]
  exact ⟨_, rfl⟩

theorem server?_eq_of_text (hs : Url.parse s = .ok u) (ht : Url.parse t = .ok w) (hu : u.IsWeb)
    (hw : w.IsWeb) (h : (ofUrl u).text = (ofUrl w).text) (hports : Url.Comparable u w) :
    u.server? = w.server? := by
  obtain ⟨hhost, hport⟩ := names_of_text hs ht hu hw h
  rw [Url.server?, Url.server?, hhost, Url.effectivePort?_eq hport hports]

/-- Texts that are URLs of HTTP have keys, which name their servers. -/
theorem namesServers_of_parse (hs : Url.parse s = .ok u) (ht : Url.parse t = .ok w) (hu : u.IsWeb)
    (hw : w.IsWeb) :
    ServerKey.parse s = .ok (ofUrl u) ∧ ServerKey.parse t = .ok (ofUrl w) ∧ NamesServers u w := by
  refine ⟨parse_eq hs, parse_eq ht, ?_⟩
  constructor
  case host =>
    intro h
    obtain ⟨host, hhost, -⟩ := hu.exists_host hs
    exact ⟨host, hhost, (names_of_text hs ht hu hw h).1 ▸ hhost⟩
  case server =>
    intro h hports
    obtain ⟨server, hserver⟩ := exists_server hs hu
    exact ⟨server, hserver, server?_eq_of_text hs ht hu hw h hports ▸ hserver⟩
  case otherHost =>
    intro hne
    apply Cache.keepsApart_of_text_ne
    intro h
    exact hne (names_of_text hs ht hu hw h).1
  case otherServer =>
    intro hne hports
    apply Cache.keepsApart_of_text_ne
    intro h
    exact hne (server?_eq_of_text hs ht hu hw h hports)

section Samples

/-- The URL of a host and a port, with a path. -/
def webUrl (scheme : String) (user : String) (host : Url.Host) (port : Option ℕ)
    (path : List String) : Url :=
  ⟨scheme.toList, some ⟨user.toList, none, host, port⟩, .rooted (path.map String.toList), none,
    none⟩

/-- One address may be written in many ways. -/
theorem namesServers_of_address :
    let u := webUrl "http" "" (.ipv6 [0, 0, 0, 0, 0, 0, 0, 1]) (some 6385) ["v1"]
    let w := webUrl "https" "probe" (.ipv6 [0, 0, 0, 0, 0, 0, 0, 1]) (some 6385) [""]
    Url.parse "http://[::1]:6385/v1" = .ok u ∧
      Url.parse "HTTPS://probe@[0:0:0:0::0.0.0.1]:06385" = .ok w ∧ u.IsWeb ∧ w.IsWeb ∧
      Url.Comparable u w ∧ (ofUrl u).text = (ofUrl w).text ∧
      ∃ server, u.server? = some server ∧ w.server? = some server := by
  intro u w
  have hs : Url.parse "http://[::1]:6385/v1" = .ok u := by decide +kernel
  have ht : Url.parse "HTTPS://probe@[0:0:0:0::0.0.0.1]:06385" = .ok w := by decide +kernel
  have hu : u.IsWeb := .inl rfl
  have hw : w.IsWeb := .inr rfl
  have hports : Url.Comparable u w := .inr (.inl (by decide))
  have htext : (ofUrl u).text = (ofUrl w).text := rfl
  obtain ⟨-, -, hnames⟩ := namesServers_of_parse hs ht hu hw
  exact ⟨hs, ht, hu, hw, hports, htext, hnames.server htext hports⟩

/-- Two schemes mean different ports of a host, and the key does not tell which. -/
theorem sameText_of_schemes :
    let u := webUrl "http" "" (.domain "ironic".toList) none [""]
    let w := webUrl "https" "" (.domain "ironic".toList) none [""]
    Url.parse "http://ironic" = .ok u ∧ Url.parse "https://ironic" = .ok w ∧ u.IsWeb ∧ w.IsWeb ∧
      ServerKey.parse "http://ironic" = .ok (ofUrl u) ∧
      ServerKey.parse "https://ironic" = .ok (ofUrl w) ∧ (ofUrl u).text = (ofUrl w).text ∧
      u.effectivePort? = some 80 ∧ w.effectivePort? = some 443 ∧
      ¬Cache.KeepsApart (ofUrl u) (ofUrl w) := by
  intro u w
  have hs : Url.parse "http://ironic" = .ok u := by decide +kernel
  have ht : Url.parse "https://ironic" = .ok w := by decide +kernel
  exact ⟨hs, ht, .inl rfl, .inr rfl, parse_eq hs, parse_eq ht, rfl, rfl, rfl,
    Cache.not_keepsApart_of_text_eq rfl⟩

end Samples

end ServerKey

end Microversion
