import Microversion.Proofs.Client.Dialogue
import Microversion.Proofs.Url.Scheme
import Microversion.Session.Transport

/-! # Where redirects lead

A client and its session decide each on its own whether a target is a URL: the
client reads it, the session looks for a scheme of HTTP in lower case. Where
they agree on the target that is redirected, the next request goes to the place
that the redirect names, as seen from the URL of the request before, if that is
a place of HTTP. Where they do not, it may go elsewhere.
-/

namespace Microversion

open Http

namespace Session

/-- The session takes the target for a URL, or nobody does. -/
def ReadsAlike (target : String) : Prop :=
  isAbsolute target = true ∨ ∃ e, Url.parse target = .error e

section Text

variable {u : Url}

theorem isAbsolute_iff {target : String} : isAbsolute target = true ↔
    "http".toList ++ "://".toList <+: target.toList ∨
      "https".toList ++ "://".toList <+: target.toList := by
  rw [isAbsolute, Bool.or_eq_true, List.isPrefixOf_iff_prefix, List.isPrefixOf_iff_prefix]
  rfl

theorem isAbsolute_text (h : u.Formed) : isAbsolute u.text = true ↔ u.IsWeb := by
  have http : "http".toList ++ "://".toList <+: u.chars ↔ u.scheme = "http".toList :=
    h.startsWith_iff (by decide) (by decide)
  have https : "https".toList ++ "://".toList <+: u.chars ↔ u.scheme = "https".toList :=
    h.startsWith_iff (by decide) (by decide)
  have htext : u.text.toList = u.chars := String.toList_ofList
  rw [isAbsolute_iff, htext, http, https]
  rfl

theorem head_ne_slash (h : u.Formed) : ∃ c cs, u.chars = c :: cs ∧ c ≠ '/' := by
  obtain ⟨rest, hu⟩ := u.chars_eq
  cases hs : u.scheme with
  | nil =>
    rw [hs] at hu
    exact ⟨_, _, hu, by decide⟩
  | cons c cs =>
    rw [hs] at hu
    exact ⟨_, _, hu, (h.scheme c (by rw [hs]; exact List.mem_cons_self)).2⟩

/-- Below an endpoint a URL is not what it was. -/
theorem join_text_ne (h : u.Formed) (endpoint : String) :
    Endpoint.join endpoint u.text ≠ u.text := by
  intro he
  obtain ⟨c, cs, hu, hc⟩ := head_ne_slash h
  have hchars : Endpoint.joinChars endpoint.toList u.chars = u.chars := by
    simpa [Endpoint.join, Url.text] using congrArg String.toList he
  have hlen := congrArg List.length hchars
  unfold Endpoint.joinChars at hlen
  dsimp only at hlen
  split at hlen
  · next hnil => simp [hu] at hnil
  · next cs' hslash =>
    rw [hu] at hslash
    cases hslash
    exact hc rfl
  · simp only [List.length_append, List.length_cons] at hlen
    omega

theorem resolve_eq_text_iff (h : u.Formed) {r : Request} (hr : r.target = u.text)
    {base : String} (hb : r.base = some base) (endpoint : Option String) :
    resolve endpoint r = .ok u.text ↔ u.IsWeb := by
  rw [← isAbsolute_text h, resolve, hr, hb]
  constructor
  · intro hres
    split at hres
    · assumption
    · exact absurd (Except.ok.inj hres) (join_text_ne h base)
  · intro ha
    rw [if_pos ha]

end Text

section Hop

variable {c : Client} {r r' : Request} {location url : String} {base : Url}

/-- Client and session see the same URL in the target. -/
theorem parse_of_readsAlike (hb : r.base = some c.endpoint) (ha : ReadsAlike r.target)
    {endpoint : Option String} (hr : resolve endpoint r = .ok url)
    (hp : Url.parse url = .ok base) :
    ((Url.parse r.target).orElseLazy fun _ => Url.parse (Endpoint.join c.endpoint r.target)) =
      .ok base := by
  unfold resolve at hr
  split at hr
  · cases hr
    rw [hp]
    rfl
  · next habs =>
    rcases ha with ha | ⟨e, he⟩
    · exact absurd ha habs
    · rw [hb] at hr
      cases hr
      rw [he, Except.orElseLazy]
      exact hp

theorem exists_place (ht : c.redirectTarget r.target location = .ok r'.target) :
    ∃ b u, ((Url.parse r.target).orElseLazy fun _ =>
        Url.parse (Endpoint.join c.endpoint r.target)) = .ok b ∧
      b.Formed ∧ Url.join b location = .ok u ∧ u.Formed ∧ r'.target = u.text := by
  unfold Client.redirectTarget at ht
  split at ht
  · cases ht
  · next b hb =>
    have hf : b.Formed := by
      cases hp : Url.parse r.target with
      | error e =>
        rw [hp, Except.orElseLazy] at hb
        exact Url.formed_of_parse hb
      | ok b' =>
        rw [hp] at hb
        cases hb
        exact Url.formed_of_parse hp
    split at ht
    · cases ht
    · next u hu => exact ⟨b, u, hb, hf, hu, Url.formed_of_join hf hu, (Except.ok.inj ht).symm⟩

end Hop

section Attempt

open Client

/-- Every redirect that is followed leads to a URL of HTTP. -/
def StaysOnWeb (us : List Utterance) : Prop :=
  ∀ (before after : List Utterance) (place : Response) (r : Request),
    us = before ++ .answered (.ok place) :: .sent r :: after → isRedirect place.status = true →
    isAbsolute r.target = true

/-- The request after a redirect goes to the place that it names, if that is a place of HTTP. -/
def Follows (endpoint : Option String) (r : Request) (place : Response) (r' : Request) : Prop :=
  ∃ location url, place.header? "location" = some location ∧ resolve endpoint r = .ok url ∧
    ∀ base, Url.parse url = .ok base → ∃ u, Url.join base location = .ok u ∧
      r'.target = u.text ∧ (resolve endpoint r' = .ok u.text ↔ u.IsWeb)

variable {c : Client} {o : Order} {us : List Utterance}

theorem follows_of_redirectTarget {r r' : Request} {place : Response} {location : String}
    (hb : r.base = some c.endpoint) (hb' : r'.base = some c.endpoint)
    (hl : place.header? "location" = some location)
    (ht : c.redirectTarget r.target location = .ok r'.target) (ha : ReadsAlike r.target)
    (endpoint : Option String) : Follows endpoint r place r' := by
  obtain ⟨url, hr⟩ : ∃ url, resolve endpoint r = .ok url := by
    unfold resolve
    rw [hb]
    split
    · exact ⟨_, rfl⟩
    · exact ⟨_, rfl⟩
  refine ⟨location, url, hl, hr, ?_⟩
  intro base hp
  obtain ⟨b, u, hparse, -, hu, hf, htarget⟩ := exists_place ht
  rw [parse_of_readsAlike hb ha hr hp] at hparse
  cases hparse
  exact ⟨u, hu, htarget, resolve_eq_text_iff hf htarget hb' endpoint⟩

/-- If redirects lead to HTTP only, the session never sees anything else in the target of a call
than the client. -/
theorem readsAlike_of_staysOnWeb
    (hp : ∀ (before after : List Utterance) (r : Request), us = before ++ .sent r :: after →
      Prompts c o before r)
    (ho : ReadsAlike o.target) (hw : StaysOnWeb us) {before after : List Utterance} {r : Request}
    (h : us = before ++ .sent r :: after) : ReadsAlike r.target := by
  -- a request that was refused has been sent before, with the same target
  induction hn : before.length using Nat.strongRecOn generalizing before after r with
  | ind n ih =>
    cases hp before after r h with
    | call ht =>
      rw [ht]
      exact ho
    | @refusal before r _ _ _ ht =>
      rw [ht]
      refine ih before.length ?_ (h.trans (List.append_assoc _ _ _)) rfl
      simp only [List.length_append, List.length_cons, List.length_nil] at hn
      omega
    | @redirect before r _ place _ hred =>
      refine .inl (hw (before ++ [.sent r]) after place _ ?_ hred)
      simpa using h

/-- An attempt goes where the redirects lead that it is answered with. -/
structure GoesWhereLed (o : Order) (us : List Utterance) : Prop where
  hop : ∀ (before after : List Utterance) (r r' : Request) (place : Response),
    us = before ++ .sent r :: .answered (.ok place) :: .sent r' :: after →
    isRedirect place.status = true → ReadsAlike r.target →
    ∀ endpoint, Follows endpoint r place r'
  chain : ReadsAlike o.target → StaysOnWeb us →
    ∀ (before after : List Utterance) (r r' : Request) (place : Response),
    us = before ++ .sent r :: .answered (.ok place) :: .sent r' :: after →
    isRedirect place.status = true → ∀ endpoint, ∃ location url,
      place.header? "location" = some location ∧ resolve endpoint r = .ok url ∧
      ∀ base, Url.parse url = .ok base →
        ∃ u, Url.join base location = .ok u ∧ resolve endpoint r' = .ok u.text

theorem goesWhereLed_of_run {es : List Event} {s : System} {k : Nat} {t : Task}
    (h : System.run c (.idle c.start) es = some s) (ht : s.tasks[k]? = some t)
    (hj : t.job = .send o) (a : UInt32) :
    GoesWhereLed o (exchanges k a (System.history c (.idle c.start) es)) := by
  have prompted : ∀ (before after : List Utterance) (r : Request),
      exchanges k a (System.history c (.idle c.start) es) = before ++ .sent r :: after →
      r.base = some c.endpoint ∧ Prompts c o before r := by
    intro before after r hx
    obtain ⟨t', o', x, ht', hj', rfl, hp⟩ :=
      (System.reaches_of_run h).traces.prompted k a before after r hx
    rw [ht] at ht'
    cases ht'
    rw [hj] at hj'
    cases hj'
    exact ⟨rfl, hp⟩
  have hop : ∀ (before after : List Utterance) (r r' : Request) (place : Response),
      exchanges k a (System.history c (.idle c.start) es) =
        before ++ .sent r :: .answered (.ok place) :: .sent r' :: after →
      isRedirect place.status = true → ReadsAlike r.target →
      ∀ endpoint, Follows endpoint r place r' := by
    intro before after r r' place hx hred ha endpoint
    obtain ⟨hb, -⟩ := prompted _ _ _ hx
    obtain ⟨hb', hp⟩ := prompted (before ++ [.sent r, .answered (.ok place)]) after r'
      (by simpa using hx)
    obtain ⟨location, hl, htarget⟩ := hp.redirectTarget_eq hred
    exact follows_of_redirectTarget hb hb' hl htarget ha endpoint
  refine ⟨hop, ?_⟩
  intro ho hw before after r r' place hx hred endpoint
  have ha : ReadsAlike r.target :=
    readsAlike_of_staysOnWeb (fun _ _ _ hx => (prompted _ _ _ hx).2) ho hw hx
  obtain ⟨location, url, hl, hr, hplace⟩ := hop before after r r' place hx hred ha endpoint
  refine ⟨location, url, hl, hr, ?_⟩
  intro base hp
  obtain ⟨u, hu, htarget, -⟩ := hplace base hp
  have habs : isAbsolute r'.target = true :=
    hw (before ++ [.sent r]) after place r' (by simpa using hx) hred
  exact ⟨u, hu, by rw [resolve, if_pos habs, htarget]⟩

/-- A call for the target whose answers all are redirects. -/
def redirectedRun (target : String) (locations : List String) : List Event :=
  .call none (.send ⟨"GET", target, .empty, none⟩) ::
    locations.map fun location => .signal none 0 (.answer (.ok (redirection location)))

/-- What the call of such a run sends and hears. -/
def redirected (target : String) (locations : List String) : List Utterance :=
  exchanges 0 1 (System.history (plain ⟨.pinned .initial, .default⟩)
    (.idle ⟨.pinned .initial, .default⟩) (redirectedRun target locations))

theorem goesWhereLed_of_redirectedRun :
    ∃ s t r r' r'', System.run (plain ⟨.pinned .initial, .default⟩)
        (.idle ⟨.pinned .initial, .default⟩)
        (redirectedRun "/v1/nodes?a" ["../new/./x", "//mirror:81/y"]) = some s ∧
      s.tasks[0]? = some t ∧ t.job = .send ⟨"GET", "/v1/nodes?a", .empty, none⟩ ∧
      redirected "/v1/nodes?a" ["../new/./x", "//mirror:81/y"] =
        [.sent r, .answered (.ok (redirection "../new/./x")), .sent r',
          .answered (.ok (redirection "//mirror:81/y")), .sent r''] ∧
      [r, r', r''].map (resolve none) = [.ok "http://ironic/v1/nodes?a", .ok "http://ironic/new/x",
        .ok "http://mirror:81/y"] ∧
      GoesWhereLed ⟨"GET", "/v1/nodes?a", .empty, none⟩
        (redirected "/v1/nodes?a" ["../new/./x", "//mirror:81/y"]) := by
  obtain ⟨s, hr, t, ht, hj⟩ :
      ∃ s, System.run (plain ⟨.pinned .initial, .default⟩) (.idle ⟨.pinned .initial, .default⟩)
        (redirectedRun "/v1/nodes?a" ["../new/./x", "//mirror:81/y"]) = some s ∧
        ∃ t, s.tasks[0]? = some t ∧ t.job = .send ⟨"GET", "/v1/nodes?a", .empty, none⟩ :=
    ⟨_, rfl, _, rfl, rfl⟩
  exact ⟨s, t, _, _, _, hr, ht, hj, rfl, rfl, goesWhereLed_of_run hr ht hj 1⟩

/-- The request after the redirect does not go to the place that it names. -/
def Misled (target location : String) : Prop :=
  ∃ r r' url base u elsewhere,
    redirected target [location] = [.sent r, .answered (.ok (redirection location)), .sent r'] ∧
      resolve none r = .ok url ∧ Url.parse url = .ok base ∧ Url.join base location = .ok u ∧
      resolve none r' = .ok elsewhere ∧ elsewhere ≠ u.text

/-- Capital letters in the scheme of a target are a URL to the client only, and so is a place that
is not of HTTP. -/
theorem misled_of_capitals :
    Misled "HTTP://other:6385/v1/nodes" "/v1/x" ∧ Misled "/v1/nodes" "ftp://mirror/x" := by
  constructor
  · exact ⟨_, _, _, _, _, _, rfl, rfl, rfl, rfl, rfl, by decide +kernel⟩
  · exact ⟨_, _, _, _, _, _, rfl, rfl, rfl, rfl, rfl, by decide +kernel⟩

end Attempt

end Session

end Microversion
