import Mathlib.Logic.Function.Iterate
import Microversion.Proofs.Client.Driving
import Microversion.Proofs.Resource.Truncation

/-! # Listings that return

A listing goes wherever the pages lead it, and nothing but the limit holds it back: a
page without items and a link to a page that was read already are followed like any
other. It returns exactly if the session does not lead it on from page to page for
ever, and there is a bound on the requests for each page.
-/

namespace Microversion.Resource.Listing

open Client Http

/-- A listing at work on a client. -/
structure Reading where
  progress : Progress
  fetches : List Fetch
  /-- The request for a page, while a call for it is in progress. -/
  pending : Option Order
  system : System

namespace Reading

variable (c : Client) (l : Listing) (service : Service)

/-- What the call for a page has come to. -/
def answer? (r : Reading) : Option (Except Error Response) :=
  (r.system.tasks[r.fetches.length]?).bind Task.answer?

/-- A call for the next page starts, gets what it waits for, or has ended. -/
def step (r : Reading) : Reading :=
  match r.progress, r.pending with
  | .finished _, _ => r
  | .fetching target gathered, none =>
    match l.order target with
    | .error e => { r with progress := l.resume gathered (.error e) }
    | .ok o =>
      let token := (service r.system.requests).1
      { r with pending := some o, system := r.system.happen c (.call token (.send o)) }
  | .fetching _ gathered, some o =>
    match r.answer? with
    | none => { r with system := r.system.drive c service r.fetches.length }
    | some answer =>
      ⟨l.resume gathered answer, r.fetches ++ [(o, answer)], none, r.system⟩

/-- A listing on a client with no call in progress. -/
def start : Reading := ⟨l.start, [], none, .idle c.start⟩

/-- The listing after some steps. -/
def after (k : ℕ) : Reading := (step c l service)^[k] (start c l)

end Reading

/-- The listing comes to a result. -/
def Returns (l : Listing) (c : Client) (service : Service) : Prop :=
  ∃ k result, (Reading.after c l service k).progress = .finished result

/-- Any number of pages comes, each of which leads on while the limit is not reached. -/
def GoesOn (l : Listing) (c : Client) (service : Service) : Prop :=
  ∀ n, ∃ k pages target, pages.length = n ∧
    (Reading.after c l service k).fetches = pages.map Page.fetch ∧ Leads l pages target

/-- Every page that links to another one holds something. -/
def Yields (l : Listing) (c : Client) (service : Service) : Prop :=
  ∀ k o r, (o, .ok r) ∈ (Reading.after c l service k).fetches → HasLink r →
    l.items (jsonValue r) ≠ []

namespace Reading

variable {c : Client} {l : Listing} {service : Service} {r : Reading}

/-- What holds of a listing at work after every step. -/
structure Sane (c : Client) (l : Listing) (r : Reading) : Prop where
  walks : Walks l r.fetches r.progress
  reaches : ∃ ms, System.Reaches c ms r.system
  free : ∀ k < r.fetches.length, ∀ t, r.system.tasks[k]? = some t → t.holdsLock = false
  idle : r.pending = none → r.system.tasks.length = r.fetches.length
  calling : ∀ o, r.pending = some o → r.system.tasks.length = r.fetches.length + 1 ∧
    (∃ target gathered, r.progress = .fetching target gathered ∧ l.order target = .ok o) ∧
    ∃ t, r.system.tasks[r.fetches.length]? = some t ∧ t.job = .send o

theorem sane_start (c : Client) (l : Listing) : Sane c l (start c l) where
  walks := .start
  reaches := ⟨[], .idle⟩
  free k hk := absurd hk (Nat.not_lt_zero k)
  idle _ := rfl
  calling o ho := by cases ho

section Step

variable {target : String} {gathered : List Json.Value} {o : Order}

/-- What a step comes to. -/
inductive Stepped (c : Client) (l : Listing) (r : Reading) : Reading → Prop where
  | finished {result : Except Error (List Json.Value)} (h : r.progress = .finished result) :
      Stepped c l r r
  | refused {target : String} {gathered : List Json.Value} {e : Error}
      (h : r.progress = .fetching target gathered) (hp : r.pending = none)
      (ho : l.order target = .error e) :
      Stepped c l r { r with progress := l.resume gathered (.error e) }
  /-- A call for a page starts or moves. -/
  | moved {target : String} {gathered : List Json.Value} {o : Order} {m : Move}
      (h : r.progress = .fetching target gathered) (ho : l.order target = .ok o)
      (hm : System.Makes c r.system m) (hnumber : m.number = r.fetches.length)
      (hj : m.before.job = .send o)
      (hp : r.pending = none ∨
        r.pending = some o ∧ r.system.tasks[r.fetches.length]? = some m.before) :
      Stepped c l r { r with pending := some o, system := r.system.after m }
  | answered {target : String} {gathered : List Json.Value} {o : Order}
      {answer : Except Error Response} (h : r.progress = .fetching target gathered)
      (ho : l.order target = .ok o) (hp : r.pending = some o) (ha : r.answer? = some answer) :
      Stepped c l r ⟨l.resume gathered answer, r.fetches ++ [(o, answer)], none, r.system⟩

/-- A call that has not ended gets what it waits for. -/
theorem Sane.exists_move (hs : Sane c l r) (hp : r.pending = some o) {t : Task}
    (ht : r.system.tasks[r.fetches.length]? = some t) (hj : t.job = .send o)
    (ha : r.answer? = none) (service : Service) :
    ∃ m, System.Makes c r.system m ∧ m.number = r.fetches.length ∧ m.before = t ∧
      r.system.drive c service r.fetches.length = r.system.after m := by
  obtain ⟨ms, hreaches⟩ := hs.reaches
  have hanswer : t.answer? = none := by
    rw [answer?, ht] at ha
    exact ha
  refine System.exists_drive hreaches.sound ht (hreaches.answer?_eq_none ht hj hanswer) ?_ service
  intro j u hu hne
  have hlt : j < r.system.tasks.length := (List.getElem?_eq_some_iff.mp hu).1
  rw [(hs.calling o hp).1] at hlt
  exact hs.free j (by omega) u hu

theorem Sane.stepped (hs : Sane c l r) (service : Service) :
    Stepped c l r (step c l service r) := by
  unfold Reading.step
  split
  · next hprogress => exact .finished hprogress
  · next hprogress hpending =>
    split
    · next ho => exact .refused hprogress hpending ho
    · next o ho =>
      obtain ⟨m, hm, hnumber, hbefore, hstart⟩ := System.exists_start c r.system
        (service r.system.requests).1 (.send o)
      dsimp only
      rw [hstart]
      exact .moved hprogress ho hm (hnumber.trans (hs.idle hpending)) (by rw [hbefore]; rfl)
        (.inl hpending)
  · next o hprogress hpending =>
    obtain ⟨-, ⟨target, gathered, hprogress', ho⟩, t, ht, hj⟩ := hs.calling o hpending
    rw [hprogress] at hprogress'
    cases hprogress'
    split
    · next ha =>
      obtain ⟨m, hm, hnumber, rfl, hdrive⟩ := hs.exists_move hpending ht hj ha service
      rw [hdrive]
      have hmoved := Stepped.moved hprogress ho hm hnumber hj (.inr ⟨hpending, ht⟩)
      rwa [← hpending] at hmoved
    · next ha => exact .answered hprogress ho hpending ha

theorem holdsLock_of_answer {t : Task} {answer : Except Error Response}
    (h : t.answer? = some answer) : t.holdsLock = false := by
  unfold Task.holdsLock
  split
  · next hp =>
    rw [Task.answer?, hp] at h
    cases h
  · rfl

theorem Stepped.sane {r' : Reading} (h : Stepped c l r r') (hs : Sane c l r) : Sane c l r' := by
  obtain ⟨ms, hreaches⟩ := hs.reaches
  have hwalks := hs.walks
  cases h with
  | finished => exact hs
  | refused h hp ho =>
    rw [h] at hwalks
    refine ⟨hwalks.refuse ho, hs.reaches, hs.free, hs.idle, ?_⟩
    intro o hcall
    rw [hp] at hcall
    cases hcall
  | @moved target gathered o m h ho hm hnumber hj hp =>
    have hlength : r.system.tasks.length ≤ r.fetches.length + 1 := by
      rcases hp with hp | ⟨hp, -⟩
      · exact Nat.le_succ_of_le (hs.idle hp).le
      · exact (hs.calling o hp).1.le
    refine ⟨hwalks, ⟨_, hreaches.move hm⟩, ?_, by rintro ⟨⟩, ?_⟩
    · -- the calls before have ended
      intro k hk t ht
      dsimp only at hk ht
      rw [System.getElem?_tasks_after hm.number_le, if_neg (by omega)] at ht
      exact hs.free k hk t ht
    · rintro _ ⟨⟩
      refine ⟨?_, ⟨target, gathered, h, ho⟩, m.progress.task, ?_, ?_⟩
      · dsimp only
        rw [System.length_tasks_after hm.number_le]
        omega
      · dsimp only
        rw [System.getElem?_tasks_after hm.number_le, if_pos hnumber.symm]
      · rw [(hreaches.sound.turn hm).job_eq, hj]
  | @answered target gathered o answer h ho hp ha =>
    rw [h] at hwalks
    refine ⟨hwalks.fetch ho answer, hs.reaches, ?_, fun _ => ?_, by rintro _ ⟨⟩⟩
    · intro k hk t ht
      dsimp only at hk ht
      rw [List.length_append, List.length_singleton] at hk
      rcases Nat.lt_succ_iff_lt_or_eq.mp hk with hlt | rfl
      · exact hs.free k hlt t ht
      · rw [answer?, ht] at ha
        exact holdsLock_of_answer ha
    · dsimp only
      rw [(hs.calling o hp).1, List.length_append, List.length_singleton]

theorem after_succ (c : Client) (l : Listing) (service : Service) (k : ℕ) :
    after c l service (k + 1) = step c l service (after c l service k) :=
  Function.iterate_succ_apply' ..

theorem sane_after (c : Client) (l : Listing) (service : Service) (k : ℕ) :
    Sane c l (after c l service k) := by
  induction k with
  | zero => exact sane_start c l
  | succ k ih =>
    rw [after_succ]
    exact (ih.stepped service).sane ih

theorem Stepped.length_fetches_le {r' : Reading} (h : Stepped c l r r') :
    r.fetches.length ≤ r'.fetches.length := by
  cases h with
  | answered =>
    rw [List.length_append]
    exact Nat.le_add_right ..
  | _ => exact Nat.le_refl _

theorem length_fetches_mono (c : Client) (l : Listing) (service : Service) :
    Monotone fun k => (after c l service k).fetches.length := by
  refine monotone_nat_of_le_succ fun k => ?_
  rw [after_succ]
  exact ((sane_after c l service k).stepped service).length_fetches_le

theorem after_of_finished {k k' : ℕ} {result : Except Error (List Json.Value)}
    (h : (after c l service k).progress = .finished result) (hle : k ≤ k') :
    after c l service k' = after c l service k := by
  induction k', hle using Nat.le_induction with
  | base => rfl
  | succ k' _ ih =>
    rw [after_succ, ih, Reading.step, h]

/-- A call for a page ends, since every turn takes from the moves that it has left. -/
theorem exists_answered {k n : ℕ} {t : Task} (hp : (after c l service k).pending = some o)
    (ht : (after c l service k).system.tasks[(after c l service k).fetches.length]? = some t)
    (hn : t.left c (after c l service k).system.negotiator = n) :
    ∃ k', (after c l service k').fetches.length = (after c l service k).fetches.length + 1 ∧
      (after c l service k').pending = none := by
  induction n using Nat.strong_induction_on generalizing k t with
  | _ n ih =>
    have hsane := sane_after c l service k
    obtain ⟨-, ⟨target, gathered, hprogress, -⟩, -⟩ := hsane.calling o hp
    have hstep := hsane.stepped service
    rw [← after_succ] at hstep
    generalize hnext : after c l service (k + 1) = next at hstep
    cases hstep with
    | finished h =>
      rw [hprogress] at h
      cases h
    | refused _ hnone =>
      rw [hp] at hnone
      cases hnone
    | moved _ _ hm hnumber _ hmoved =>
      rcases hmoved with hnone | ⟨hpending, hbefore⟩
      · rw [hp] at hnone
        cases hnone
      · obtain rfl := Option.some.inj (ht.symm.trans hbefore)
        obtain ⟨ms, hreaches⟩ := hsane.reaches
        have hless := hreaches.left_lt hm
        rw [hn] at hless
        have htask := System.getElem?_tasks_after hm.number_le (after c l service k).fetches.length
        rw [if_pos hnumber.symm] at htask
        have hrest := @ih _ hless (k + 1)
        rw [hnext] at hrest
        exact hrest (hpending.symm.trans hp) htask rfl
    | answered =>
      refine ⟨k + 1, ?_⟩
      rw [hnext]
      exact ⟨by rw [List.length_append, List.length_singleton], rfl⟩

/-- A listing that does not return fetches any number of pages. -/
theorem exists_fetched (h : ¬Returns l c service) (n : ℕ) :
    ∃ k, (after c l service k).fetches.length = n ∧ (after c l service k).pending = none := by
  induction n with
  | zero => exact ⟨0, rfl, rfl⟩
  | succ n ih =>
    obtain ⟨k, hlength, hp⟩ := ih
    have hsane := sane_after c l service k
    have hstep := hsane.stepped service
    rw [← after_succ] at hstep
    generalize hnext : after c l service (k + 1) = next at hstep
    cases hstep with
    | @finished result hprogress => exact absurd ⟨k, result, hprogress⟩ h
    | refused hprogress =>
      refine absurd ⟨k + 1, ?_⟩ h
      rw [hnext]
      exact ⟨_, rfl⟩
    | @moved _ _ o m =>
      have hcall := (sane_after c l service (k + 1)).calling o (by rw [hnext])
      obtain ⟨-, -, t, ht, -⟩ := hcall
      obtain ⟨k', hk', hp'⟩ := exists_answered (by rw [hnext]) ht rfl
      refine ⟨k', ?_, hp'⟩
      rw [hk', hnext]
      exact congrArg (· + 1) hlength
    | answered _ _ hcall =>
      rw [hp] at hcall
      cases hcall

end Step

end Reading

section Returns

variable {l : Listing} {c : Client} {service : Service} {pages : List Page} {target : String}

open Reading

theorem goesOn_of_not_returns (h : ¬Returns l c service) : GoesOn l c service := by
  intro n
  obtain ⟨k, hlength, -⟩ := exists_fetched h n
  have hstands := (sane_after c l service k).walks.stands
  cases hprogress : (after c l service k).progress with
  | finished result => exact absurd ⟨k, result, hprogress⟩ h
  | fetching target gathered =>
    rw [hprogress] at hstands
    generalize hfetches : (after c l service k).fetches = fetches at hstands hlength
    cases hstands with
    | @going pages _ hleads => exact ⟨k, pages, target, by simpa using hlength, hfetches, hleads⟩

theorem not_goesOn_of_returns (h : Returns l c service) : ¬GoesOn l c service := by
  intro hgoes
  obtain ⟨k, result, hresult⟩ := h
  obtain ⟨k', pages, target, hlength, hfetches, -⟩ :=
    hgoes ((after c l service k).fetches.length + 1)
  have hmore : (after c l service k').fetches.length =
      (after c l service k).fetches.length + 1 := by
    rw [hfetches, List.length_map, hlength]
  rcases Nat.le_total k k' with hle | hle
  · rw [after_of_finished hresult hle] at hmore
    omega
  · have hmono := length_fetches_mono c l service hle
    dsimp only at hmono
    omega

theorem returns_iff : Returns l c service ↔ ¬GoesOn l c service := by
  constructor
  · exact not_goesOn_of_returns
  · intro h
    by_contra hnot
    exact h (goesOn_of_not_returns hnot)

theorem Leads.length_found_lt (h : Leads l pages target) {n : ℕ} (hn : l.limit? = some n) :
    (l.found pages).length < n := by
  cases h with
  | nil =>
    rw [limit?, Option.filter_eq_some_iff] at hn
    simpa [found] using hn.2
  | concat _ _ _ hmore =>
    rw [isFull, hn, decide_eq_false_iff_not, Nat.not_le] at hmore
    exact hmore

theorem length_le_found (h : ∀ p ∈ pages, l.items p.body ≠ []) :
    pages.length ≤ (l.found pages).length := by
  induction pages with
  | nil => exact Nat.zero_le _
  | cons p pages ih =>
    have hp := List.length_pos_iff.mpr (h p List.mem_cons_self)
    have hpages := ih fun q hq => h q (List.mem_cons_of_mem _ hq)
    rw [found, List.flatMap_cons, List.length_append, List.length_cons]
    rw [found] at hpages
    omega

/-- Pages that hold something exhaust the limit. -/
theorem Leads.length_lt (h : Leads l pages target) {n : ℕ} (hn : l.limit? = some n)
    (hitems : ∀ p ∈ pages, l.items p.body ≠ []) : pages.length < n :=
  Nat.lt_of_le_of_lt (length_le_found hitems) (h.length_found_lt hn)

/-- The last fetch apart, a listing has come past pages that lead on. -/
theorem Stands.exists_leads {fetches : List Fetch} {progress : Progress}
    (h : Stands l fetches progress) : ∃ pages target, Leads l pages target ∧
      pages.map Page.fetch <+: fetches ∧ fetches.length ≤ pages.length + 1 := by
  cases h with
  | @going pages target hleads => exact ⟨pages, target, hleads, List.prefix_rfl, by simp⟩
  | @whole pages target p hleads =>
    exact ⟨pages, target, hleads, ⟨[p.fetch], by simp⟩, by simp⟩
  | @unsent pages target _ hleads => exact ⟨pages, target, hleads, List.prefix_rfl, by simp⟩
  | @failed pages target _ hleads _ e =>
    exact ⟨pages, target, hleads, List.prefix_append .., by simp⟩
  | @astray pages target _ p _ hleads =>
    exact ⟨pages, target, hleads, ⟨[p.fetch], by simp⟩, by simp⟩

theorem Yields.length_lt (h : Yields l c service) {n k : ℕ} (hn : l.limit? = some n)
    (hleads : Leads l pages target)
    (hpages : pages.map Page.fetch <+: (after c l service k).fetches) : pages.length < n := by
  refine hleads.length_lt hn fun p hp => ?_
  exact h k p.order p.response (hpages.subset (List.mem_map_of_mem hp)) (hleads.hasLink p hp)

/-- A listing returns unless page after page leads it on, and there is a bound on the requests of
the call for each page, and so on all of them. Where every page with a link holds something, the
limit is one on the pages. -/
theorem returns_iff_not_goesOn (l : Listing) (c : Client) (service : Service) :
    (Returns l c service ↔ ¬GoesOn l c service) ∧
    (∀ k page, ((Reading.after c l service k).system.requestsOf page).length ≤ c.callBound) ∧
    (∀ k, (Reading.after c l service k).system.requests.length ≤
      ((Reading.after c l service k).fetches.length + 1) * c.callBound) ∧
    ∀ n, l.limit? = some n → Yields l c service →
      Returns l c service ∧ ∀ k, (Reading.after c l service k).fetches.length ≤ n := by
  refine ⟨returns_iff, ?_, ?_, ?_⟩
  · intro k page
    obtain ⟨ms, hreaches⟩ := (sane_after c l service k).reaches
    exact hreaches.length_requestsOf_le page
  · intro k
    have hsane := sane_after c l service k
    obtain ⟨ms, hreaches⟩ := hsane.reaches
    have hcalls : (after c l service k).system.tasks.length ≤
        (after c l service k).fetches.length + 1 := by
      cases hp : (after c l service k).pending with
      | none => exact Nat.le_succ_of_le (hsane.idle hp).le
      | some o => exact (hsane.calling o hp).1.le
    exact Nat.le_trans hreaches.length_requests_le (Nat.mul_le_mul_right _ hcalls)
  · intro n hn hyields
    constructor
    · rw [returns_iff]
      intro hgoes
      obtain ⟨k, pages, target, hlength, hfetches, hleads⟩ := hgoes n
      exact (hyields.length_lt hn hleads (by rw [hfetches])).ne hlength
    · intro k
      obtain ⟨pages, target, hleads, hpages, hle⟩ :=
        (sane_after c l service k).walks.stands.exists_leads
      have hlt := hyields.length_lt hn hleads hpages
      omega

end Returns

section Samples

/-- The session has no token and answers every request with the page. -/
def always (r : Response) : Service := fun _ => (none, .ok r)

/-- What holds of a listing after every step where each response is the page. -/
structure Repeats (c : Client) (r : Response) (reading : Reading) : Prop where
  negotiator : reading.system.negotiator = c.start
  fetched : ∀ f ∈ reading.fetches, f.2 = .ok r
  calling : ∀ o, reading.pending = some o →
    ∃ t, reading.system.tasks[reading.fetches.length]? = some t ∧ t.job = .send o ∧
      ((∃ x, t.phase = .exchanging x) ∨ t.phase = .finished (.ok (.response r)))

section Repeats

variable {c : Client} {l : Listing} {r : Response} {reading : Reading} {o : Order}

/-- A call that need not negotiate sends its request. -/
theorem exists_exchange (hn : c.start.mustNegotiate = false) {s : System}
    (hs : s.negotiator = c.start) (o : Order) :
    ∃ x effects, s.happen c (.call none (.send o)) =
      s.settle s.tasks.length (s.tasks ++ [⟨.send o, 1, .exchanging x⟩])
        ⟨⟨.send o, 1, .exchanging x⟩, c.start, effects⟩ := by
  have hstart : Task.start c none (.send o) s.negotiator =
      Task.firstExchange c none ⟨.send o, 1, .pausing⟩ c.start o := by
    rw [hs, Task.start, Task.beginAttempt]
    dsimp only
    rw [hn, if_neg Bool.false_ne_true]
  let headers := c.withAdditional
    ((withVersion c.start o.headers).orInsert agentHeader (plainValue agent))
  refine ⟨⟨headers, o.target, 0⟩, [.send (Task.request c o ⟨headers, o.target, 0⟩)], ?_⟩
  rw [System.happen, System.step, hstart]
  rfl

/-- A call is answered with a page. -/
theorem drive_always (hr : r.status = 200) {s : System} {k : ℕ} {t : Task} {x : Exchange}
    (ht : s.tasks[k]? = some t) (hj : t.job = .send o) (hp : t.phase = .exchanging x) :
    s.drive c (always r) k =
      s.settle k (s.tasks.set k { t with phase := .finished (.ok (.response r)) })
        ⟨{ t with phase := .finished (.ok (.response r)) }, s.negotiator, []⟩ := by
  have hstep : t.step c none s.negotiator (.answer (.ok r)) =
      some ⟨{ t with phase := .finished (.ok (.response r)) }, s.negotiator, []⟩ := by
    simp [Task.step, hp, hj, Task.received, hr, isRedirect, isFailure, Task.endAttempt_ok]
  simp [System.drive, ht, hp, Phase.due, always, System.happen, System.step, System.admits, hstep]

theorem Repeats.step (h : Repeats c r reading) (hn : c.start.mustNegotiate = false)
    (hr : r.status = 200)
    (hlength : reading.pending = none → reading.system.tasks.length = reading.fetches.length) :
    Repeats c r (reading.step c l (always r)) := by
  unfold Reading.step
  split
  · exact h
  · next hp =>
    split
    · exact ⟨h.negotiator, h.fetched, h.calling⟩
    · next o _ =>
      obtain ⟨x, effects, hexchange⟩ := exists_exchange hn h.negotiator o
      dsimp only [always]
      rw [hexchange]
      refine ⟨rfl, h.fetched, ?_⟩
      rintro _ ⟨⟩
      refine ⟨⟨.send o, 1, .exchanging x⟩, ?_, rfl, .inl ⟨x, rfl⟩⟩
      simp [System.settle, ← hlength hp]
  · next o _ hp =>
    obtain ⟨t, ht, hj, hphase⟩ := h.calling o hp
    split
    · next ha =>
      rcases hphase with ⟨x, hx⟩ | hdone
      · rw [drive_always hr ht hj hx]
        refine ⟨h.negotiator, h.fetched, fun o' ho' => ?_⟩
        obtain rfl := Option.some.inj (hp.symm.trans ho')
        have hlt := (List.getElem?_eq_some_iff.mp ht).1
        refine ⟨{ t with phase := .finished (.ok (.response r)) }, ?_, hj, .inr rfl⟩
        simp [System.settle, hlt]
      · simp [Reading.answer?, ht, Task.answer?, hdone] at ha
    · next answer ha =>
      refine ⟨h.negotiator, ?_, by rintro _ ⟨⟩⟩
      intro f hf
      rcases List.mem_append.mp hf with hf | hf
      · exact h.fetched f hf
      · rw [List.mem_singleton.mp hf]
        rcases hphase with ⟨x, hx⟩ | hdone
        · simp [Reading.answer?, ht, Task.answer?, hx] at ha
        · simp only [Reading.answer?, ht, Task.answer?, hdone, Option.bind_some,
            Option.some.injEq] at ha
          exact ha.symm

theorem repeats_after (hn : c.start.mustNegotiate = false) (hr : r.status = 200) (l : Listing)
    (k : ℕ) : Repeats c r (Reading.after c l (always r) k) := by
  induction k with
  | zero => exact ⟨rfl, by rintro _ ⟨⟩, by rintro _ ⟨⟩⟩
  | succ k ih =>
    rw [Reading.after_succ]
    exact ih.step hn hr (Reading.sane_after c l (always r) k).idle

theorem yields_always (hn : c.start.mustNegotiate = false) (hr : r.status = 200)
    (hitems : l.items (jsonValue r) ≠ []) : Yields l c (always r) := by
  intro k o r' hfetch _
  cases (repeats_after hn hr l k).fetched _ hfetch
  exact hitems

/-- Where every page is empty and links to some page a listing does not return. -/
theorem not_returns_always {link : String} {u : Url} (hn : c.start.mustNegotiate = false)
    (hr : r.status = 200) (hv : l.version = none)
    (hlink : nextLink? (jsonValue r) = some link) (hu : Url.parse link = .ok u)
    (hitems : l.items (jsonValue r) = []) : ¬Returns l c (always r) := by
  rintro ⟨k, result, hresult⟩
  have hfetched := (repeats_after hn hr l k).fetched
  have hstands := (Reading.sane_after c l (always r) k).walks.stands
  rw [hresult] at hstands
  generalize (Reading.after c l (always r) k).fetches = fetches at hfetched hstands
  cases hstands with
  | @whole pages _ p _ _ hlast =>
    have hpages : ∀ q ∈ pages ++ [p], q.response = r := fun q hq =>
      Except.ok.inj (hfetched q.fetch (List.mem_map_of_mem hq))
    rcases suffices_concat_iff.mp hlast with hnone | hfull
    · rw [Page.body, hpages p (List.mem_append_right _ List.mem_cons_self), hlink] at hnone
      cases hnone
    · have hfound : l.found (pages ++ [p]) = [] := by
        refine List.flatMap_eq_nil_iff.mpr fun q hq => ?_
        rw [Page.body, hpages q hq, hitems]
      obtain ⟨n, hlimit, hle⟩ := isFull_iff.mp hfull
      rw [hfound, List.length_nil, Nat.le_zero] at hle
      rw [limit?, Option.filter_eq_some_iff, hle] at hlimit
      exact absurd hlimit.2 (by decide)
  | unsent _ ho =>
    rw [order, hv] at ho
    cases ho
  | failed =>
    cases hfetched _ (List.mem_append_right _ List.mem_cons_self)
  | @astray pages _ _ p _ _ _ hlink' he =>
    have hp : p.response = r := Except.ok.inj
      (hfetched p.fetch (List.mem_map_of_mem (List.mem_append_right _ List.mem_cons_self)))
    rw [Page.body, hp, hlink] at hlink'
    cases hlink'
    rw [hu] at he
    cases he

end Repeats

/-- Two connectors are on every page, and the limit of three is reached. -/
theorem returns_threeConnectors :
    threeConnectors.limit? = some 3 ∧
    Yields threeConnectors (plain ⟨.pinned .initial, .default⟩) (always firstConnectors) ∧
    Returns threeConnectors (plain ⟨.pinned .initial, .default⟩) (always firstConnectors) := by
  have hyields : Yields threeConnectors (plain ⟨.pinned .initial, .default⟩)
      (always firstConnectors) := by
    refine yields_always rfl rfl fun hnone => ?_
    have hlength : (threeConnectors.items (jsonValue firstConnectors)).length = 2 := by
      rfl
    rw [hnone] at hlength
    cases hlength
  obtain ⟨-, -, -, hlimit⟩ := returns_iff_not_goesOn threeConnectors
    (plain ⟨.pinned .initial, .default⟩) (always firstConnectors)
  exact ⟨rfl, hyields, (hlimit 3 rfl hyields).1⟩

/-- A page without nodes that links to itself. -/
def emptyNodes : Response :=
  jsonResponse "\x7b\"nodes\":[],\"next\":\"http://ironic:6385/v1/nodes\"\x7d"

/-- Nothing ends a listing of empty pages, not even a limit. -/
theorem not_returns_emptyNodes :
    (∃ link u, nextLink? (jsonValue emptyNodes) = some link ∧ Url.parse link = .ok u ∧
      u.target = allNodes.firstTarget) ∧
    ¬Returns allNodes (plain ⟨.pinned .initial, .default⟩) (always emptyNodes) ∧
    ¬Returns ⟨.node, some 1, none⟩ (plain ⟨.pinned .initial, .default⟩) (always emptyNodes) := by
  let u : Url := ⟨"http".toList, some ⟨[], none, .domain "ironic".toList, some 6385⟩,
    .rooted ["v1".toList, "nodes".toList], none, none⟩
  have hlink : nextLink? (jsonValue emptyNodes) = some "http://ironic:6385/v1/nodes" := by
    rfl
  have hu : Url.parse "http://ironic:6385/v1/nodes" = .ok u := by rfl
  have hitems : items allNodes (jsonValue emptyNodes) = [] := by
    rw [← List.length_eq_zero_iff]
    rfl
  refine ⟨⟨_, u, hlink, hu, by rfl⟩, ?_, ?_⟩
  · exact not_returns_always rfl rfl rfl hlink hu hitems
  · exact not_returns_always rfl rfl rfl hlink hu hitems

end Samples

end Microversion.Resource.Listing
