import Microversion.Proofs.Client.Allowance

/-! # Versions of single calls

A call may say a version of its own. Its requests say that version until the
call itself, after a refusal, agrees on another one for the rest of its attempt,
which happens only to clients whose version was remembered or is the default. On
a settled client a refusal ends the attempt and changes nothing.
-/

namespace Microversion.Client

open Http

namespace Phase

/-- The exchange in which a request is on its way or was refused. -/
def exchange? : Phase → Option Exchange
  | exchanging x => some x
  | locking (.afterRefusal x _) => some x
  | asking (.afterRefusal x _) _ => some x
  | _ => none

/-- The attempt has failed. -/
def hasFailed : Phase → Bool
  | pausing => true
  | finished (.error _) => true
  | _ => false

/-- The attempt has not come to its first request. -/
def isAhead : Phase → Bool
  | locking purpose => purpose.isAhead
  | asking purpose _ => purpose.isAhead
  | _ => false

theorem exchange?_of_occasion {phase : Phase} (h : phase.occasion = .refusal) :
    ∃ x, phase.exchange? = some x := by
  cases phase with
  | locking purpose => cases purpose <;> first | exact ⟨_, rfl⟩ | cases h
  | asking purpose q => cases purpose <;> first | exact ⟨_, rfl⟩ | cases h
  | _ => cases h

theorem exchange?_of_isAhead {phase : Phase} (h : phase.isAhead = true) :
    phase.exchange? = none := by
  cases phase with
  | locking purpose => cases purpose <;> first | rfl | cases h
  | asking purpose q => cases purpose <;> first | rfl | cases h
  | _ => cases h

theorem isAhead_of_awaits {phase : Phase} {signal : Signal} (ha : phase.awaits signal = true)
    (hw : signal ≠ .wake) (hx : phase.exchange? = none) : phase.isAhead = true := by
  cases phase with
  | locking purpose =>
    cases purpose with
    | afterRefusal x r => cases hx
    | _ => rfl
  | asking purpose q =>
    cases purpose with
    | afterRefusal x r => cases hx
    | _ => rfl
  | exchanging x => cases hx
  | pausing => cases signal <;> first | exact absurd rfl hw | cases ha
  | finished result => cases ha

end Phase

/-- What a call with a version of its own says after it has agreed on some versions. -/
def saying (o : Order) (agreed : List Version) : List HeaderValue :=
  match agreed.getLast? with
  | some v => [plainValue v.text]
  | none => o.headers.values versionHeader

@[simp] theorem saying_nil (o : Order) : saying o [] = o.headers.values versionHeader := rfl

@[simp] theorem saying_concat (o : Order) (vs : List Version) (v : Version) :
    saying o (vs ++ [v]) = [plainValue v.text] := by
  simp [saying]

/-- The versions that an attempt of a call agrees on after refusals. -/
def adoptions (k : Nat) (a : UInt32) (ms : List Move) : List Version :=
  (ms.filter fun m => m.isIn k a && m.occasion == .refusal).flatMap fun m => m.progress.agreed

theorem adoptions_concat (k : Nat) (a : UInt32) (ms : List Move) (m : Move) :
    adoptions k a (ms ++ [m]) = adoptions k a ms ++
      if m.isIn k a && m.occasion == .refusal then m.progress.agreed else [] := by
  simp only [adoptions, List.filter_append, List.flatMap_append, List.filter_cons, List.filter_nil]
  split <;> simp

theorem adoptions_self (ms : List Move) (m : Move) :
    adoptions m.number m.attempt (ms ++ [m]) = adoptions m.number m.attempt ms ++
      if m.occasion = .refusal then m.progress.agreed else [] := by
  rw [adoptions_concat]
  simp [Move.isIn]

theorem adoptions_eq_nil {k : Nat} {a : UInt32} {ms : List Move}
    (h : ∀ m ∈ ms, m.isIn k a = false) : adoptions k a ms = [] := by
  have hf : ms.filter (fun m => m.isIn k a && m.occasion == .refusal) = [] :=
    List.filter_eq_nil_iff.mpr fun m hm => by simp [h m hm]
  rw [adoptions, hf, List.flatMap_nil]

theorem adoptions_concat_of_not {k : Nat} {a : UInt32} {ms : List Move} {m : Move}
    (h : m.isIn k a = false) : adoptions k a (ms ++ [m]) = adoptions k a ms := by
  rw [adoptions_concat]
  simp [h]

namespace Task

variable {c : Client} {token : Option String} {t : Task} {n : Negotiator} {signal : Signal}
  {p : Progress} {o : Order}

@[simp] theorem exchange?_endAttempt (result : Except Error Reply) :
    (t.endAttempt c n result).task.phase.exchange? = none := by
  rcases phase_endAttempt c t n result with h | ⟨-, h⟩ <;> rw [h] <;> rfl

@[simp] theorem isAhead_endAttempt (result : Except Error Reply) :
    (t.endAttempt c n result).task.phase.isAhead = false := by
  rcases phase_endAttempt c t n result with h | ⟨-, h⟩ <;> rw [h] <;> rfl

theorem Concludes.exchange?_eq {purpose : Purpose} (h : Concludes n t purpose signal)
    (ha : purpose.isAhead = true) : t.phase.exchange? = none := by
  cases h with
  | refusal hp => rw [hp]; cases purpose <;> first | rfl | cases ha
  | answer a hp => rw [hp]; cases purpose <;> first | rfl | cases ha

/-- Nothing newer is there for a call with a version of its own. -/
theorem newerVersion?_of_own (hj : t.job = .send o) (ho : o.hasOwnVersion = true)
    (n : Negotiator) (x : Exchange) : t.newerVersion? n x = none := by
  simp [newerVersion?, hj, ho]

namespace Turn

/-- A request is sent with the headers of the exchange that it begins or goes on with. -/
theorem exchange_of_sent (h : Turn c token n t signal p) {r : Request} (hr : r ∈ p.sent) :
    ∃ x, p.task.phase = .exchanging x ∧ r.headers = x.headers := by
  cases h with
  | first => exact ⟨_, rfl, congrArg Request.headers (List.mem_singleton.mp hr)⟩
  | redirect => exact ⟨_, rfl, congrArg Request.headers (List.mem_singleton.mp hr)⟩
  | adopt => exact ⟨_, rfl, congrArg Request.headers (List.mem_singleton.mp hr)⟩
  | agreeFirst => exact ⟨_, rfl, congrArg Request.headers (List.mem_singleton.mp hr)⟩
  | agreeResend => exact ⟨_, rfl, congrArg Request.headers (List.mem_singleton.mp hr)⟩
  | _ => simp at hr

/-- What a call with a version of its own says follows what it has agreed on. -/
theorem carries (h : Turn c token n t signal p) (hj : t.job = .send o)
    (ho : o.hasOwnVersion = true) {vs : List Version}
    (hx : ∀ x, t.phase.exchange? = some x → x.headers.values versionHeader = saying o vs)
    (hz : t.phase.exchange? = none → vs = []) {x : Exchange}
    (hp : p.task.phase.exchange? = some x) : x.headers.values versionHeader =
      saying o (vs ++ if t.phase.occasion = .refusal then p.agreed else []) := by
  cases h with
  | refuse _ hph =>
    cases hp
    simpa [hph, Phase.occasion] using hx _ (by rw [hph]; rfl)
  | @redirect _ y _ target _ hph =>
    cases hp
    simpa [hph, Phase.occasion] using hx y (by rw [hph]; rfl)
  | first hj' hph _ hh =>
    cases hp
    obtain rfl : _ = o := by simpa [hj] using hj'.symm
    have hvs : vs = [] := hz (by rcases hph with hph | hph <;> rw [hph] <;> rfl)
    have hw : t.phase.occasion = .attempt := by rcases hph with hph | hph <;> rw [hph] <;> rfl
    simpa [hvs, hw] using values_requestHeaders_of_own hh ho
  | adopt _ _ hv => simp [newerVersion?_of_own hj ho] at hv
  | @ask purpose _ hph =>
    cases purpose with
    | afterRefusal y r =>
      cases hp
      simpa using hx _ (by rw [hph]; rfl)
    | _ => cases hp
  | @askAgain purpose _ _ a hph =>
    cases purpose with
    | afterRefusal y r =>
      cases hp
      simpa using hx _ (by rw [hph]; rfl)
    | _ => cases hp
  | agreeFirst v hj' hc hh =>
    cases hp
    obtain rfl : _ = o := by simpa [hj] using hj'.symm
    have hw : t.phase.occasion = .attempt := hc.occasion_eq
    simpa [hz (hc.exchange?_eq rfl), hw] using values_requestHeaders_of_own hh ho
  | agreeResend v _ hc =>
    cases hp
    have hw : t.phase.occasion = .refusal := hc.occasion_eq
    simp [hw]
  | queue _ _ hpa =>
    rename_i purpose _ _
    cases purpose <;> cases hp
    cases hpa
  | _ => simp at hp

/-- An attempt that has not come to its first request has not before either. -/
theorem isAhead_cases (h : Turn c token n t signal p) (hp : p.task.phase.isAhead = true) :
    (t.phase = .pausing ∨ t.phase.isAhead = true) ∧ t.phase.occasion = .attempt := by
  cases h with
  | queue hph => rw [hph]; exact ⟨.inl rfl, rfl⟩
  | @ask purpose _ hph =>
    rw [hph]
    cases purpose with
    | afterRefusal x r => cases hp
    | _ => exact ⟨.inr rfl, rfl⟩
  | @askAgain purpose _ _ a hph =>
    rw [hph]
    cases purpose with
    | afterRefusal x r => cases hp
    | _ => exact ⟨.inr rfl, rfl⟩
  | fail => simp at hp
  | answer => simp at hp
  | tell => simp at hp
  | agreeTell => simp at hp
  | agreeFail => simp at hp
  | _ => cases hp

/-- No request is sent before the server has been asked where it has to be. -/
theorem mustNegotiate_eq (h : Turn c token n t signal p)
    (hx : ∀ x, t.phase.exchange? = some x → n.mustNegotiate = false) {x : Exchange}
    (hp : p.task.phase.exchange? = some x) : p.negotiator.mustNegotiate = false := by
  cases h with
  | refuse _ hph => exact hx _ (by rw [hph]; rfl)
  | @redirect _ y _ _ _ hph => exact hx y (by rw [hph]; rfl)
  | first _ _ hn => exact hn
  | @adopt _ y _ _ _ hph => exact hx y (by rw [hph]; rfl)
  | @ask purpose _ hph =>
    cases purpose with
    | afterRefusal y r => exact hx y (by rw [hph]; rfl)
    | _ => cases hp
  | @askAgain purpose _ _ a hph =>
    cases purpose with
    | afterRefusal y r => exact hx y (by rw [hph]; rfl)
    | _ => cases hp
  | agreeFirst => rfl
  | agreeResend => rfl
  | @queue purpose _ _ hpa =>
    cases purpose <;> cases hp
    cases hpa
  | _ => simp at hp

/-- After a refusal a call with a version of its own fails, if not at once then by the answer to
the question it asks, or it agrees on another version. -/
theorem refusal_cases (h : Turn c token n t signal p) (hj : t.job = .send o)
    (ho : o.hasOwnVersion = true) (hw : t.phase.occasion = .refusal) (hf : t.Fits)
    (hq : ∀ purpose q, t.phase = .asking purpose q → q.negotiator = n) :
    (p.sent = [] ∧ p.agreed = [] ∧ p.negotiator = n ∧ (p.task.phase.hasFailed = true ∨
      t.holdsLock = false ∧ p.task.holdsLock = true ∧ p.task.phase.isEnding = true)) ∨
      ∃ v r, n.isSettled = false ∧ p.agreed = [v] ∧ p.negotiator = .agreed v ∧ p.sent = [r] ∧
        r.headers.values versionHeader = [plainValue v.text] := by
  cases h with
  | fail e =>
    refine .inl ⟨by simp, by simp, by simp, .inl ?_⟩
    rcases phase_endAttempt c (t.upon signal) n (.error e) with h | ⟨-, h⟩ <;> rw [h] <;> rfl
  | @ask purpose _ hph =>
    rw [hph] at hw
    cases purpose <;> cases hw
    exact .inl ⟨rfl, rfl, rfl, .inr ⟨by simp [holdsLock, hph], rfl, rfl⟩⟩
  | @askAgain purpose _ _ a hph hl =>
    simp only [Fits, hph] at hf
    rw [hph] at hw
    cases purpose <;> cases hw
    simp [Purpose.isAhead, hl] at hf
  | adopt _ _ hv => simp [newerVersion?_of_own hj ho] at hv
  | agreeResend v _ hc =>
    refine .inr ⟨v, _, hc.not_isSettled (hq _), by simp, by simp, rfl, ?_⟩
    simp [request]
  | answer _ hph => rw [hph] at hw; cases hw
  | tell _ hph => rw [hph] at hw; cases hw
  | queue hph => rw [hph] at hw; cases hw
  | refuse _ hph => rw [hph] at hw; cases hw
  | redirect _ _ hph => rw [hph] at hw; cases hw
  | first _ hph => rcases hph with hph | hph <;> rw [hph] at hw <;> cases hw
  | agreeTell _ _ hc => rw [hc.occasion_eq] at hw; cases hw
  | agreeFail _ _ _ hc => rw [hc.occasion_eq] at hw; cases hw
  | agreeFirst _ _ hc => rw [hc.occasion_eq] at hw; cases hw

end Turn

end Task

namespace System

/-- What is known of calls with versions of their own and of what they have agreed on. -/
structure Tracks (c : Client) (ms : List Move) (s : System) : Prop where
  carries : ∀ (k : Nat) (t : Task) (o : Order) (x : Exchange), s.tasks[k]? = some t →
    t.job = .send o → o.hasOwnVersion = true → t.phase.exchange? = some x →
    x.headers.values versionHeader = saying o (adoptions k t.attempt ms)
  ahead : ∀ (k : Nat) (t : Task), s.tasks[k]? = some t → t.phase.isAhead = true →
    adoptions k t.attempt ms = []
  asked : ∀ (k : Nat) (t : Task) (x : Exchange), s.tasks[k]? = some t →
    t.phase.exchange? = some x → s.negotiator.mustNegotiate = false
  unsettled : ∀ (k : Nat) (a : UInt32), adoptions k a ms ≠ [] →
    c.start.isSettled = false ∧ c.start.mustNegotiate = false

section Tracks

variable {c : Client} {ms : List Move} {s : System} {m : Move}

theorem tracks_idle (c : Client) : Tracks c [] (.idle c.start) where
  carries k t o x h := by simp [idle] at h
  ahead k t h := by simp [idle] at h
  asked k t x h := by simp [idle] at h
  unsettled k a h := absurd rfl h

/-- An attempt agrees on nothing after refusals before it has sent a request. -/
theorem Tracks.adoptions_before (ht : Tracks c ms s) (ha : Affords c ms s) (hs : Sound c s)
    (hm : Makes c s m) (hx : m.before.phase.exchange? = none) :
    adoptions m.number m.attempt ms = [] := by
  rcases ha.attempt_cases hs hm with ⟨hw, hb, he⟩ | ⟨hw, -⟩
  · rw [he]
    exact ht.ahead _ _ hb (Phase.isAhead_of_awaits (Task.awaits_of_step hm.step) hw hx)
  · exact adoptions_eq_nil fun m' hm' => ha.isIn_of_wake hs hm hw hm'

theorem Tracks.carries_before (ht : Tracks c ms s) (ha : Affords c ms s) (hs : Sound c s)
    (hm : Makes c s m) {o : Order} (hj : m.before.job = .send o) (ho : o.hasOwnVersion = true)
    {x : Exchange} (hx : m.before.phase.exchange? = some x) :
    x.headers.values versionHeader = saying o (adoptions m.number m.attempt ms) := by
  rcases ha.attempt_cases hs hm with ⟨-, hb, he⟩ | ⟨-, hp, -⟩
  · exact he ▸ ht.carries _ _ _ _ hb hj ho hx
  · rw [hp] at hx; cases hx

/-- What a move says is what its call has agreed on, or its own version. -/
theorem Tracks.carries_move (ht : Tracks c ms s) (ha : Affords c ms s) (hs : Sound c s)
    (hm : Makes c s m) {o : Order} (hj : m.before.job = .send o) (ho : o.hasOwnVersion = true)
    {x : Exchange} (hx : m.progress.task.phase.exchange? = some x) :
    x.headers.values versionHeader = saying o (adoptions m.number m.attempt (ms ++ [m])) := by
  rw [adoptions_self]
  exact (hs.turn hm).carries hj ho (fun y hy => ht.carries_before ha hs hm hj ho hy)
    (ht.adoptions_before ha hs hm) hx

theorem Tracks.mustNegotiate_before (ht : Tracks c ms s) (hm : Makes c s m) {x : Exchange}
    (hx : m.before.phase.exchange? = some x) : s.negotiator.mustNegotiate = false := by
  rcases hm.origin with ho | ⟨-, job, ho⟩
  · exact ht.asked _ _ x ho hx
  · rw [ho] at hx; cases hx

theorem Tracks.unsettled_after (ht : Tracks c ms s) (hs : Sound c s) (hm : Makes c s m)
    {k : Nat} {a : UInt32} (h : adoptions k a (ms ++ [m]) ≠ []) :
    c.start.isSettled = false ∧ c.start.mustNegotiate = false := by
  by_cases hz : adoptions k a ms = []
  · rw [adoptions_concat, hz, List.nil_append] at h
    split at h
    · next hc =>
      have hw : m.occasion = .refusal := by
        simp only [Bool.and_eq_true, beq_iff_eq] at hc
        exact hc.2
      obtain ⟨x, hx⟩ := Phase.exchange?_of_occasion hw
      rcases hs.writes hm with ⟨-, he⟩ | ⟨v, he, hu, -⟩
      · exact absurd he h
      · rcases hs.agreed with ⟨-, hn⟩ | ⟨w, hw, -⟩
        · exact hn ▸ ⟨hu, ht.mustNegotiate_before hm hx⟩
        · simp [he] at hw
    · exact absurd rfl h
  · exact ht.unsettled k a hz

theorem Tracks.after (ht : Tracks c ms s) (ha : Affords c ms s) (hs : Sound c s)
    (hm : Makes c s m) : Tracks c (ms ++ [m]) (s.after m) where
  carries k t o x hk hj ho hx := by
    rw [getElem?_tasks_after hm.number_le] at hk
    split at hk
    · next he =>
      cases hk
      rw [he]
      exact ht.carries_move ha hs hm ((hs.turn hm).job_eq ▸ hj) ho hx
    · next he =>
      rw [adoptions_concat_of_not (by simp [Move.isIn, Ne.symm he])]
      exact ht.carries k t o x hk hj ho hx
  ahead k t hk hp := by
    rw [getElem?_tasks_after hm.number_le] at hk
    split at hk
    · next he =>
      cases hk
      -- the move is not one after a refusal, so that it adds nothing
      obtain ⟨hb, hw⟩ := (hs.turn hm).isAhead_cases hp
      have hx : m.before.phase.exchange? = none := by
        rcases hb with hb | hb
        · rw [hb]; rfl
        · exact Phase.exchange?_of_isAhead hb
      have hz := ht.adoptions_before ha hs hm hx
      have hw' : m.occasion = .attempt := hw
      rw [he]
      change adoptions m.number m.attempt (ms ++ [m]) = []
      simp [adoptions_self, hz, hw']
    · next he =>
      rw [adoptions_concat_of_not (by simp [Move.isIn, Ne.symm he])]
      exact ht.ahead k t hk hp
  asked k t x hk hx := by
    rw [getElem?_tasks_after hm.number_le] at hk
    rw [negotiator_after]
    split at hk
    · cases hk
      exact (hs.turn hm).mustNegotiate_eq (fun y hy => ht.mustNegotiate_before hm hy) hx
    · rcases hs.writes hm with ⟨hn, -⟩ | ⟨v, -, -, hn, -⟩
      · rw [hn]; exact ht.asked k t x hk hx
      · rw [hn]; rfl
  unsettled k a h := ht.unsettled_after hs hm h

theorem Reaches.tracks (h : Reaches c ms s) : Tracks c ms s := by
  induction h with
  | idle => exact tracks_idle c
  | move hr hm ih => exact ih.after hr.affords hr.sound hm

/-- A call with a version of its own sends its requests under it or under what it has agreed on. -/
theorem Reaches.values_of_sent (hr : Reaches c ms s) (hm : Makes c s m) {o : Order}
    (hj : m.before.job = .send o) (ho : o.hasOwnVersion = true) {r : Request}
    (hsent : r ∈ m.progress.sent) : r.headers.values versionHeader =
      saying o (adoptions m.number m.attempt (ms ++ [m])) := by
  obtain ⟨x, hx, hrx⟩ := (hr.sound.turn hm).exchange_of_sent hsent
  rw [hrx]
  exact hr.tracks.carries_move hr.affords hr.sound hm hj ho (by rw [hx]; rfl)

/-- A call agrees on another version only while the version was remembered or is the default. -/
theorem Reaches.state_of_adoptions (hr : Reaches c ms s) {k : Nat} {a : UInt32}
    (h : adoptions k a ms ≠ []) : c.start.state = .cached ∨ c.start.state = .default := by
  obtain ⟨hs, hn⟩ := hr.tracks.unsettled k a h
  exact c.start.state_of_not_isSettled hs hn

end Tracks

end System

/-- A move that sends no request of the caller and leaves the client as it is, and with which the
attempt has failed or asks its only question. -/
structure Move.Fails (m : Move) : Prop where
  sent : m.progress.sent = []
  agreed : m.progress.agreed = []
  negotiator : m.progress.negotiator = m.seen
  ending : m.progress.task.phase.hasFailed = true ∨ m.before.holdsLock = false ∧
    m.progress.task.holdsLock = true ∧ m.progress.task.phase.isEnding = true

namespace System

variable {c : Client} {s : System} {es : List Event}

/-- Calls with versions of their own keep to them. -/
structure KeepsOwnVersion (c : Client) (ms : List Move) (s : System) : Prop where
  sent : ∀ (e : Event) (m : Move) (o : Order) (r : Request), s.move? c e = some m →
    m.before.job = .send o → o.hasOwnVersion = true → r ∈ m.progress.sent →
    r.headers.values versionHeader = saying o (adoptions m.number m.attempt (ms ++ [m]))
  /-- After a refusal the attempt fails, or a client that has settled nothing agrees on the version
  under which the request is sent again. -/
  refused : ∀ (e : Event) (m : Move) (o : Order), s.move? c e = some m →
    m.before.job = .send o → o.hasOwnVersion = true → m.occasion = .refusal →
    m.Fails ∨ ∃ v r, s.negotiator.isSettled = false ∧ m.progress.agreed = [v] ∧
      m.progress.negotiator = .agreed v ∧ m.progress.sent = [r] ∧
      r.headers.values versionHeader = [plainValue v.text]
  adopted : ∀ (k : Nat) (a : UInt32), adoptions k a ms ≠ [] →
    c.start.state = .cached ∨ c.start.state = .default

/-- Under every schedule a call says its own version until it agrees on another one itself. -/
theorem keepsOwnVersion_of_run (h : run c (.idle c.start) es = some s) :
    KeepsOwnVersion c (history c (.idle c.start) es) s := by
  have hr := reaches_of_run h
  exact {
    sent := by
      intro e m o r hmove hj ho hsent
      exact hr.values_of_sent (makes_of_move? hmove) hj ho hsent
    refused := by
      intro e m o hmove hj ho hw
      have hm := makes_of_move? hmove
      rcases (hr.sound.turn hm).refusal_cases hj ho hw (hr.sound.fits_before hm)
        (fun _ _ => hr.sound.snapshot_before hm) with ⟨hs, ha, hn, he⟩ | hv
      · exact .inl ⟨hs, ha, hm.seen ▸ hn, he⟩
      · exact .inr hv
    adopted := fun k a hne => hr.state_of_adoptions hne }

/-- The version of a call is refused by a server that has the default version. -/
def refusedOwnVersion : List Event :=
  [.call none (.send ⟨"GET", "/v1/nodes", ⟨[(versionHeader, plainValue "1.50")]⟩, none⟩),
    .signal none 0 (.answer (.ok (rangeResponse 406 ⟨1, 1⟩ ⟨1, 20⟩))), .signal none 0 .lock]

theorem keepsOwnVersion_of_refusedOwnVersion :
    ∃ s, run (plain ⟨.pinned .initial, .default⟩) (.idle ⟨.pinned .initial, .default⟩)
        refusedOwnVersion = some s ∧
      KeepsOwnVersion (plain ⟨.pinned .initial, .default⟩)
        (history (plain ⟨.pinned .initial, .default⟩) (.idle ⟨.pinned .initial, .default⟩)
          refusedOwnVersion) s := by
  obtain ⟨s, hs⟩ : ∃ s, run (plain ⟨.pinned .initial, .default⟩)
    (.idle ⟨.pinned .initial, .default⟩) refusedOwnVersion = some s := ⟨_, rfl⟩
  exact ⟨s, hs, keepsOwnVersion_of_run hs⟩

/-- The default version takes the place of the call's own, and stays. -/
theorem ownVersion_replaced :
    ∃ s, run (plain ⟨.pinned .initial, .default⟩) (.idle ⟨.pinned .initial, .default⟩)
        refusedOwnVersion = some s ∧
      (s.log.filterMap fun e => e.2.sent?).map (fun r => r.headers.values versionHeader) =
        [[plainValue "1.50"], [plainValue "1.9"]] ∧
      s.negotiator = .agreed .initial := by
  exact ⟨_, rfl, by decide +kernel, rfl⟩

end System

end Microversion.Client
